import Hookup.Walk
import Hookup.Proofs.ActiveSet
import Mathlib.Data.List.Nodup
import Mathlib.Data.List.Perm.Subperm

/-!
# Walks, hop by hop

A walk is a loop: choose a port, test whether it was left before, go on to the part at the far end.
`walkWithin_cases` says once what a round of it can do, and everything else about walks follows from
that by induction on the rounds that are left.

* `Walked` — the stances a walk passes through, without any test of length; `Reaches` adds the test
  that no port is left twice, so that it describes the states of the loop.
* `Trail` — connections joined end to end in a direction; a walk leaves one (`Walked.trail`).
* **`Reaches.length_le`** — a walk that leaves no port twice is no longer than there are
  connections, so the bound on the length never decides anything.
* **`walk_cases`** — every walk reaches a last stance, where it stops, or cannot choose, or comes
  back to a port that it left before.
-/

namespace Hookup

lemma Direction.eq_or_eq_opposite (side direction : Direction) :
    side = direction ∨ side = direction.opposite := by
  cases side <;> cases direction <;> simp [opposite]

/-! ## Trails -/

/-- Whether connections lead from one part to another in a direction, each going on from the part
to which the one before it leads. -/
def Trail (direction : Direction) : PartKey → List Connection → PartKey → Prop
  | a, [], b => a = b
  | a, c :: rest, b =>
    (c.terminal direction.opposite).key = a ∧ Trail direction (c.terminal direction).key rest b

namespace Trail

variable {direction : Direction} {a b d key : PartKey} {chain rest : List Connection}
  {c : Connection}

lemma append (h : Trail direction a chain b) (h' : Trail direction b rest d) :
    Trail direction a (chain ++ rest) d := by
  induction chain generalizing a with
  | nil =>
      subst h
      exact h'
  | cons c chain ih => exact ⟨h.1, ih h.2⟩

lemma split (h : Trail direction a (chain ++ rest) d) :
    ∃ b, Trail direction a chain b ∧ Trail direction b rest d := by
  induction chain generalizing a with
  | nil => exact ⟨a, rfl, h⟩
  | cons c chain ih =>
      obtain ⟨b, hfirst, hrest⟩ := ih h.2
      exact ⟨b, ⟨h.1, hfirst⟩, hrest⟩

/-- Turned round, connections lead back. -/
lemma reverse (h : Trail direction a chain b) : Trail direction.opposite b chain.reverse a := by
  induction chain generalizing a with
  | nil => exact h.symm
  | cons c chain ih =>
      rw [List.reverse_cons]
      refine (ih h.2).append ⟨?_, h.1⟩
      rw [Direction.opposite_opposite]

/-- Two connections in a row meet at a part. -/
lemma isChain (h : Trail .down a chain b) : chain.IsChain fun c d => c.down.key = d.up.key := by
  induction chain generalizing a with
  | nil => exact .nil
  | cons c chain ih =>
      cases chain with
      | nil => exact .singleton c
      | cons d rest => exact .cons_cons h.2.1.symm (ih h.2)

/-- A trail begins at the part of its first connection. -/
lemma head_key (h : Trail direction a chain b) :
    ∀ c ∈ chain.head?, (c.terminal direction.opposite).key = a := by
  cases chain with
  | nil => simp
  | cons c rest =>
      rintro _ ⟨⟩
      exact h.1

/-- A trail ends at the part of its last connection. -/
lemma last_key (h : Trail direction a chain b) :
    ∀ c ∈ chain.getLast?, (c.terminal direction).key = b := by
  intro c hc
  obtain ⟨front, rfl⟩ := List.getLast?_eq_some_iff.1 hc
  obtain ⟨_, -, -, hlast⟩ := h.split
  exact hlast

/-- A trail splits at every part that it comes to. -/
lemma exists_split (h : Trail direction a chain b)
    (hkey : key ∈ a :: chain.map fun c => (c.terminal direction).key) :
    ∃ front back, front ++ back = chain ∧ Trail direction a front key ∧
      Trail direction key back b := by
  induction chain generalizing a with
  | nil =>
      rw [List.map_nil, List.mem_singleton] at hkey
      subst hkey
      exact ⟨[], [], rfl, rfl, h⟩
  | cons c rest ih =>
      rcases List.mem_cons.1 hkey with rfl | hkey
      · exact ⟨[], c :: rest, rfl, rfl, h⟩
      · rw [List.map_cons] at hkey
        obtain ⟨front, back, rfl, hfront, hback⟩ := ih h.2 hkey
        exact ⟨c :: front, back, rfl, ⟨h.1, hfront⟩, hback⟩

/-- A trail no stretch of which is closed comes to no part twice. -/
lemma nodup (h : Trail direction a chain b)
    (hopen : ∀ front loop back key, chain = front ++ (loop ++ back) →
      Trail direction a front key → Trail direction key loop key → loop = []) :
    (a :: chain.map fun c => (c.terminal direction).key).Nodup := by
  induction chain generalizing a with
  | nil => exact List.nodup_singleton a
  | cons c rest ih =>
      have hrest := ih h.2 fun front loop back key hsplit hfront =>
        hopen (c :: front) loop back key (by rw [hsplit]; rfl) ⟨h.1, hfront⟩
      refine List.nodup_cons.2 ⟨fun hback => ?_, hrest⟩
      -- the trail up to the connection that leads back is closed
      obtain ⟨front, back, hsplit, hloop, -⟩ := h.2.exists_split hback
      have hnil : c :: front = [] :=
        hopen [] (c :: front) back a (by rw [← hsplit]; rfl) rfl ⟨h.1, hloop⟩
      cases hnil

/-- A closed trail can be gone round in both directions. -/
lemma exists_closed (h : Trail direction a chain a) (other : Direction) :
    ∃ turned, turned.Perm chain ∧ Trail other a turned a := by
  rcases other.eq_or_eq_opposite direction with rfl | rfl
  · exact ⟨chain, .refl chain, h⟩
  · exact ⟨chain.reverse, List.reverse_perm chain, h.reverse⟩

end Trail

namespace Terrain

variable {w : Terrain} {direction : Direction} {pol : String} {stance last : Stance}
  {chain : List Connection} {c : Connection} {port : String}

/-! ## One hop -/

lemma mem_of_withInitial? {ports : List String} (h : withInitial? pol ports = some port) :
    port ∈ ports := by
  rw [withInitial?] at h
  split at h
  · cases h
  · exact List.mem_of_find?_eq_some h

/-- **What choosing among ports comes to**: one of the ports, none, or, where choices must be
decided, an error that lists them. -/
theorem pickPort_cases (w : Terrain) (direction : Direction) (pol : String) (stance : Stance)
    (ports : List String) :
    (∃ port ∈ ports, w.pickPort direction pol stance ports = .ok (some port)) ∨
    w.pickPort direction pol stance ports = .ok none ∨
    (w.strict = true ∧ w.pickPort direction pol stance ports =
      .error (.ambiguousPort stance.part.key pol direction ports)) := by
  cases ports with
  | nil => exact .inr (.inl rfl)
  | cons first others =>
      simp only [pickPort]
      split_ifs with hnamed hsingle harrival hstrict
      · exact .inl ⟨first, List.mem_cons_self, rfl⟩
      · exact .inl ⟨first, List.mem_cons_self, rfl⟩
      · exact .inl ⟨stance.port, List.contains_iff_mem.1 harrival, rfl⟩
      · cases hinitial : withInitial? pol (first :: others) with
        | some port => exact .inl ⟨port, mem_of_withInitial? hinitial, rfl⟩
        | none => exact .inr (.inr ⟨hstrict, rfl⟩)
      · cases hinitial : withInitial? pol (first :: others) with
        | some port => exact .inl ⟨port, mem_of_withInitial? hinitial, rfl⟩
        | none => exact .inr (.inl rfl)

/-- The port that is chosen is one of them. -/
lemma mem_of_pickPort {ports : List String}
    (h : w.pickPort direction pol stance ports = .ok (some port)) : port ∈ ports := by
  rcases w.pickPort_cases direction pol stance ports with ⟨picked, hmem, hrun⟩ | hrun | ⟨-, hrun⟩
  · rw [h, Except.ok.injEq, Option.some.injEq] at hrun
    rwa [hrun]
  · rw [h] at hrun
    cases hrun
  · rw [h] at hrun
    cases hrun

/-- A hop leaves by a port that may carry the polarization, along the connection there. -/
lemma nextHop_eq_some (h : w.nextHop direction pol stance = .ok (some (port, c))) :
    port ∈ w.topology.portsCarrying pol stance.part.partType ∧
      w.active.wiring.connectionAt? direction.opposite stance.part.key port = some c := by
  rw [nextHop, Outcome.bind_eq_ok] at h
  obtain ⟨picked, hpick, h⟩ := h
  rw [Outcome.pure_eq_ok, Option.bind_eq_some_iff] at h
  obtain ⟨found, rfl, h⟩ := h
  obtain ⟨d, hd, heq⟩ := Option.map_eq_some_iff.1 h
  obtain ⟨rfl, rfl⟩ := Prod.mk.inj heq
  exact ⟨(List.mem_filter.1 (mem_of_pickPort hpick)).1, hd⟩

/-- Choosing a hop fails only for a choice that cannot be decided. -/
lemma nextHop_eq_error {e : Error} (h : w.nextHop direction pol stance = .error e) :
    w.strict = true ∧ e = .ambiguousPort stance.part.key pol direction
      (w.candidates direction pol stance.part) := by
  rw [nextHop, Outcome.bind_eq_error] at h
  rcases h with h | ⟨picked, -, h⟩
  · rcases w.pickPort_cases direction pol stance (w.candidates direction pol stance.part) with
      ⟨port, -, hport⟩ | hnone | ⟨hstrict, herror⟩
    · rw [hport] at h
      cases h
    · rw [hnone] at h
      cases h
    · rw [herror, Except.error.injEq] at h
      exact ⟨hstrict, h.symm⟩
  · exact absurd h Outcome.pure_ne_error

/-! ## One round -/

/-- **What a round of a walk can do**: fail to choose, find nothing to leave by, come to a port that
was left before or to the bound, find the far part out of service, or go on from there. -/
theorem walkWithin_cases (w : Terrain) (cap : Nat) (direction : Direction) (pol : String)
    (stance : Stance) (left : List (PartKey × String)) :
    (∃ e, w.nextHop direction pol stance = .error e ∧
      w.walkWithin cap direction pol stance left = .error e) ∨
    (w.nextHop direction pol stance = .ok none ∧
      w.walkWithin cap direction pol stance left = .ok []) ∨
    (∃ port c, w.nextHop direction pol stance = .ok (some (port, c)) ∧
      (((cap ≤ left.length ∨ (stance.part.key, port) ∈ left) ∧
        w.walkWithin cap direction pol stance left =
          .error (.topologyCycle stance.part.key port direction)) ∨
      (left.length < cap ∧ (stance.part.key, port) ∉ left ∧
        ((w.active.part? (c.terminal direction).key = none ∧
          w.walkWithin cap direction pol stance left = .ok []) ∨
        (∃ next, w.active.part? (c.terminal direction).key = some next ∧
          w.walkWithin cap direction pol stance left = (c :: ·) <$>
            w.walkWithin cap direction pol ⟨next, (c.terminal direction).port⟩
              ((stance.part.key, port) :: left)))))) := by
  rw [walkWithin]
  cases hhop : w.nextHop direction pol stance with
  | error e => exact .inl ⟨e, rfl, rfl⟩
  | ok hop =>
      rcases hop with _ | ⟨port, c⟩
      · exact .inr (.inl ⟨rfl, rfl⟩)
      · refine .inr (.inr ⟨port, c, rfl, ?_⟩)
        simp only [bind, Except.bind]
        split_ifs with hstop
        · exact .inl ⟨hstop, rfl⟩
        · simp only [not_or, Nat.not_le] at hstop
          refine .inr ⟨hstop.1, hstop.2, ?_⟩
          cases hnext : w.active.part? (c.terminal direction).key with
          | none => exact .inl ⟨rfl, rfl⟩
          | some next => exact .inr ⟨next, rfl, rfl⟩

/-- A round that goes on, given what was chosen. -/
lemma walkWithin_of_new {cap : Nat} {left : List (PartKey × String)}
    (hop : w.nextHop direction pol stance = .ok (some (port, c)))
    (new : (stance.part.key, port) ∉ left) (hcap : left.length < cap) :
    w.walkWithin cap direction pol stance left =
      match w.active.part? (c.terminal direction).key with
      | none => .ok []
      | some next => (c :: ·) <$> w.walkWithin cap direction pol
          ⟨next, (c.terminal direction).port⟩ ((stance.part.key, port) :: left) := by
  have hgo : ¬(cap ≤ left.length ∨ (stance.part.key, port) ∈ left) := by
    simp only [new, or_false]
    omega
  rw [walkWithin, hop]
  simp only [bind, Except.bind]
  rw [dif_neg hgo]
  cases w.active.part? (c.terminal direction).key <;> rfl

/-! ## Many rounds -/

/-- Whether a walk from one stance along some connections comes to another stance. -/
inductive Walked (w : Terrain) (direction : Direction) (pol : String) :
    Stance → List Connection → Stance → Prop
  | nil (stance : Stance) : Walked w direction pol stance [] stance
  | cons {stance last : Stance} {next : Part} {port : String} {c : Connection}
      {chain : List Connection} (hop : w.nextHop direction pol stance = .ok (some (port, c)))
      (arrival : w.active.part? (c.terminal direction).key = some next)
      (onward : Walked w direction pol ⟨next, (c.terminal direction).port⟩ chain last) :
      Walked w direction pol stance (c :: chain) last

/-- The part and port at which a walk in a direction leaves by a connection. -/
def exitOf (direction : Direction) (c : Connection) : PartKey × String :=
  ((c.terminal direction.opposite).key, (c.terminal direction.opposite).port)

/-- The states of a walk: the stances it comes to while it leaves no port twice. -/
def Reaches (w : Terrain) (direction : Direction) (pol : String) (stance : Stance)
    (chain : List Connection) (last : Stance) : Prop :=
  w.Walked direction pol stance chain last ∧ (chain.map (exitOf direction)).Nodup

/-- Whether a walk ends at a stance: no hop can be chosen, or it leads to a part out of service. -/
def Stops (w : Terrain) (direction : Direction) (pol : String) (stance : Stance) : Prop :=
  w.nextHop direction pol stance = .ok none ∨
    ∃ port c, w.nextHop direction pol stance = .ok (some (port, c)) ∧
      w.active.part? (c.terminal direction).key = none

/-- In a set made from records a hop leaves from where the walk stands. -/
lemma isAt_of_nextHop (hw : w.active.Built)
    (h : w.nextHop direction pol stance = .ok (some (port, c))) :
    c.IsAt direction.opposite stance.part.key port :=
  hw.isAt_of_connectionAt? (nextHop_eq_some h).2

lemma exitOf_eq (hw : w.active.Built)
    (h : w.nextHop direction pol stance = .ok (some (port, c))) :
    exitOf direction c = (stance.part.key, port) := by
  rw [exitOf, (isAt_of_nextHop hw h).1, (isAt_of_nextHop hw h).2]

namespace Walked

lemma append {middle : Stance} {rest : List Connection}
    (h : w.Walked direction pol stance chain middle)
    (h' : w.Walked direction pol middle rest last) :
    w.Walked direction pol stance (chain ++ rest) last := by
  induction h with
  | nil => exact h'
  | cons hop arrival _ ih => exact .cons hop arrival (ih h')

lemma split {before after : List Connection}
    (h : w.Walked direction pol stance (before ++ after) last) :
    ∃ middle, w.Walked direction pol stance before middle ∧
      w.Walked direction pol middle after last := by
  induction before generalizing stance with
  | nil => exact ⟨stance, .nil stance, h⟩
  | cons c before ih =>
      cases h with
      | cons hop arrival onward =>
          obtain ⟨middle, hbefore, hafter⟩ := ih onward
          exact ⟨middle, .cons hop arrival hbefore, hafter⟩

/-- A walk leaves a trail. -/
lemma trail (hw : w.active.Built) (h : w.Walked direction pol stance chain last) :
    Trail direction stance.part.key chain last.part.key := by
  induction h with
  | nil => rfl
  | cons hop arrival _ ih =>
      refine ⟨(isAt_of_nextHop hw hop).1, ?_⟩
      rwa [← hw.key_of_part? arrival]

/-- Every connection of a walk is one of the set. -/
lemma has (hw : w.active.Built) (h : w.Walked direction pol stance chain last) :
    ∀ c ∈ chain, w.active.Has c := by
  induction h with
  | nil => simp
  | cons hop _ _ ih =>
      intro d hd
      rcases List.mem_cons.1 hd with rfl | hd
      · exact hw.has_of_connectionAt? (nextHop_eq_some hop).2
      · exact ih d hd

/-- Every connection of a walk leads to a part in service. -/
lemma arrival_isSome (h : w.Walked direction pol stance chain last) :
    ∀ c ∈ chain, (w.active.part? (c.terminal direction).key).isSome = true := by
  induction h with
  | nil => simp
  | cons _ arrival _ ih =>
      intro d hd
      rcases List.mem_cons.1 hd with rfl | hd
      · rw [arrival]
        rfl
      · exact ih d hd

/-- Every connection of a walk that starts from an active part leaves an active part, by a port
that may carry the polarization. -/
lemma exit_carries (hw : w.active.Built) (h : w.Walked direction pol stance chain last)
    (hstart : w.active.part? stance.part.key = some stance.part) :
    ∀ c ∈ chain, ∃ part, w.active.part? (c.terminal direction.opposite).key = some part ∧
      (c.terminal direction.opposite).port ∈ w.topology.portsCarrying pol part.partType := by
  induction h with
  | nil => simp
  | @cons stance last next port c chain hop arrival _ ih =>
      intro d hd
      rcases List.mem_cons.1 hd with rfl | hd
      · rw [(isAt_of_nextHop hw hop).1, (isAt_of_nextHop hw hop).2]
        exact ⟨stance.part, hstart, (nextHop_eq_some hop).1⟩
      · exact ih (hw.part?_key arrival) d hd

end Walked

/-! ## The length of walks -/

/-- **A walk that leaves no port twice takes no connection twice, and so is no longer than there are
connections.** -/
theorem Reaches.length_le (hw : w.active.Built) (h : w.Reaches direction pol stance chain last) :
    chain.Nodup ∧ chain.length ≤ w.active.wiring.count := by
  have hnodup : chain.Nodup := .of_map _ h.2
  obtain ⟨connections, hholds⟩ := hw.exists_holds
  have hsub : chain ⊆ connections := fun c hc =>
    ((hholds.connectionAt?_iff .up _ _ c).1 (h.1.has hw c hc .up)).1
  refine ⟨hnodup, ?_⟩
  rw [hholds.count_eq]
  exact (hnodup.subperm hsub).length_le

/-! ## What becomes of a walk -/

/-- The rounds from a stance on: the connections met so far are the new ones and those that were
left before, and no port among them is left twice. -/
lemma walkWithin_reaches (hw : w.active.Built) (cap : Nat) (direction : Direction) (pol : String)
    (stance : Stance) (left : List (PartKey × String)) (hleft : left.Nodup) :
    ∃ chain last, w.Walked direction pol stance chain last ∧
      ((chain.map (exitOf direction)).reverse ++ left).Nodup ∧
      ((w.walkWithin cap direction pol stance left = .ok chain ∧ w.Stops direction pol last) ∨
      (∃ e, w.nextHop direction pol last = .error e ∧
        w.walkWithin cap direction pol stance left = .error e) ∨
      (∃ port c, w.nextHop direction pol last = .ok (some (port, c)) ∧
        (cap ≤ left.length + chain.length ∨
          (last.part.key, port) ∈ (chain.map (exitOf direction)).reverse ++ left) ∧
        w.walkWithin cap direction pol stance left =
          .error (.topologyCycle last.part.key port direction))) := by
  -- on the rounds that the bound still allows
  induction hn : cap - left.length using Nat.strongRecOn generalizing stance left with
  | ind n ih =>
      rcases w.walkWithin_cases cap direction pol stance left with
        ⟨e, hhop, hrun⟩ | ⟨hhop, hrun⟩ | ⟨port, c, hhop, ⟨hstop, hrun⟩ | ⟨hlt, hnew,
          ⟨hnone, hrun⟩ | ⟨next, hnext, hrun⟩⟩⟩
      · exact ⟨[], stance, .nil stance, hleft, .inr (.inl ⟨e, hhop, hrun⟩)⟩
      · exact ⟨[], stance, .nil stance, hleft, .inl ⟨hrun, .inl hhop⟩⟩
      · refine ⟨[], stance, .nil stance, hleft, .inr (.inr ⟨port, c, hhop, ?_, hrun⟩)⟩
        simpa using hstop
      · exact ⟨[], stance, .nil stance, hleft, .inl ⟨hrun, .inr ⟨port, c, hhop, hnone⟩⟩⟩
      · have hless : cap - ((stance.part.key, port) :: left).length < n := by
          rw [List.length_cons]
          omega
        obtain ⟨chain, last, hwalked, hnodup, hend⟩ :=
          ih _ hless ⟨next, (c.terminal direction).port⟩ _ (List.nodup_cons.2 ⟨hnew, hleft⟩) rfl
        have hexits : ((c :: chain).map (exitOf direction)).reverse ++ left =
            (chain.map (exitOf direction)).reverse ++ (stance.part.key, port) :: left := by
          rw [List.map_cons, List.reverse_cons, exitOf_eq hw hhop, List.append_assoc,
            List.singleton_append]
        refine ⟨c :: chain, last, .cons hhop hnext hwalked, by rwa [hexits], ?_⟩
        rw [hexits, hrun]
        rcases hend with ⟨hok, hstops⟩ | ⟨e, hlast, herror⟩ | ⟨port', d, hlast, hcycle, herror⟩
        · exact .inl ⟨by rw [hok]; rfl, hstops⟩
        · exact .inr (.inl ⟨e, hlast, by rw [herror]; rfl⟩)
        · refine .inr (.inr ⟨port', d, hlast, hcycle.imp_left fun hcap => ?_, by rw [herror]; rfl⟩)
          rw [List.length_cons] at hcap ⊢
          omega

/-- **What becomes of a walk**: it reaches a stance where it stops, or where it cannot choose, or
where the chosen port was left before. -/
theorem walk_cases (hw : w.active.Built) (direction : Direction) (pol : String) (stance : Stance) :
    ∃ chain last, w.Reaches direction pol stance chain last ∧
      ((w.walk direction pol stance = .ok chain ∧ w.Stops direction pol last) ∨
      (∃ e, w.nextHop direction pol last = .error e ∧ w.walk direction pol stance = .error e) ∨
      (∃ port c, w.nextHop direction pol last = .ok (some (port, c)) ∧
        (last.part.key, port) ∈ chain.map (exitOf direction) ∧
        w.walk direction pol stance = .error (.topologyCycle last.part.key port direction))) := by
  obtain ⟨chain, last, hwalked, hnodup, hend⟩ :=
    walkWithin_reaches hw (w.active.wiring.count + 1) direction pol stance [] .nil
  rw [List.append_nil, List.nodup_reverse] at hnodup
  refine ⟨chain, last, ⟨hwalked, hnodup⟩, hend.imp_right (Or.imp_right ?_)⟩
  rintro ⟨port, c, hlast, hcap | hmem, herror⟩
  · have hlength := (Reaches.length_le hw ⟨hwalked, hnodup⟩).2
    rw [List.length_nil] at hcap
    omega
  · rw [List.append_nil, List.mem_reverse] at hmem
    exact ⟨port, c, hlast, hmem, herror⟩

/-- A walk that succeeds reaches a stance where it stops. -/
lemma reaches_of_walk (hw : w.active.Built) (h : w.walk direction pol stance = .ok chain) :
    ∃ last, w.Reaches direction pol stance chain last ∧ w.Stops direction pol last := by
  obtain ⟨chain', last, hreaches, ⟨hok, hstops⟩ | ⟨e, -, herror⟩ | ⟨port, c, -, -, herror⟩⟩ :=
    walk_cases hw direction pol stance
  · rw [h, Except.ok.injEq] at hok
    subst hok
    exact ⟨last, hreaches, hstops⟩
  · rw [h] at herror
    cases herror
  · rw [h] at herror
    cases herror

end Terrain

end Hookup
