import Hookup.Proofs.Chains

/-!
# Walks end, and a cycle error means a cycle

A walk is bounded twice: it must leave no port a second time, and it must not grow longer than there
are connections.  Only the first bound matters.  `Ends` describes a walk under the first bound
alone, and on sets made from records it comes to what `walk` comes to.

* `ends_walkWithin` — from every state that a walk reaches, the loop ends without the second bound.
* **`ends_iff`** — a walk without that bound has one outcome, that of `walk`.
* `ActiveSet.Cycle` — connections that lead from a part back to itself.
* **`exists_cycle_of_follows`** — a walk that reports a cycle has gone round one.
* **`walks_end`** — the main statement, with what it says of sets without cycles.
-/

namespace Hookup

namespace Terrain

variable {w : Terrain} {direction : Direction} {pol : String} {stance start : Stance}
  {chain : List Connection} {left : List (PartKey × String)}
  {outcome outcome' : Except Error (List Connection)}

/-! ## Walks under one bound -/

/-- How a walk ends that may be of any length but leaves no port twice, when it has left the ports
in a list already. -/
inductive Ends (w : Terrain) (direction : Direction) (pol : String) :
    Stance → List (PartKey × String) → Except Error (List Connection) → Prop
  | undecided {stance : Stance} {left : List (PartKey × String)} {e : Error}
      (hop : w.nextHop direction pol stance = .error e) :
      Ends w direction pol stance left (.error e)
  | last {stance : Stance} {left : List (PartKey × String)}
      (hop : w.nextHop direction pol stance = .ok none) : Ends w direction pol stance left (.ok [])
  | again {stance : Stance} {left : List (PartKey × String)} {port : String} {c : Connection}
      (hop : w.nextHop direction pol stance = .ok (some (port, c)))
      (old : (stance.part.key, port) ∈ left) :
      Ends w direction pol stance left (.error (.topologyCycle stance.part.key port direction))
  | gone {stance : Stance} {left : List (PartKey × String)} {port : String} {c : Connection}
      (hop : w.nextHop direction pol stance = .ok (some (port, c)))
      (new : (stance.part.key, port) ∉ left)
      (away : w.active.part? (c.terminal direction).key = none) :
      Ends w direction pol stance left (.ok [])
  | onward {stance : Stance} {left : List (PartKey × String)} {port : String} {c : Connection}
      {next : Part} {outcome : Except Error (List Connection)}
      (hop : w.nextHop direction pol stance = .ok (some (port, c)))
      (new : (stance.part.key, port) ∉ left)
      (arrival : w.active.part? (c.terminal direction).key = some next)
      (rest : Ends w direction pol ⟨next, (c.terminal direction).port⟩
        ((stance.part.key, port) :: left) outcome) :
      Ends w direction pol stance left ((c :: ·) <$> outcome)

/-- An end that is reached at all is reached under every bound that is large enough. -/
lemma Ends.exists_walkWithin_eq (h : w.Ends direction pol stance left outcome) :
    ∃ bound, ∀ cap, bound ≤ cap → w.walkWithin cap direction pol stance left = outcome := by
  induction h with
  | undecided hop =>
      refine ⟨0, fun cap _ => ?_⟩
      rw [walkWithin, hop]
      rfl
  | last hop =>
      refine ⟨0, fun cap _ => ?_⟩
      rw [walkWithin, hop]
      rfl
  | again hop old =>
      refine ⟨0, fun cap _ => ?_⟩
      rw [walkWithin, hop]
      exact dif_pos (.inr old)
  | @gone stance left port c hop new away =>
      refine ⟨left.length + 1, fun cap hcap => ?_⟩
      rw [walkWithin_of_new hop new hcap, away]
  | @onward stance left port c next outcome hop new arrival _ ih =>
      obtain ⟨bound, hbound⟩ := ih
      refine ⟨max bound (left.length + 1), fun cap hcap => ?_⟩
      rw [walkWithin_of_new hop new (by omega), arrival]
      simp only [hbound cap (by omega)]

/-- A walk has one end. -/
lemma Ends.unique (h : w.Ends direction pol stance left outcome)
    (h' : w.Ends direction pol stance left outcome') : outcome = outcome' := by
  obtain ⟨bound, hbound⟩ := h.exists_walkWithin_eq
  obtain ⟨bound', hbound'⟩ := h'.exists_walkWithin_eq
  rw [← hbound (max bound bound') (Nat.le_max_left _ _), hbound' _ (Nat.le_max_right _ _)]

/-- **From every state that a walk reaches it comes to an end**, and the bound has no part in it:
the ports that were left are as many as the connections that were taken, all different. -/
theorem ends_walkWithin (hw : w.active.Built) {cap : Nat} (hcap : w.active.wiring.count < cap)
    (h : w.Reaches direction pol start chain stance) :
    w.Ends direction pol stance (chain.map (exitOf direction)).reverse
      (w.walkWithin cap direction pol stance (chain.map (exitOf direction)).reverse) := by
  -- a state that was reached is never at the bound, so the first case cannot come up
  induction hn : cap - chain.length generalizing chain stance with
  | zero =>
      have hlength := (h.length_le hw).2
      omega
  | succ n ih =>
      have hlength := (h.length_le hw).2
      rcases w.walkWithin_cases cap direction pol stance (chain.map (exitOf direction)).reverse with
        ⟨e, hhop, hrun⟩ | ⟨hhop, hrun⟩ | ⟨port, c, hhop, ⟨hstop, hrun⟩ | ⟨-, hnew,
          ⟨hnone, hrun⟩ | ⟨next, hnext, hrun⟩⟩⟩
      · rw [hrun]
        exact .undecided hhop
      · rw [hrun]
        exact .last hhop
      · rw [hrun]
        refine .again hhop (hstop.resolve_left ?_)
        rw [List.length_reverse, List.length_map]
        omega
      · rw [hrun]
        exact .gone hhop hnew hnone
      · rw [hrun]
        have hexit : ((chain ++ [c]).map (exitOf direction)).reverse =
            (stance.part.key, port) :: (chain.map (exitOf direction)).reverse := by
          rw [List.map_append, List.reverse_append, List.map_singleton, exitOf_eq hw hhop]
          rfl
        have hreaches : w.Reaches direction pol start (chain ++ [c])
            ⟨next, (c.terminal direction).port⟩ := by
          refine ⟨h.1.append (.cons hhop hnext (.nil _)), ?_⟩
          rw [← List.nodup_reverse, hexit]
          exact List.nodup_cons.2 ⟨hnew, List.nodup_reverse.2 h.2⟩
        have hrest := ih hreaches (by rw [List.length_append, List.length_singleton]; omega)
        rw [hexit] at hrest
        exact .onward hhop hnew hnext hrest

/-- **A walk without the bound on its length has one end, and that is the outcome of `walk`.** -/
theorem ends_iff (hw : w.active.Built) :
    w.Ends direction pol stance [] outcome ↔ outcome = w.walk direction pol stance := by
  have hwalk : w.Ends direction pol stance [] (w.walk direction pol stance) :=
    ends_walkWithin hw (Nat.lt_succ_self _) ⟨.nil stance, .nil⟩
  constructor
  · exact fun h => h.unique hwalk
  · rintro rfl
    exact hwalk

/-- **A walk takes no connection twice**, and no more than there are. -/
lemma nodup_of_walk (hw : w.active.Built) (h : w.walk direction pol stance = .ok chain) :
    chain.Nodup ∧ chain.length ≤ w.active.wiring.count := by
  obtain ⟨last, hreaches, -⟩ := reaches_of_walk hw h
  exact hreaches.length_le hw

end Terrain

/-! ## Cycles -/

/-- Two cables, each wired to the other. -/
def Records.ring : Records where
  parts := [⟨"R1", "A", "cable-rfof", none, default⟩, ⟨"R2", "A", "cable-rfof", none, default⟩]
  connections := [
    ⟨⟨"R1", "A", "e"⟩, ⟨"R2", "A", "e"⟩, default⟩,
    ⟨⟨"R2", "A", "e"⟩, ⟨"R1", "A", "e"⟩, default⟩]
  notes := []
  statuses := []
  locations := []

/-- Whether connections of a set lead down from a part back to it. -/
structure ActiveSet.Cycle (s : ActiveSet) (cycle : List Connection) : Prop where
  nonempty : cycle ≠ []
  has : ∀ c ∈ cycle, s.Has c
  closed : ∃ key, Trail .down key cycle key

/-- The parts along a chain. -/
def partsAlong : List Connection → List PartKey
  | [] => []
  | c :: rest => c.up.key :: (c :: rest).map (·.down.key)

/-- Both ends of every connection are along the chain. -/
lemma mem_partsAlong {chain : List Connection} {c : Connection}
    (hmeet : chain.IsChain fun c d => c.down.key = d.up.key) (hc : c ∈ chain)
    (side : Direction) : (c.terminal side).key ∈ partsAlong chain := by
  induction chain with
  | nil => cases hc
  | cons first rest ih =>
      rcases List.mem_cons.1 hc with rfl | hc
      · cases side <;> simp [partsAlong, Connection.terminal]
      cases rest with
      | nil => cases hc
      | cons second rest =>
          obtain ⟨hjoint, hrest⟩ := List.isChain_cons_cons.1 hmeet
          -- the parts along the rest begin with the part where both parts of the chain meet
          have hmem := ih hrest hc
          rw [partsAlong, ← hjoint] at hmem
          exact List.mem_cons_of_mem _ hmem

namespace ActiveSet

variable {s : ActiveSet} {a b : PartKey} {chain : List Connection}

/-- In either direction, a trail that comes back to where it began is a cycle. -/
lemma exists_cycle {direction : Direction} {c : Connection} (hc : c ∈ chain)
    (hhas : ∀ c ∈ chain, s.Has c)
    (h : Trail direction a chain a) : ∃ cycle, s.Cycle cycle ∧ c ∈ cycle := by
  obtain ⟨cycle, hperm, hclosed⟩ := h.exists_closed .down
  have hmem : c ∈ cycle := hperm.mem_iff.2 hc
  refine ⟨cycle, ⟨List.ne_nil_of_mem hmem, fun d hd => ?_, a, hclosed⟩, hmem⟩
  exact hhas d (hperm.mem_iff.1 hd)

lemma rank_lt_of_trail {rank : PartKey → Nat} (hne : chain ≠ [])
    (hrank : ∀ c ∈ chain, rank c.up.key < rank c.down.key) (h : Trail .down a chain b) :
    rank a < rank b := by
  induction chain generalizing a with
  | nil => exact absurd rfl hne
  | cons c rest ih =>
      have hfirst : rank a < rank c.down.key := by
        rw [← h.1]
        exact hrank c List.mem_cons_self
      cases rest with
      | nil =>
          rw [← h.2]
          exact hfirst
      | cons d rest =>
          exact Nat.lt_trans hfirst (ih (List.cons_ne_nil d rest)
            (fun e he => hrank e (List.mem_cons_of_mem _ he)) h.2)

/-- Connections along which some rank always grows form no cycle. -/
lemma acyclic_of_rank (rank : PartKey → Nat)
    (hrank : ∀ c, s.Has c → rank c.up.key < rank c.down.key) : ∀ cycle, ¬ s.Cycle cycle := by
  rintro cycle ⟨hne, hhas, key, hclosed⟩
  exact Nat.lt_irrefl _ (rank_lt_of_trail hne (fun c hc => hrank c (hhas c hc)) hclosed)

/-- Without cycles a trail comes to no part twice. -/
lemma nodup_of_trail (hacyclic : ∀ cycle, ¬ s.Cycle cycle)
    (hhas : ∀ c ∈ chain, s.Has c)
    (h : Trail .down a chain b) : (a :: chain.map (·.down.key)).Nodup := by
  refine h.nodup fun front loop back key hsplit _ hloop => ?_
  by_contra hne
  refine hacyclic loop ⟨hne, fun c hc => hhas c ?_, key, hloop⟩
  rw [hsplit]
  exact List.mem_append_right _ (List.mem_append_left _ hc)

end ActiveSet

namespace Terrain

variable {w : Terrain} {direction : Direction} {pol : String} {stance last : Stance}
  {chain : List Connection} {port : String}

/-- **A walk that has come back to a port it left has gone round a cycle**, by the connection at
that port. -/
theorem exists_cycle_of_reaches (hw : w.active.Built)
    (h : w.Reaches direction pol stance chain last)
    (hback : (last.part.key, port) ∈ chain.map (exitOf direction)) :
    ∃ c cycle, w.active.wiring.connectionAt? direction.opposite last.part.key port = some c ∧
      w.active.Cycle cycle ∧ c ∈ cycle := by
  -- what was walked from that port on leads back to its part
  obtain ⟨c, hc, hexit⟩ := List.mem_map.1 hback
  obtain ⟨hkey, hport⟩ := Prod.mk.inj hexit
  obtain ⟨before, after, rfl⟩ := List.append_of_mem hc
  obtain ⟨middle, -, hround⟩ := h.1.split
  have htrail := hround.trail hw
  have hhas := hround.has hw
  have hmiddle : (c.terminal direction.opposite).key = middle.part.key := htrail.1
  rw [← hmiddle, hkey] at htrail
  obtain ⟨cycle, hcycle, hmem⟩ := ActiveSet.exists_cycle List.mem_cons_self hhas htrail
  refine ⟨c, cycle, ?_, hcycle, hmem⟩
  rw [← hkey, ← hport]
  exact hhas c List.mem_cons_self direction.opposite

end Terrain

namespace Resolver

variable {r : Resolver} {part : PartKey} {port : String} {direction : Direction}

/-- **A cycle that is reported is there**, and the connection at the reported port is part of it. -/
theorem exists_cycle_of_follows (hr : r.active.Built)
    (h : r.Follows (.error (.topologyCycle part port direction))) :
    ∃ c cycle, r.active.wiring.connectionAt? direction.opposite part port = some c ∧
      r.active.Cycle cycle ∧ c ∈ cycle := by
  obtain ⟨_, start, t, pol, from_, -, hfollow⟩ := h
  obtain ⟨way, hwalk⟩ := Terrain.exists_walk_of_follow_eq_error hfollow
  obtain ⟨chain, last, hreaches, ⟨hok, -⟩ | ⟨e, hhop, herror⟩ | ⟨exit, c, -, hback, herror⟩⟩ :=
    Terrain.walk_cases (w := r.terrain t) hr way pol ⟨start, from_⟩
  · rw [hwalk] at hok
    cases hok
  · rw [hwalk, Except.error.injEq] at herror
    rw [← herror] at hhop
    cases (Terrain.nextHop_eq_error hhop).2
  · rw [hwalk, Except.error.injEq] at herror
    obtain ⟨rfl, rfl, rfl⟩ := Error.topologyCycle.inj herror
    exact Terrain.exists_cycle_of_reaches (w := r.terrain t) hr hreaches hback

lemma exists_cycle_of_resolvePart (hr : r.active.Built) {key : PartKey} {pol : PolSelection}
    {hint : Option String}
    (h : r.resolvePart key pol hint = .error (.topologyCycle part port direction)) :
    ∃ c cycle, r.active.wiring.connectionAt? direction.opposite part port = some c ∧
      r.active.Cycle cycle ∧ c ∈ cycle := by
  rcases resolveWithin_error h with hlookup | hfollows
  · cases hlookup
  · exact exists_cycle_of_follows hr hfollows

/-- Without cycles no part is twice on a chain. -/
lemma nodup_of_follows (hr : r.active.Built) (hacyclic : ∀ cycle, ¬ r.active.Cycle cycle)
    {chain : List Connection} (h : r.Follows (.ok chain)) : (partsAlong chain).Nodup := by
  have hsound := sound_of_follows hr h
  cases chain with
  | nil => exact .nil
  | cons c rest =>
      obtain ⟨bottom, htrail⟩ := exists_trail_of_isChain hsound.meet
      exact ActiveSet.nodup_of_trail hacyclic hsound.has htrail

/-- **Walks end, and a cycle error means a cycle.**  On a set made from records, a walk that leaves
no port twice has one end whatever its length, which is the outcome of `walk`; if it succeeds it
takes no connection twice.  A reported cycle is a closed run of connections through the reported
port.  Where there is none, no resolution reports one, and no part is twice on a chain. -/
theorem walks_end {instant : GpsTime} {records : Records} {s : ActiveSet}
    (hs : ActiveSet.ofRecords instant records = .ok s) :
    (∀ t strict direction pol stance,
      (∀ outcome, (⟨s, t, strict⟩ : Terrain).Ends direction pol stance [] outcome ↔
        outcome = (⟨s, t, strict⟩ : Terrain).walk direction pol stance) ∧
      ∀ chain, (⟨s, t, strict⟩ : Terrain).walk direction pol stance = .ok chain →
        chain.Nodup ∧ chain.length ≤ s.wiring.count) ∧
    (∀ catalogue strict key pol hint part port direction,
      (⟨catalogue, s, strict⟩ : Resolver).resolvePart key pol hint =
        .error (.topologyCycle part port direction) →
      ∃ c cycle, s.wiring.connectionAt? direction.opposite part port = some c ∧
        s.Cycle cycle ∧ c ∈ cycle) ∧
    ((∀ cycle, ¬ s.Cycle cycle) → ∀ catalogue strict pol hint,
      (∀ key part port direction, (⟨catalogue, s, strict⟩ : Resolver).resolvePart key pol hint ≠
        .error (.topologyCycle part port direction)) ∧
      (∀ names exact part port direction,
        (⟨catalogue, s, strict⟩ : Resolver).resolveNames names exact pol hint ≠
          .error (.topologyCycle part port direction)) ∧
      ∀ key entry hookupKey chain,
        (⟨catalogue, s, strict⟩ : Resolver).resolvePart key pol hint = .ok (some entry) →
        entry.chains.get? hookupKey = some chain → (partsAlong chain).Nodup) := by
  have hbuilt : s.Built := ⟨instant, records, hs⟩
  refine ⟨fun t strict direction pol stance => ⟨fun outcome => ?_, fun chain hwalk => ?_⟩,
    fun catalogue strict key pol hint part port direction h => ?_,
    fun hacyclic catalogue strict pol hint => ⟨?_, ?_, ?_⟩⟩
  · exact Terrain.ends_iff (w := ⟨s, t, strict⟩) hbuilt
  · exact Terrain.nodup_of_walk (w := ⟨s, t, strict⟩) hbuilt hwalk
  · exact exists_cycle_of_resolvePart (r := ⟨catalogue, s, strict⟩) hbuilt h
  · intro key part port direction h
    obtain ⟨c, cycle, -, hcycle, -⟩ :=
      exists_cycle_of_resolvePart (r := ⟨catalogue, s, strict⟩) hbuilt h
    exact hacyclic cycle hcycle
  · intro names exact part port direction h
    rcases resolveNames_eq_error h with hlookup | ⟨p, -, hpart⟩
    · cases hlookup
    · obtain ⟨c, cycle, -, hcycle, -⟩ :=
        exists_cycle_of_resolvePart (r := ⟨catalogue, s, strict⟩) hbuilt hpart
      exact hacyclic cycle hcycle
  · intro key entry hookupKey chain h hchain
    exact nodup_of_follows (r := ⟨catalogue, s, strict⟩) hbuilt hacyclic
      (resolveWithin_chains h hookupKey chain hchain)

/-- Two cables wired into a ring are reported as a cycle, which is there; the dish has none, and so
no part of it is resolved to a cycle. -/
theorem walks_end_ring_dish :
    (∃ s, ActiveSet.ofRecords ⟨10⟩ .ring = .ok s ∧
      (⟨.hera, s, true⟩ : Resolver).resolvePart ⟨"R1:A"⟩ .all none =
        .error (.topologyCycle ⟨"R1:A"⟩ "e" .up) ∧
      ∃ c cycle, s.wiring.connectionAt? .down ⟨"R1:A"⟩ "e" = some c ∧ s.Cycle cycle ∧ c ∈ cycle) ∧
    ∃ s, ActiveSet.ofRecords ⟨10⟩ .dish = .ok s ∧ ∀ key part port direction,
      (⟨.hera, s, true⟩ : Resolver).resolvePart key .all none ≠
        .error (.topologyCycle part port direction) := by
  constructor
  · have hring : (ActiveSet.ofRecords ⟨10⟩ .ring).toOption.any (fun s =>
        decide ((⟨.hera, s, true⟩ : Resolver).resolvePart ⟨"R1:A"⟩ .all none =
          .error (.topologyCycle ⟨"R1:A"⟩ "e" .up))) = true := by
      decide +kernel
    obtain ⟨s, hs, hrun⟩ := Outcome.exists_of_any hring
    have hcycle := of_decide_eq_true hrun
    exact ⟨s, hs, hcycle, (walks_end hs).2.1 _ _ _ _ _ _ _ _ hcycle⟩
  · let rank (key : PartKey) : Nat :=
      if key.text = "HH1:A" then 0 else if key.text = "A1:H" then 1 else 2
    have hrank : ∀ c ∈ ActiveSet.activeConnections ⟨10⟩ Records.dish.connections,
        rank c.up.key < rank c.down.key := by
      decide +kernel
    have hdish : (ActiveSet.ofRecords ⟨10⟩ .dish).toOption.any (fun _ => true) = true := by
      decide +kernel
    obtain ⟨s, hs, -⟩ := Outcome.exists_of_any hdish
    have hacyclic : ∀ cycle, ¬ s.Cycle cycle := ActiveSet.acyclic_of_rank rank fun c hc =>
      hrank c ((ActiveSet.has_iff hs).1 hc)
    exact ⟨s, hs, ((walks_end hs).2.2 hacyclic .hera true .all none).1⟩

end Resolver

end Hookup
