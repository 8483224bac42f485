import Hookup.Catalogue.Hera
import Hookup.Proofs.Cycles
import Hookup.Proofs.Maximality

/-!
# On unambiguous wiring a walk is the signal path

A walk chooses hop by hop, and what it finds depends on where it starts.  Where the wiring leaves
nothing to choose this dependence disappears: the connections that carry a polarization lead from
each part to at most one other, and back, so that they form paths and loops, and following the
polarization from any part gives the path or the loop on which the part lies.

The reference is stated without walks.  A `Ray` is what lies ahead of a part in one direction,
`Spans` a path that goes on at neither end, `OnLoop` a path that leads back.

* `Unambiguous` — no part has two connections for the polarization on one side, and a connection
  that may carry it at one end may do so at the other.
* `Ray.unique`, `Ray.eq_nil_of_closed` — what lies ahead is determined, and it is not a loop.
* **`walk_dichotomy`** — a walk either finds the ray from its part or comes back to that very part.
* **`follow_signalPath`** — following a polarization reports a loop exactly where there is one, and
  gives the whole path from every part on it.
-/

namespace Hookup

lemma Topology.nodup_portsCarrying {t : Topology} {pol partType : String} :
    (t.portsCarrying pol partType).Nodup :=
  Topology.nodup_portsOf.filter _

namespace Terrain

variable {w : Terrain} {direction : Direction} {pol port : String} {stance last : Stance}
  {part : Part} {key far mid top bottom : PartKey} {c d : Connection}
  {chain front loop : List Connection}

/-! ## Connections that carry a polarization -/

/-- Whether a connection joins ports of active parts that a polarization may pass. -/
structure Carries (w : Terrain) (pol : String) (c : Connection) : Prop where
  has : w.active.Has c
  admits : ∀ side, w.Admits pol side c

/-- Whether the wiring leaves nothing to choose: a part has on each side at most one connection for
the polarization, and a connection for it ends at such a port at either end, unless the part there
is out of service. -/
structure Unambiguous (w : Terrain) (pol : String) : Prop where
  single : ∀ side c d, w.active.Has c → w.active.Has d → w.Admits pol side c →
    w.Admits pol side d → (c.terminal side).key = (d.terminal side).key → c = d
  through : ∀ side c, w.active.Has c → w.Admits pol side c →
    (w.active.part? (c.terminal side.opposite).key).isSome = true → w.Admits pol side.opposite c

/-- What `Unambiguous` says of the connections of a list. -/
def ClearAmong (w : Terrain) (pol : String) (connections : List Connection) : Prop :=
  ∀ side, ∀ c ∈ connections, w.Admits pol side c →
    (∀ d ∈ connections, w.Admits pol side d →
      (c.terminal side).key = (d.terminal side).key → c = d) ∧
    ((w.active.part? (c.terminal side.opposite).key).isSome = true →
      w.Admits pol side.opposite c)

instance (w : Terrain) (pol : String) (connections : List Connection) :
    Decidable (w.ClearAmong pol connections) :=
  inferInstanceAs (Decidable (∀ side, ∀ c ∈ connections, w.Admits pol side c → _ ∧ _))

/-- Whether the wiring of a set is unambiguous can be decided on the active records. -/
lemma unambiguous_iff_clearAmong {instant : GpsTime} {records : Records}
    (hs : ActiveSet.ofRecords instant records = .ok w.active) : w.Unambiguous pol ↔
      w.ClearAmong pol (ActiveSet.activeConnections instant records.connections) := by
  have hall : ∀ c, w.active.Has c ↔
      c ∈ ActiveSet.activeConnections instant records.connections := fun c =>
    ActiveSet.has_iff hs
  constructor
  · intro hu side c hc hadmits
    refine ⟨fun d hd hadmits' hkey => ?_, hu.through side c ((hall c).2 hc) hadmits⟩
    exact hu.single side c d ((hall c).2 hc) ((hall d).2 hd) hadmits hadmits' hkey
  · intro h
    constructor
    · intro side c d hc hd hadmits hadmits' hkey
      exact (h side c ((hall c).1 hc) hadmits).1 d ((hall d).1 hd) hadmits' hkey
    · intro side c hc hadmits
      exact (h side c ((hall c).1 hc) hadmits).2

lemma Unambiguous.eq_of_key (hu : w.Unambiguous pol) (hc : w.Carries pol c) (hd : w.Carries pol d)
    (side : Direction) (hkey : (c.terminal side).key = (d.terminal side).key) : c = d :=
  hu.single side c d hc.has hd.has (hc.admits side) (hd.admits side) hkey

/-- A hop between active parts carries the polarization at both ends. -/
lemma Unambiguous.carries (hu : w.Unambiguous pol) (h : w.Passes direction pol c) :
    w.Carries pol c := by
  have hexit : w.Admits pol direction.opposite c := h.exit
  refine ⟨h.has, fun side => ?_⟩
  rcases side.eq_or_eq_opposite direction with rfl | rfl
  · have harrival := hu.through side.opposite c h.has hexit
    rw [Direction.opposite_opposite] at harrival
    exact harrival h.arrival
  · exact hexit

/-! ## What lies ahead of a part -/

/-- Whether connections that carry a polarization lead on from a part in a direction, as far as
there are any. -/
structure Ray (w : Terrain) (pol : String) (direction : Direction) (key : PartKey)
    (chain : List Connection) : Prop where
  carries : ∀ c ∈ chain, w.Carries pol c
  ends : ∃ far, Trail direction key chain far ∧
    ∀ c, w.Carries pol c → (c.terminal direction.opposite).key ≠ far

namespace Ray

variable {chain' : List Connection}

/-- **Whatever leads on from a part is the beginning of its ray**, and the ray of the part to which
it leads is the rest. -/
theorem exists_append (hu : w.Unambiguous pol) (h : w.Ray pol direction key chain)
    (hcarries : ∀ c ∈ front, w.Carries pol c) (hfront : Trail direction key front mid) :
    ∃ rest, chain = front ++ rest ∧ w.Ray pol direction mid rest := by
  -- on what leads on: its first connection can only be the first one of the ray
  induction front generalizing key chain with
  | nil =>
      subst hfront
      exact ⟨chain, rfl, h⟩
  | cons c front ih =>
      obtain ⟨hall, far, htrail, hlast⟩ := h
      have hc := hcarries c List.mem_cons_self
      cases chain with
      | nil =>
          subst htrail
          exact absurd hfront.1 (hlast c hc)
      | cons d chain =>
          have hd := hall d List.mem_cons_self
          have hsame : c = d := hu.eq_of_key hc hd direction.opposite (hfront.1.trans htrail.1.symm)
          subst hsame
          have hrest : w.Ray pol direction (c.terminal direction).key chain :=
            ⟨fun e he => hall e (List.mem_cons_of_mem _ he), far, htrail.2, hlast⟩
          obtain ⟨rest, rfl, hray⟩ :=
            ih hrest (fun e he => hcarries e (List.mem_cons_of_mem _ he)) hfront.2
          exact ⟨rest, rfl, hray⟩

/-- A part has one ray in each direction. -/
theorem unique (hu : w.Unambiguous pol) (h : w.Ray pol direction key chain)
    (h' : w.Ray pol direction key chain') : chain = chain' := by
  obtain ⟨far, htrail, hlast⟩ := h'.ends
  obtain ⟨rest, rfl, hray⟩ := h.exists_append hu h'.carries htrail
  cases rest with
  | nil => exact List.append_nil chain'
  | cons c rest =>
      obtain ⟨_, hbegin, _⟩ := hray.ends
      exact absurd hbegin.1 (hlast c (hray.carries c List.mem_cons_self))

/-- A part that connections lead back to has no ray. -/
theorem eq_nil_of_closed (hu : w.Unambiguous pol) (h : w.Ray pol direction key chain)
    (hcarries : ∀ c ∈ loop, w.Carries pol c) (hclosed : Trail direction key loop key) :
    loop = [] := by
  obtain ⟨rest, hsplit, hray⟩ := h.exists_append hu hcarries hclosed
  have hrest : chain = rest := h.unique hu hray
  rw [hrest, List.self_eq_append_left] at hsplit
  exact hsplit

lemma nodup (hu : w.Unambiguous pol) (h : w.Ray pol direction key chain) :
    (key :: chain.map fun c => (c.terminal direction).key).Nodup := by
  obtain ⟨far, htrail, -⟩ := h.ends
  refine htrail.nodup fun front loop back mid hsplit hfront hloop => ?_
  have hcarries : ∀ c ∈ front ++ (loop ++ back), w.Carries pol c := hsplit ▸ h.carries
  obtain ⟨rest, -, hray⟩ :=
    h.exists_append hu (fun c hc => hcarries c (List.mem_append_left _ hc)) hfront
  refine hray.eq_nil_of_closed hu (fun c hc => hcarries c ?_) hloop
  exact List.mem_append_right _ (List.mem_append_left _ hc)

end Ray

/-! ## Walks on unambiguous wiring -/

lemma exists_admits_of_mem_candidates (hw : w.active.Built)
    (hpart : w.active.part? part.key = some part) (h : port ∈ w.candidates direction pol part) :
    ∃ c, w.active.Has c ∧ w.Admits pol direction.opposite c ∧
      c.IsAt direction.opposite part.key port := by
  obtain ⟨hcarried, hwired⟩ := List.mem_filter.1 h
  obtain ⟨c, hc⟩ := Option.isSome_iff_exists.1 hwired
  obtain ⟨hhas, hkey, hport⟩ := hw.connectionAt?_iff.1 hc
  refine ⟨c, hhas, ⟨part, ?_, ?_⟩, hkey, hport⟩
  · rw [hkey, hpart]
  · rwa [hport]

/-- The port of the only connection for the polarization is the only candidate. -/
lemma candidates_of_admits (hw : w.active.Built) (hu : w.Unambiguous pol)
    (hpart : w.active.part? part.key = some part) (hc : w.active.Has c)
    (hadmits : w.Admits pol direction.opposite c)
    (hkey : (c.terminal direction.opposite).key = part.key) :
    w.candidates direction pol part = [(c.terminal direction.opposite).port] := by
  have honly : ∀ port ∈ w.candidates direction pol part,
      port = (c.terminal direction.opposite).port := by
    intro port hport
    obtain ⟨d, hd, hdadmits, hat⟩ := exists_admits_of_mem_candidates hw hpart hport
    have hsame : c = d :=
      hu.single direction.opposite c d hc hd hadmits hdadmits (hkey.trans hat.1.symm)
    rw [hsame, hat.2]
  have hmem : (c.terminal direction.opposite).port ∈ w.candidates direction pol part := by
    obtain ⟨own, hown, hcarried⟩ := hadmits
    rw [hkey, hpart, Option.some.injEq] at hown
    subst hown
    refine List.mem_filter.2 ⟨hcarried, ?_⟩
    rw [← hkey, hc]
    rfl
  have hnodup : (w.candidates direction pol part).Nodup := Topology.nodup_portsCarrying.filter _
  refine List.perm_singleton.1 ((List.perm_ext_iff_of_nodup hnodup (List.nodup_singleton _)).2 ?_)
  intro port
  rw [List.mem_singleton]
  exact ⟨honly port, fun h => h ▸ hmem⟩

lemma nextHop_of_admits (hw : w.active.Built) (hu : w.Unambiguous pol)
    (hstart : w.active.part? stance.part.key = some stance.part) (hc : w.active.Has c)
    (hadmits : w.Admits pol direction.opposite c)
    (hkey : (c.terminal direction.opposite).key = stance.part.key) :
    w.nextHop direction pol stance =
      .ok (some ((c.terminal direction.opposite).port, c)) := by
  rw [nextHop_eq_some_iff, candidates_of_admits hw hu hstart hc hadmits hkey]
  refine ⟨?_, ?_⟩
  · by_cases hlabelled : w.Labelled pol stance.part
    · rw [pickPort_of_labelled hlabelled, List.head?_cons]
    · exact pickPort_of_only hlabelled
  · rw [← hkey]
    exact hc direction.opposite

lemma nextHop_ne_error {e : Error} (hw : w.active.Built) (hu : w.Unambiguous pol)
    (hstart : w.active.part? stance.part.key = some stance.part) :
    w.nextHop direction pol stance ≠ .error e := by
  intro herror
  cases hcandidates : w.candidates direction pol stance.part with
  | nil =>
      have hnone : w.nextHop direction pol stance = .ok none := by
        rw [nextHop_eq_none, hcandidates]
        rfl
      rw [hnone] at herror
      cases herror
  | cons port ports =>
      have hport : port ∈ w.candidates direction pol stance.part := by
        rw [hcandidates]
        exact List.mem_cons_self
      obtain ⟨c, hc, hadmits, hat⟩ := exists_admits_of_mem_candidates hw hstart hport
      rw [nextHop_of_admits hw hu hstart hc hadmits hat.1] at herror
      cases herror

/-- Where a walk stops, the polarization is carried no further. -/
lemma Stops.not_carries (hw : w.active.Built) (hu : w.Unambiguous pol)
    (hstart : w.active.part? stance.part.key = some stance.part)
    (h : w.Stops direction pol stance) (hc : w.Carries pol c) :
    (c.terminal direction.opposite).key ≠ stance.part.key := by
  intro hkey
  have hhop := nextHop_of_admits hw hu hstart hc.has (hc.admits direction.opposite) hkey
  rcases h with hnone | ⟨port, d, hhop', hgone⟩
  · rw [hhop] at hnone
    cases hnone
  · rw [hhop, Except.ok.injEq, Option.some.injEq] at hhop'
    obtain ⟨-, rfl⟩ := Prod.mk.inj hhop'
    obtain ⟨next, hnext, -⟩ := hc.admits direction
    rw [hgone] at hnext
    cases hnext

lemma Walked.active_last (hw : w.active.Built) (h : w.Walked direction pol stance chain last)
    (hstart : w.active.part? stance.part.key = some stance.part) :
    w.active.part? last.part.key = some last.part := by
  induction h with
  | nil => exact hstart
  | cons _ arrival _ ih => exact ih (hw.part?_key arrival)

/-- Where a walk comes back to a port that it left, it has come back to where it started: two
different connections never lead to one part. -/
lemma Reaches.closed (hw : w.active.Built) (hu : w.Unambiguous pol)
    (h : w.Reaches direction pol stance chain last) (hcarries : ∀ c ∈ chain, w.Carries pol c)
    (hback : (last.part.key, port) ∈ chain.map (exitOf direction)) :
    last.part.key = stance.part.key := by
  obtain ⟨c, hc, hexit⟩ := List.mem_map.1 hback
  have hkey : (c.terminal direction.opposite).key = last.part.key := (Prod.mk.inj hexit).1
  obtain ⟨before, after, rfl⟩ := List.append_of_mem hc
  obtain ⟨middle, hfront, hround⟩ := (h.1.trail hw).split
  have hmiddle : middle = last.part.key := hround.1.symm.trans hkey
  rcases List.eq_nil_or_concat' before with rfl | ⟨front, d, rfl⟩
  · exact hmiddle.symm.trans hfront.symm
  · -- the connection by which the walk first came there, and the one by which it came back
    exfalso
    have hd : (d.terminal direction).key = middle := hfront.last_key d (by simp)
    have hne : c :: after ≠ [] := List.cons_ne_nil c after
    obtain ⟨e, he⟩ := Option.isSome_iff_exists.1 (List.getLast?_isSome.2 hne)
    have hekey : (e.terminal direction).key = last.part.key := hround.last_key e he
    have hemem : e ∈ c :: after := List.mem_of_getLast? he
    have hsame : d = e := hu.eq_of_key (hcarries d (by simp))
      (hcarries e (List.mem_append_right _ hemem)) direction (hd.trans (hmiddle.trans hekey.symm))
    have hnodup := (h.length_le hw).1
    exact List.disjoint_of_nodup_append hnodup (by simp) (hsame ▸ hemem)

/-- **A walk either finds the ray from its part or comes back to that very part.** -/
theorem walk_dichotomy (hw : w.active.Built) (hu : w.Unambiguous pol)
    (hpart : w.active.part? part.key = some part) (port : String) (direction : Direction) :
    (∃ chain, w.Ray pol direction part.key chain ∧
      w.walk direction pol ⟨part, port⟩ = .ok chain) ∨
    ∃ loop exit, loop ≠ [] ∧ (∀ c ∈ loop, w.Carries pol c) ∧
      Trail direction part.key loop part.key ∧
      w.walk direction pol ⟨part, port⟩ = .error (.topologyCycle part.key exit direction) := by
  obtain ⟨chain, last, hreaches, hend⟩ := walk_cases hw direction pol ⟨part, port⟩
  have hcarries : ∀ c ∈ chain, w.Carries pol c := fun c hc =>
    hu.carries (hreaches.1.passes hw hpart c hc)
  have htrail := hreaches.1.trail hw
  have hlast := hreaches.1.active_last hw hpart
  -- a walk cannot fail to choose here, so it stops or comes back
  rcases hend with ⟨hok, hstops⟩ | ⟨e, hhop, -⟩ | ⟨exit, c, -, hback, herror⟩
  · exact .inl ⟨chain, ⟨hcarries, _, htrail, fun c => hstops.not_carries hw hu hlast⟩, hok⟩
  · exact absurd hhop (nextHop_ne_error hw hu hlast)
  · have hclosed := hreaches.closed hw hu hcarries hback
    have hne : chain ≠ [] := by
      rintro rfl
      cases hback
    rw [hclosed] at htrail herror
    exact .inr ⟨chain, exit, hne, hcarries, htrail, herror⟩

lemma Ray.walk_eq (hw : w.active.Built) (hu : w.Unambiguous pol)
    (hpart : w.active.part? part.key = some part) (h : w.Ray pol direction part.key chain) :
    w.walk direction pol ⟨part, port⟩ = .ok chain := by
  rcases walk_dichotomy hw hu hpart port direction with
    ⟨found, hray, hrun⟩ | ⟨loop, exit, hne, hcarries, hclosed, -⟩
  · rw [hrun, h.unique hu hray]
  · exact absurd (h.eq_nil_of_closed hu hcarries hclosed) hne

/-! ## Paths and loops -/

/-- Whether connections that carry a polarization make a path from one part down to another that
goes on at neither end. -/
structure Spans (w : Terrain) (pol : String) (top : PartKey) (chain : List Connection)
    (bottom : PartKey) : Prop where
  carries : ∀ c ∈ chain, w.Carries pol c
  trail : Trail .down top chain bottom
  first : ∀ c, w.Carries pol c → c.down.key ≠ top
  last : ∀ c, w.Carries pol c → c.up.key ≠ bottom

/-- Whether connections that carry a polarization lead down from a part back to it. -/
def OnLoop (w : Terrain) (pol : String) (key : PartKey) : Prop :=
  ∃ loop, loop ≠ [] ∧ (∀ c ∈ loop, w.Carries pol c) ∧ Trail .down key loop key

/-- A loop leads back in both directions. -/
lemma onLoop_iff (direction : Direction) : w.OnLoop pol key ↔
    ∃ loop, loop ≠ [] ∧ (∀ c ∈ loop, w.Carries pol c) ∧ Trail direction key loop key := by
  have hturn : ∀ side other : Direction,
      (∃ loop, loop ≠ [] ∧ (∀ c ∈ loop, w.Carries pol c) ∧ Trail side key loop key) →
      ∃ loop, loop ≠ [] ∧ (∀ c ∈ loop, w.Carries pol c) ∧ Trail other key loop key := by
    rintro side other ⟨loop, hne, hcarries, hclosed⟩
    obtain ⟨turned, hperm, hturned⟩ := hclosed.exists_closed other
    refine ⟨turned, fun hnil => hne ?_, fun c hc => hcarries c (hperm.mem_iff.1 hc), hturned⟩
    rw [hnil] at hperm
    exact hperm.nil_eq.symm
  exact ⟨hturn .down direction, hturn direction .down⟩

namespace Spans

/-- The part of a path above one of its parts, turned round, is the ray up from there. -/
lemma exists_rays (h : w.Spans pol top chain bottom)
    (hkey : key ∈ top :: chain.map (·.down.key)) :
    ∃ above below, above.reverse ++ below = chain ∧ w.Ray pol .up key above ∧
      w.Ray pol .down key below := by
  obtain ⟨front, back, rfl, hfront, hback⟩ := h.trail.exists_split hkey
  refine ⟨front.reverse, back, by rw [List.reverse_reverse], ⟨fun c hc => ?_, top, ?_, h.first⟩,
    ⟨fun c hc => ?_, bottom, hback, h.last⟩⟩
  · exact h.carries c (List.mem_append_left _ (List.mem_reverse.1 hc))
  · exact hfront.reverse
  · exact h.carries c (List.mem_append_right _ hc)

lemma of_rays {above below : List Connection} (hup : w.Ray pol .up key above)
    (hdown : w.Ray pol .down key below) : ∃ top bottom,
    w.Spans pol top (above.reverse ++ below) bottom ∧
      key ∈ top :: (above.reverse ++ below).map (·.down.key) := by
  obtain ⟨hupper, top, hupTrail, hfirst⟩ := hup
  obtain ⟨hlower, bottom, hdownTrail, hlast⟩ := hdown
  have habove : Trail .down top above.reverse key := hupTrail.reverse
  refine ⟨top, bottom, ⟨fun c hc => ?_, habove.append hdownTrail, hfirst, hlast⟩, ?_⟩
  · rcases List.mem_append.1 hc with hc | hc
    · exact hupper c (List.mem_reverse.1 hc)
    · exact hlower c hc
  · rcases List.eq_nil_or_concat' above.reverse with hnil | ⟨rest, c, hrest⟩
    · rw [hnil] at habove
      rw [show top = key from habove]
      exact List.mem_cons_self
    · have hkey : c.down.key = key := habove.last_key c (by rw [hrest]; simp)
      rw [hrest, ← hkey]
      simp

lemma nodup (hu : w.Unambiguous pol) (h : w.Spans pol top chain bottom) :
    (top :: chain.map (·.down.key)).Nodup := by
  have hray : w.Ray pol .down top chain := ⟨h.carries, bottom, h.trail, h.last⟩
  simpa only [Connection.terminal] using hray.nodup hu

/-- A path through an active part consists of active parts. -/
lemma part?_isSome (h : w.Spans pol top chain bottom)
    (hkey : key ∈ top :: chain.map (·.down.key)) (hactive : (w.active.part? key).isSome = true) :
    ∀ other ∈ top :: chain.map (·.down.key), (w.active.part? other).isSome = true := by
  have hend : ∀ c ∈ chain, ∀ side, (w.active.part? (c.terminal side).key).isSome = true := by
    intro c hc side
    obtain ⟨part, hpart, -⟩ := (h.carries c hc).admits side
    rw [hpart]
    rfl
  intro other hother
  rcases List.mem_cons.1 hother with rfl | hother
  · cases chain with
    | nil =>
        rw [List.map_nil, List.mem_singleton] at hkey
        rwa [← hkey]
    | cons c rest =>
        rw [← h.trail.1]
        exact hend c List.mem_cons_self .up
  · obtain ⟨c, hc, rfl⟩ := List.mem_map.1 hother
    exact hend c hc .down

/-- **Every part on a path is followed along the whole of it.** -/
theorem follow_eq (hw : w.active.Built) (hu : w.Unambiguous pol)
    (hpart : w.active.part? part.key = some part) (h : w.Spans pol top chain bottom)
    (hkey : part.key ∈ top :: chain.map (·.down.key)) (port : String) :
    w.follow pol ⟨part, port⟩ = .ok chain := by
  obtain ⟨above, below, hsplit, hup, hdown⟩ := h.exists_rays hkey
  exact follow_eq_ok.2 ⟨above, below, hup.walk_eq hw hu hpart, hdown.walk_eq hw hu hpart, hsplit⟩

end Spans

/-- A part on a loop is reported, by the walk up. -/
lemma OnLoop.follow_eq (hw : w.active.Built) (hu : w.Unambiguous pol)
    (hpart : w.active.part? part.key = some part) (h : w.OnLoop pol part.key) (port : String) :
    ∃ exit, w.follow pol ⟨part, port⟩ = .error (.topologyCycle part.key exit .up) := by
  obtain ⟨loop, hne, hcarries, hclosed⟩ := (onLoop_iff .up).1 h
  rcases walk_dichotomy hw hu hpart port .up with ⟨chain, hray, -⟩ | ⟨_, exit, -, -, -, hrun⟩
  · exact absurd (hray.eq_nil_of_closed hu hcarries hclosed) hne
  · refine ⟨exit, ?_⟩
    rw [follow, hrun]
    rfl

lemma exists_spans (hw : w.active.Built) (hu : w.Unambiguous pol)
    (hpart : w.active.part? part.key = some part) (h : ¬ w.OnLoop pol part.key) :
    ∃ top chain bottom, w.Spans pol top chain bottom ∧
      part.key ∈ top :: chain.map (·.down.key) := by
  have hray : ∀ direction, ∃ chain, w.Ray pol direction part.key chain := by
    intro direction
    rcases walk_dichotomy hw hu hpart "" direction with
      ⟨chain, hray, -⟩ | ⟨loop, _, hne, hcarries, hclosed, -⟩
    · exact ⟨chain, hray⟩
    · exact absurd ((onLoop_iff direction).2 ⟨loop, hne, hcarries, hclosed⟩) h
  obtain ⟨above, hup⟩ := hray .up
  obtain ⟨below, hdown⟩ := hray .down
  obtain ⟨top, bottom, hspans, hmem⟩ := Spans.of_rays hup hdown
  exact ⟨top, _, bottom, hspans, hmem⟩

/-- **On unambiguous wiring following a polarization gives the signal path, from wherever it
starts.**  For an active part on a loop of connections that carry the polarization, a cycle is
reported at that part, whatever the port.  Any other active part is on exactly one path that goes on
at neither end; it visits no part twice, all its parts are active, and following the polarization
from any of them, whatever the port, gives all of it, the connection furthest up first. -/
theorem follow_signalPath {instant : GpsTime} {records : Records} {s : ActiveSet}
    (hs : ActiveSet.ofRecords instant records = .ok s) {t : Topology} {strict : Bool}
    (hu : (⟨s, t, strict⟩ : Terrain).Unambiguous pol) (hpart : s.part? key = some part) :
    ((⟨s, t, strict⟩ : Terrain).OnLoop pol key → ∀ port, ∃ exit,
      (⟨s, t, strict⟩ : Terrain).follow pol ⟨part, port⟩ =
        .error (.topologyCycle key exit .up)) ∧
    (¬ (⟨s, t, strict⟩ : Terrain).OnLoop pol key → ∃ top chain bottom,
      (⟨s, t, strict⟩ : Terrain).Spans pol top chain bottom ∧
      key ∈ top :: chain.map (·.down.key) ∧ (top :: chain.map (·.down.key)).Nodup ∧
      (∀ top' chain' bottom', (⟨s, t, strict⟩ : Terrain).Spans pol top' chain' bottom' →
        key ∈ top' :: chain'.map (·.down.key) → chain' = chain) ∧
      ∀ other ∈ top :: chain.map (·.down.key), ∃ p, s.part? other = some p ∧ ∀ port,
        (⟨s, t, strict⟩ : Terrain).follow pol ⟨p, port⟩ = .ok chain) := by
  have hbuilt : s.Built := ⟨instant, records, hs⟩
  obtain rfl : part.key = key := hbuilt.key_of_part? hpart
  constructor
  · intro hloop port
    exact hloop.follow_eq hbuilt hu hpart port
  · intro hloop
    obtain ⟨top, chain, bottom, hspans, hmem⟩ :=
      exists_spans (w := ⟨s, t, strict⟩) hbuilt hu hpart hloop
    refine ⟨top, chain, bottom, hspans, hmem, hspans.nodup hu, ?_, ?_⟩
    · intro top' chain' bottom' hspans' hmem'
      have hfollow := hspans.follow_eq hbuilt hu hpart hmem ""
      have hfollow' := hspans'.follow_eq hbuilt hu hpart hmem' ""
      rw [hfollow, Except.ok.injEq] at hfollow'
      exact hfollow'.symm
    · intro other hother
      have hactive : (s.part? part.key).isSome = true := by
        rw [hpart]
        rfl
      obtain ⟨p, hp⟩ := Option.isSome_iff_exists.1 (hspans.part?_isSome hmem hactive other hother)
      obtain rfl : p.key = other := hbuilt.key_of_part? hp
      exact ⟨p, hp, hspans.follow_eq hbuilt hu hp hother⟩

/-- On the dish nothing is left to choose for the east polarization: its antenna is on a path of two
connections, and so is its feed, which is followed to the same chain.  Two cables wired into a ring
are on a loop. -/
theorem follow_signalPath_dish_ring :
    (∃ s chain, ActiveSet.ofRecords ⟨10⟩ .dish = .ok s ∧
      (⟨s, Catalogue.heraTopology, true⟩ : Terrain).Unambiguous "e" ∧ chain.length = 2 ∧
      (⟨s, Catalogue.heraTopology, true⟩ : Terrain).follow "e"
        ⟨⟨"A1", "H", "antenna", none, default⟩, "ground"⟩ = .ok chain ∧
      ∃ feed, s.part? ⟨"FDV1:V"⟩ = some feed ∧ ∀ port,
        (⟨s, Catalogue.heraTopology, true⟩ : Terrain).follow "e" ⟨feed, port⟩ = .ok chain) ∧
    ∃ s, ActiveSet.ofRecords ⟨10⟩ .ring = .ok s ∧
      (⟨s, Catalogue.heraTopology, true⟩ : Terrain).Unambiguous "e" ∧ ∀ port, ∃ exit,
        (⟨s, Catalogue.heraTopology, true⟩ : Terrain).follow "e"
          ⟨⟨"R1", "A", "cable-rfof", none, default⟩, port⟩ =
            .error (.topologyCycle ⟨"R1:A"⟩ exit .up) := by
  constructor
  · let antenna : Part := ⟨"A1", "H", "antenna", none, default⟩
    have hdish : (ActiveSet.ofRecords ⟨10⟩ .dish).toOption.any (fun s =>
        decide ((⟨s, Catalogue.heraTopology, true⟩ : Terrain).ClearAmong "e"
          (ActiveSet.activeConnections ⟨10⟩ Records.dish.connections)) &&
        decide (s.part? ⟨"A1:H"⟩ = some antenna) &&
        ((⟨s, Catalogue.heraTopology, true⟩ : Terrain).follow "e"
          ⟨antenna, "ground"⟩).toOption.any fun chain =>
            chain.length == 2 && (chain.map (·.down.key)).contains ⟨"FDV1:V"⟩) = true := by
      decide +kernel
    obtain ⟨s, hs, htests⟩ := Outcome.exists_of_any hdish
    rw [Bool.and_eq_true, Bool.and_eq_true, decide_eq_true_eq, decide_eq_true_eq] at htests
    obtain ⟨⟨hclear, hpart⟩, hrun⟩ := htests
    obtain ⟨found, hfound, htest⟩ := Outcome.exists_of_any hrun
    rw [Bool.and_eq_true, beq_iff_eq, List.contains_iff_mem] at htest
    have hu := (unambiguous_iff_clearAmong (w := ⟨s, Catalogue.heraTopology, true⟩) hs).2 hclear
    obtain ⟨hloop, hpath⟩ := follow_signalPath hs hu hpart
    -- a chain was found, so the antenna is on no loop
    obtain ⟨top, chain, bottom, -, hmem, -, -, hfollow⟩ := hpath fun h => by
      obtain ⟨exit, herror⟩ := hloop h "ground"
      rw [hfound] at herror
      cases herror
    have hchain : chain = found := by
      obtain ⟨part, hpart', hsame⟩ := hfollow _ hmem
      rw [hpart, Option.some.injEq] at hpart'
      subst hpart'
      rw [← Except.ok.injEq, ← hsame "ground", hfound]
    subst hchain
    exact ⟨s, chain, hs, hu, htest.1, hfound, hfollow _ (List.mem_cons_of_mem _ htest.2)⟩
  · let cable : Part := ⟨"R1", "A", "cable-rfof", none, default⟩
    have hring : (ActiveSet.ofRecords ⟨10⟩ .ring).toOption.any (fun s =>
        decide ((⟨s, Catalogue.heraTopology, true⟩ : Terrain).ClearAmong "e"
          (ActiveSet.activeConnections ⟨10⟩ Records.ring.connections)) &&
        decide (s.part? ⟨"R1:A"⟩ = some cable) &&
        ((⟨s, Catalogue.heraTopology, true⟩ : Terrain).follow "e"
          ⟨cable, ""⟩).toOption.isNone) = true := by
      decide +kernel
    obtain ⟨s, hs, htests⟩ := Outcome.exists_of_any hring
    rw [Bool.and_eq_true, Bool.and_eq_true, decide_eq_true_eq, decide_eq_true_eq] at htests
    obtain ⟨⟨hclear, hpart⟩, hrun⟩ := htests
    have hu := (unambiguous_iff_clearAmong (w := ⟨s, Catalogue.heraTopology, true⟩) hs).2 hclear
    obtain ⟨hloop, hpath⟩ := follow_signalPath hs hu hpart
    refine ⟨s, hs, hu, hloop ?_⟩
    -- off a loop the cable would have a chain
    by_contra h
    obtain ⟨top, chain, bottom, -, hmem, -, -, hfollow⟩ := hpath h
    obtain ⟨part, hpart', hsame⟩ := hfollow _ hmem
    rw [hpart, Option.some.injEq] at hpart'
    subst hpart'
    rw [hsame ""] at hrun
    cases hrun

end Terrain

end Hookup
