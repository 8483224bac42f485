import Hookup.Catalogue.Hera
import Hookup.Proofs.Agreement
import Hookup.Proofs.Cycles

/-!
# A hookup depends on its own wiring only

Resolving a part looks the whole active set up and down: which ports are wired decides where walks
start and which way they take, and how many connections there are bounds their length.  Still the
hookup of a physical part for one polarization only depends on the ports of its own parts that this
polarization may pass.  A connection that stays off those ports (`Spares`) can come and go, and
with it everything that is wired elsewhere or for the other polarization.

Two sets that are the same but for one connection (`ActiveSet.SameBut`) are compared from the inside
out.

* `nextHop_of_spares` — at a part that is spared, a walk goes on alike on both sets.
* **`Ends.of_sameBut`** — so does all of a walk that comes to spared parts only; it is compared
  without the bound on its length, which differs between the sets.
* `starts_of_spares` — walks start from the same ports.
* **`resolvePart_of_sameBut`**, **`resolvePart_local`** — a hookup is the same on both sets, in
  particular after a connection was added or removed.
-/

namespace Hookup

/-! ## One connection more or less -/

/-- Whether two sets have the same parts and, one connection aside, the same connections. -/
structure ActiveSet.SameBut (c : Connection) (s s' : ActiveSet) : Prop where
  parts : s.parts = s'.parts
  has_iff : ∀ d, d ≠ c → (s.Has d ↔ s'.Has d)

/-- The records without those of a connection, in whatever spelling. -/
def Records.without (records : Records) (c : Connection) : Records :=
  { records with connections := records.connections.filter fun r => decide (r.canonical ≠ c) }

namespace ActiveSet

variable {s s' : ActiveSet} {c : Connection} {instant : GpsTime} {records : Records}

/-- At a port that the connection does not hold, both sets find the same. -/
lemma SameBut.connectionAt?_eq (h : SameBut c s s') (hs : s.Built) (hs' : s'.Built)
    {side : Direction} {key : PartKey} {port : String} (hoff : ¬ c.IsAt side key port) :
    s.wiring.connectionAt? side key port = s'.wiring.connectionAt? side key port := by
  refine Option.ext fun d => ?_
  rw [hs.connectionAt?_iff, hs'.connectionAt?_iff]
  refine and_congr_left fun hat => h.has_iff d ?_
  rintro rfl
  exact hoff hat

/-- One record more adds no connection but its own. -/
lemma sameBut_of_cons {r : Connection} (hs : ofRecords instant records = .ok s)
    (hs' : ofRecords instant { records with connections := r :: records.connections } = .ok s') :
    SameBut r.canonical s s' := by
  constructor
  · rw [(ofRecords_eq_ok hs).2.1, (ofRecords_eq_ok hs').2.1]
  · intro d hd
    rw [has_iff hs, has_iff hs', mem_activeConnections, mem_activeConnections]
    constructor
    · rintro ⟨other, hother, hactive⟩
      exact ⟨other, List.mem_cons_of_mem r hother, hactive⟩
    · rintro ⟨other, hother, hactive, rfl⟩
      rcases List.mem_cons.1 hother with rfl | hother
      · exact absurd rfl hd
      · exact ⟨other, hother, hactive, rfl⟩

/-- A connection can always be taken out. -/
lemma exists_without (hs : ofRecords instant records = .ok s) (c : Connection) :
    ∃ s', ofRecords instant (records.without c) = .ok s' ∧ SameBut c s s' := by
  have hsub : (activeConnections instant (records.without c).connections).Sublist
      (activeConnections instant records.connections) :=
    (List.filter_sublist.filter _).map _
  obtain ⟨s', hs'⟩ := ofRecords_isOk_iff.2 ((ofRecords_isOk_iff.1 ⟨s, hs⟩).sublist hsub)
  refine ⟨s', hs', ?_, fun d hd => ?_⟩
  · rw [(ofRecords_eq_ok hs).2.1, (ofRecords_eq_ok hs').2.1]
    rfl
  · rw [has_iff hs, has_iff hs', mem_activeConnections, mem_activeConnections]
    constructor
    · rintro ⟨r, hr, hactive, rfl⟩
      exact ⟨r, List.mem_filter.2 ⟨hr, decide_eq_true hd⟩, hactive, rfl⟩
    · rintro ⟨r, hr, hactive⟩
      exact ⟨r, (List.mem_filter.1 hr).1, hactive⟩

end ActiveSet

/-- The dish with a front-end behind its feed, and a cable at the east output of that. -/
def Records.cabled : Records :=
  { Records.dish with
    parts := Records.dish.parts ++
      [⟨"FEM1", "A", "front-end", none, default⟩, ⟨"C1", "A", "cable-rfof", none, default⟩]
    connections := Records.dish.connections ++
      [⟨⟨"FDV1", "V", "terminals"⟩, ⟨"FEM1", "A", "input"⟩, default⟩,
        ⟨⟨"FEM1", "A", "e"⟩, ⟨"C1", "A", "e"⟩, default⟩] }

/-! ## Ports of a polarization -/

lemma initial?_eq_of_equalsIgnoringCase {a b : String} (h : Text.equalsIgnoringCase a b = true) :
    initial? a = initial? b := by
  have hlower : a.toList.map Char.toLower = b.toList.map Char.toLower := beq_iff_eq.1 h
  rw [initial?, initial?, ← List.head?_map, ← List.head?_map, hlower]

namespace Topology

variable {t : Topology} {pol pol' partType port : String}

/-- Which ports a polarization may pass is decided by its initial. -/
lemma portsCarrying_eq_of_initial? (h : initial? pol = initial? pol') :
    t.portsCarrying pol partType = t.portsCarrying pol' partType := by
  have hcarries : t.carries pol = t.carries pol' := by
    funext port
    rw [carries, carries, h]
  rw [portsCarrying, portsCarrying, hcarries]

/-- The ports from which a polarization is looked for may be passed by it, unless there is a single
one. -/
lemma declaredPorts_cases (t : Topology) (partType pol : String) :
    (∃ port, Terrain.declaredPorts t partType pol = [port]) ∨
      ∀ port ∈ Terrain.declaredPorts t partType pol, port ∈ t.portsCarrying pol partType := by
  rw [Terrain.declaredPorts]
  split_ifs with hnone
  · exact .inl ⟨_, rfl⟩
  · refine .inr fun port hport => ?_
    have hown : t.portPol? port = some pol := portPol?_of_mem_filter hport
    obtain ⟨⟨own, _⟩, hmem, rfl⟩ := List.mem_map.1 hport
    have hlisted := (mem_polarizedPorts.1 (List.mem_filter.1 hmem).1).1
    refine List.mem_filter.2 ⟨hlisted, ?_⟩
    rw [carries, hown]
    exact beq_self_eq_true _

end Topology

/-! ## Walks -/

namespace Terrain

variable {s s' : ActiveSet} {t : Topology} {strict : Bool} {direction : Direction}
  {pol pol' port : String} {c : Connection} {part : Part} {stance : Stance}
  {left : List (PartKey × String)} {chain : List Connection}
  {outcome : Except Error (List Connection)}

/-- Whether a connection stays off the ports of a part that a polarization may pass. -/
def Spares (w : Terrain) (pol : String) (c : Connection) (key : PartKey) : Prop :=
  ∀ side, (c.terminal side).key = key → ¬ w.Admits pol side c

instance (w : Terrain) (pol : String) (c : Connection) (key : PartKey) :
    Decidable (w.Spares pol c key) :=
  inferInstanceAs (Decidable (∀ side, (c.terminal side).key = key → ¬ w.Admits pol side c))

namespace Spares

variable {w : Terrain} {key : PartKey}

lemma of_initial? (h : w.Spares pol c key) (hinitial : initial? pol = initial? pol') :
    w.Spares pol' c key := by
  rintro side hkey ⟨part, hpart, hport⟩
  rw [← Topology.portsCarrying_eq_of_initial? hinitial] at hport
  exact h side hkey ⟨part, hpart, hport⟩

lemma not_isAt (h : w.Spares pol c part.key) (hpart : w.active.part? part.key = some part)
    (hport : port ∈ w.topology.portsCarrying pol part.partType) (side : Direction) :
    ¬ c.IsAt side part.key port := by
  intro hat
  refine h side hat.1 ⟨part, ?_, ?_⟩
  · rw [hat.1, hpart]
  · rwa [hat.2]

lemma connectionAt?_eq (hspares : (⟨s, t, strict⟩ : Terrain).Spares pol c part.key)
    (h : s.SameBut c s') (hs : s.Built) (hs' : s'.Built) (hpart : s.part? part.key = some part) :
    ∀ port ∈ t.portsCarrying pol part.partType, ∀ side,
      s.wiring.connectionAt? side part.key port = s'.wiring.connectionAt? side part.key port :=
  fun _ hport side => h.connectionAt?_eq hs hs' (hspares.not_isAt hpart hport side)

end Spares

/-! What follows compares walks on two sets that are the same but for one connection. -/

variable (hs : s.Built) (hs' : s'.Built) (h : s.SameBut c s')
include hs hs' h

/-- **At a part that is spared a walk goes on alike.** -/
lemma nextHop_of_spares (hstart : s.part? stance.part.key = some stance.part)
    (hspares : (⟨s, t, strict⟩ : Terrain).Spares pol c stance.part.key) :
    (⟨s, t, strict⟩ : Terrain).nextHop direction pol stance =
      (⟨s', t, strict⟩ : Terrain).nextHop direction pol stance := by
  have hports := hspares.connectionAt?_eq h hs hs' hstart
  have hcandidates : (⟨s, t, strict⟩ : Terrain).candidates direction pol stance.part =
      (⟨s', t, strict⟩ : Terrain).candidates direction pol stance.part :=
    List.filter_congr fun port hport => by rw [hports port hport]
  have hpick : ∀ ports, (⟨s, t, strict⟩ : Terrain).pickPort direction pol stance ports =
      (⟨s', t, strict⟩ : Terrain).pickPort direction pol stance ports := fun _ => rfl
  rw [nextHop, nextHop, hcandidates, hpick]
  cases hrun : (⟨s', t, strict⟩ : Terrain).pickPort direction pol stance
      ((⟨s', t, strict⟩ : Terrain).candidates direction pol stance.part) with
  | error e => rfl
  | ok picked =>
      cases picked with
      | none => rfl
      | some port =>
          have hcarried : port ∈ t.portsCarrying pol stance.part.partType :=
            (List.mem_filter.1 (mem_of_pickPort hrun)).1
          show Except.ok _ = Except.ok _
          rw [Option.bind_some, Option.bind_some, hports port hcarried]

/-- **A walk that comes to spared parts only ends alike.** -/
theorem Ends.of_sameBut
    (hends : (⟨s, t, strict⟩ : Terrain).Ends direction pol stance left outcome)
    (hok : outcome = .ok chain) (hstart : s.part? stance.part.key = some stance.part)
    (hspares : ∀ key ∈ stance.part.key :: chain.map fun d => (d.terminal direction).key,
      (⟨s, t, strict⟩ : Terrain).Spares pol c key) :
    (⟨s', t, strict⟩ : Terrain).Ends direction pol stance left (.ok chain) := by
  -- on the walk: each round chooses the same hop and finds the same part at its far end
  induction hends generalizing chain with
  | undecided hop => cases hok
  | again hop old => cases hok
  | last hop =>
      cases hok
      rw [nextHop_of_spares hs hs' h hstart (hspares _ List.mem_cons_self)] at hop
      exact .last hop
  | gone hop new away =>
      cases hok
      rw [nextHop_of_spares hs hs' h hstart (hspares _ List.mem_cons_self)] at hop
      have haway := (ActiveSet.part?_congr h.parts _).symm.trans away
      exact .gone hop new haway
  | @onward stance left port d next outcome hop new arrival rest ih =>
      obtain ⟨onward, rfl, rfl⟩ := Outcome.map_eq_ok.1 hok
      rw [nextHop_of_spares hs hs' h hstart (hspares _ List.mem_cons_self)] at hop
      have harrival : s'.part? (d.terminal direction).key = some next :=
        (ActiveSet.part?_congr h.parts _).symm.trans arrival
      have hnext : s.part? next.key = some next := hs.part?_key arrival
      have hkey : next.key = (d.terminal direction).key := hs.key_of_part? arrival
      have hahead : ∀ key ∈ next.key :: onward.map fun d => (d.terminal direction).key,
          (⟨s, t, strict⟩ : Terrain).Spares pol c key := by
        intro key hmem
        rw [hkey] at hmem
        exact hspares key (List.mem_cons_of_mem _ hmem)
      exact .onward hop new harrival (ih rfl hnext hahead)

lemma walk_of_spares (hstart : s.part? stance.part.key = some stance.part)
    (hrun : (⟨s, t, strict⟩ : Terrain).walk direction pol stance = .ok chain)
    (hspares : ∀ key ∈ stance.part.key :: chain.map fun d => (d.terminal direction).key,
      (⟨s, t, strict⟩ : Terrain).Spares pol c key) :
    (⟨s', t, strict⟩ : Terrain).walk direction pol stance = .ok chain := by
  have hends : (⟨s, t, strict⟩ : Terrain).Ends direction pol stance [] (.ok chain) :=
    (ends_iff (w := ⟨s, t, strict⟩) hs).2 hrun.symm
  have hends' := hends.of_sameBut hs hs' h rfl hstart hspares
  exact ((ends_iff (w := ⟨s', t, strict⟩) hs').1 hends').symm

/-- A chain along spared parts is followed on both sets. -/
lemma follow_of_spares (hpart : s.part? part.key = some part)
    (hfollow : (⟨s, t, strict⟩ : Terrain).follow pol ⟨part, port⟩ = .ok chain)
    (hown : (⟨s, t, strict⟩ : Terrain).Spares pol c part.key)
    (hspares : ∀ key ∈ partsAlong chain, (⟨s, t, strict⟩ : Terrain).Spares pol c key) :
    (⟨s', t, strict⟩ : Terrain).follow pol ⟨part, port⟩ = .ok chain := by
  have hmeet : chain.IsChain fun c d => c.down.key = d.up.key := by
    obtain ⟨above, below, rfl, hthreads⟩ :=
      threads_of_follow (w := ⟨s, t, strict⟩) hs hfollow hpart
    exact hthreads.sound.meet
  obtain ⟨up, down, hup, hdown, rfl⟩ := follow_eq_ok.1 hfollow
  have hmet : ∀ direction, ∀ d ∈ up.reverse ++ down,
      (⟨s, t, strict⟩ : Terrain).Spares pol c (d.terminal direction).key :=
    fun direction d hd => hspares _ (mem_partsAlong hmeet hd direction)
  have hhalf : ∀ direction (half : List Connection), half ⊆ up.reverse ++ down →
      ∀ key ∈ part.key :: half.map fun d => (d.terminal direction).key,
        (⟨s, t, strict⟩ : Terrain).Spares pol c key := by
    intro direction half hsub key hkey
    rcases List.mem_cons.1 hkey with rfl | hkey
    · exact hown
    · obtain ⟨d, hd, rfl⟩ := List.mem_map.1 hkey
      exact hmet direction d (hsub hd)
  refine follow_eq_ok.2 ⟨up, down, ?_, ?_, rfl⟩
  · refine walk_of_spares hs hs' h hpart hup (hhalf .up up fun d hd => ?_)
    exact List.mem_append_left _ (List.mem_reverse.2 hd)
  · refine walk_of_spares hs hs' h hpart hdown (hhalf .down down fun d hd => ?_)
    exact List.mem_append_right _ hd

lemma startsFor_of_spares (hpart : s.part? part.key = some part)
    (hspares : (⟨s, t, strict⟩ : Terrain).Spares pol c part.key) :
    (⟨s, t, strict⟩ : Terrain).startsFor part pol =
      (⟨s', t, strict⟩ : Terrain).startsFor part pol := by
  rcases t.declaredPorts_cases part.partType pol with ⟨only, honly⟩ | hcarried
  · -- a single port is the start, wired or not
    have hstart : ∀ w : Terrain, w.topology = t →
        w.startsFor part pol = [⟨hookupKey pol only true, pol, only⟩] := by
      rintro w rfl
      simp only [startsFor, honly]
      cases hwired : w.isWired part only <;> simp [hwired]
    rw [hstart _ rfl, hstart _ rfl]
  · have hwired : (declaredPorts t part.partType pol).filter
          ((⟨s, t, strict⟩ : Terrain).isWired part) =
        (declaredPorts t part.partType pol).filter
          ((⟨s', t, strict⟩ : Terrain).isWired part) := by
      refine List.filter_congr fun port hport => ?_
      simp only [isWired, hspares.connectionAt?_eq h hs hs' hpart port (hcarried port hport)]
    simp only [startsFor, hwired]

/-- **Walks start from the same ports.** -/
lemma starts_of_spares (hpart : s.part? part.key = some part) {pols : List String}
    (hspares : ∀ pol ∈ pols, (⟨s, t, strict⟩ : Terrain).Spares pol c part.key) :
    (⟨s, t, strict⟩ : Terrain).starts part pols =
      (⟨s', t, strict⟩ : Terrain).starts part pols :=
  List.flatMap_congr fun pol hpol => startsFor_of_spares hs hs' h hpart (hspares pol hpol)

end Terrain

/-! ## Hookups -/

namespace Resolver

variable {s s' : ActiveSet} {catalogue : Catalogue} {strict : Bool} {c : Connection}
  {key : PartKey} {part : Part} {hint : Option String} {hookupType pol : String} {t : Topology}
  {entry : Entry}

lemma resolveStart_of_spares (hs : s.Built) (hs' : s'.Built) (hsame : s.SameBut c s')
    (hpart : s.part? part.key = some part) {start : Terrain.Start} {found : ResolvedChain}
    (hrun : (⟨catalogue, s, strict⟩ : Resolver).resolveStart t part start = .ok found)
    (hown : (⟨s, t, strict⟩ : Terrain).Spares start.pol c part.key)
    (hspares : ∀ other ∈ partsAlong found.chain,
      (⟨s, t, strict⟩ : Terrain).Spares start.pol c other) :
    (⟨catalogue, s', strict⟩ : Resolver).resolveStart t part start = .ok found := by
  have hfollow : (⟨s, t, strict⟩ : Terrain).follow start.pol ⟨part, start.port⟩ =
      .ok found.chain :=
    (resolveStart_eq_ok hrun).2
  have hfollow' : (⟨s', t, strict⟩ : Terrain).follow start.pol ⟨part, start.port⟩ =
      .ok found.chain :=
    Terrain.follow_of_spares hs hs' hsame hpart hfollow hown hspares
  have htypes : (⟨s, t, strict⟩ : Terrain).typesAlong part found.chain =
      (⟨s', t, strict⟩ : Terrain).typesAlong part found.chain :=
    Terrain.typesAlong_congr t strict hsame.parts part found.chain
  rw [resolveStart, terrain, hfollow] at hrun
  rw [resolveStart, terrain, hfollow', ← hrun]
  simp only [bind, Except.bind, htypes]

/-- **A hookup is the same on two sets that are the same but for a connection which spares it.** -/
theorem resolvePart_of_sameBut (hs : s.Built) (hs' : s'.Built) (hsame : s.SameBut c s')
    (hpart : s.part? key = some part)
    (hrole : catalogue.classify part hint = .ok (.physical hookupType))
    (ht : catalogue.topology hookupType = .ok t)
    (h : (⟨catalogue, s, strict⟩ : Resolver).resolvePart key (.only pol) hint = .ok (some entry))
    (hown : (⟨s, t, strict⟩ : Terrain).Spares pol c key)
    (hspares : ∀ hookupKey chain, entry.chains.get? hookupKey = some chain →
      ∀ other ∈ partsAlong chain, (⟨s, t, strict⟩ : Terrain).Spares pol c other) :
    (⟨catalogue, s', strict⟩ : Resolver).resolvePart key (.only pol) hint = .ok (some entry) := by
  let r : Resolver := ⟨catalogue, s, strict⟩
  let r' : Resolver := ⟨catalogue, s', strict⟩
  let labels : List String := t.polarizations.filter (PolSelection.only pol).selects
  obtain rfl : part.key = key := hs.key_of_part? hpart
  have hpart' : s'.part? part.key = some part := by
    rw [← ActiveSet.part?_congr hsame.parts, hpart]
  have hentry : r.resolvePhysical part hookupType (.only pol) = .ok entry :=
    resolvePhysical_of_resolveWithin hpart hrole h
  -- a label that is selected passes the same ports as the polarization that was asked for
  have hinitial : ∀ label ∈ labels, initial? pol = initial? label := by
    intro label hlabel
    exact initial?_eq_of_equalsIgnoringCase (List.mem_filter.1 hlabel).2
  have hstarts : (r.terrain t).starts part labels = (r'.terrain t).starts part labels :=
    Terrain.starts_of_spares hs hs' hsame hpart fun label hlabel =>
      hown.of_initial? (hinitial label hlabel)
  have hresolve : ∀ start ∈ (r.terrain t).starts part labels, ∀ found,
      r.resolveStart t part start = .ok found → r'.resolveStart t part start = .ok found := by
    intro start hstart found hrun
    obtain ⟨found', hrun', hget⟩ := exists_resolved_of_resolvePhysical ht hentry hstart
    rw [hrun, Except.ok.injEq] at hrun'
    subst hrun'
    have hlabel := hinitial start.pol (Terrain.mem_starts hstart).1
    refine resolveStart_of_spares hs hs' hsame hpart hrun (hown.of_initial? hlabel) ?_
    intro other hother
    exact (hspares start.key found.chain hget other hother).of_initial? hlabel
  obtain ⟨t', resolved, ht', hresolved, hmade⟩ := resolvePhysical_eq_ok.1 hentry
  rw [ht, Except.ok.injEq] at ht'
  subst ht'
  have hentry' : r'.resolvePhysical part hookupType (.only pol) = .ok entry := by
    -- the same starts with the same outcomes make the same entry
    refine resolvePhysical_eq_ok.2 ⟨t, resolved, ht, ?_, hmade⟩
    show List.Forall₂ _ ((r'.terrain t).starts part labels) resolved
    rw [← hstarts]
    have hboth := (List.forall₂_and_left _ _).2 ⟨fun _ hstart => hstart, hresolved⟩
    exact hboth.imp fun start found hfound => hresolve start hfound.1 found hfound.2
  show r'.resolveWithin (.only pol) hint maxRedirectDepth part.key = .ok (some entry)
  rw [resolveWithin_of_physical hpart' hrole, hentry']
  rfl

/-- **Rewiring elsewhere, or for the other polarization, never changes a hookup.**  Take the hookup
of a physical part for one polarization, and a connection that stays off the ports which the
polarization may pass of the part itself and of every part along a chain of the hookup.  Then the
hookup is the same on every set that is the same but for this connection: on the set with a record
of it added, if that is not refused, and on the set with its records taken out. -/
theorem resolvePart_local {instant : GpsTime} {records : Records}
    (hs : ActiveSet.ofRecords instant records = .ok s) (hpart : s.part? key = some part)
    (hrole : catalogue.classify part hint = .ok (.physical hookupType))
    (ht : catalogue.topology hookupType = .ok t)
    (h : (⟨catalogue, s, strict⟩ : Resolver).resolvePart key (.only pol) hint = .ok (some entry))
    (hown : (⟨s, t, strict⟩ : Terrain).Spares pol c key)
    (hspares : ∀ hookupKey chain, entry.chains.get? hookupKey = some chain →
      ∀ other ∈ partsAlong chain, (⟨s, t, strict⟩ : Terrain).Spares pol c other) :
    (∀ s' : ActiveSet, s'.Built → s.SameBut c s' →
      (⟨catalogue, s', strict⟩ : Resolver).resolvePart key (.only pol) hint = .ok (some entry)) ∧
    (∀ r s', r.canonical = c → ActiveSet.ofRecords instant
        { records with connections := r :: records.connections } = .ok s' →
      (⟨catalogue, s', strict⟩ : Resolver).resolvePart key (.only pol) hint = .ok (some entry)) ∧
    ∃ s', ActiveSet.ofRecords instant (records.without c) = .ok s' ∧
      (⟨catalogue, s', strict⟩ : Resolver).resolvePart key (.only pol) hint =
        .ok (some entry) := by
  have hbuilt : s.Built := ⟨instant, records, hs⟩
  refine ⟨fun s' hbuilt' hsame => ?_, fun r s' hr hs' => ?_, ?_⟩
  · exact resolvePart_of_sameBut hbuilt hbuilt' hsame hpart hrole ht h hown hspares
  · subst hr
    have hsame := ActiveSet.sameBut_of_cons hs hs'
    exact resolvePart_of_sameBut hbuilt ⟨instant, _, hs'⟩ hsame hpart hrole ht h hown hspares
  · obtain ⟨s', hs', hsame⟩ := ActiveSet.exists_without hs c
    exact ⟨s', hs',
      resolvePart_of_sameBut hbuilt ⟨instant, _, hs'⟩ hsame hpart hrole ht h hown hspares⟩

/-- The cable of a front-end is joined to its north output as well: the east hookup of the antenna,
which passes both of these parts, stays as it was. -/
theorem resolvePart_local_cabled : ∃ s s' entry chain,
    ActiveSet.ofRecords ⟨10⟩ .cabled = .ok s ∧
    (⟨.hera, s, true⟩ : Resolver).resolvePart ⟨"A1:H"⟩ (.only "E") none = .ok (some entry) ∧
    entry.chains.get? "e" = some chain ∧ chain.length = 4 ∧
    ActiveSet.ofRecords ⟨10⟩ { Records.cabled with
      connections := ⟨⟨"FEM1", "A", "n"⟩, ⟨"C1", "A", "n"⟩, default⟩ ::
        Records.cabled.connections } = .ok s' ∧ s'.wiring.count = s.wiring.count + 1 ∧
    (⟨.hera, s', true⟩ : Resolver).resolvePart ⟨"A1:H"⟩ (.only "E") none = .ok (some entry) := by
  let antenna : Part := ⟨"A1", "H", "antenna", none, default⟩
  let north : Connection := ⟨⟨"FEM1", "A", "n"⟩, ⟨"C1", "A", "n"⟩, default⟩
  have hcabled : (ActiveSet.ofRecords ⟨10⟩ .cabled).toOption.any (fun s =>
      decide (s.part? ⟨"A1:H"⟩ = some antenna) && s.wiring.count == 4 &&
      decide ((⟨s, Catalogue.heraTopology, true⟩ : Terrain).Spares "E" north ⟨"A1:H"⟩) &&
      ((⟨.hera, s, true⟩ : Resolver).resolvePart ⟨"A1:H"⟩ (.only "E") none).toOption.any
        fun found => found.any fun entry =>
          (entry.chains.get? "e").any (·.length == 4) && entry.chains.values.all fun chain =>
            (partsAlong chain).all fun other =>
              decide ((⟨s, Catalogue.heraTopology, true⟩ : Terrain).Spares "E" north other)) =
                true := by
    decide +kernel
  have hjoined : (ActiveSet.ofRecords ⟨10⟩ { Records.cabled with
      connections := north :: Records.cabled.connections }).toOption.any
        (·.wiring.count == 5) = true := by
    decide +kernel
  obtain ⟨s, hs, htests⟩ := Outcome.exists_of_any hcabled
  simp only [Bool.and_eq_true, decide_eq_true_eq, beq_iff_eq] at htests
  obtain ⟨⟨⟨hpart, hcount⟩, hown⟩, hentry⟩ := htests
  obtain ⟨found, hrun, hfound⟩ := Outcome.exists_of_any hentry
  obtain ⟨entry, rfl, htest⟩ := (Option.any_eq_true _ _).1 hfound
  rw [Bool.and_eq_true] at htest
  obtain ⟨chain, hget, hlength⟩ := (Option.any_eq_true _ _).1 htest.1
  obtain ⟨s', hs', hcount'⟩ := Outcome.exists_of_any hjoined
  have hspares : ∀ hookupKey chain, entry.chains.get? hookupKey = some chain →
      ∀ other ∈ partsAlong chain,
        (⟨s, Catalogue.heraTopology, true⟩ : Terrain).Spares "E" north other := by
    intro hookupKey chain hchain other hother
    have hall := List.all_eq_true.1 htest.2 chain (KeyMap.mem_values.2 ⟨hookupKey, hchain⟩)
    exact of_decide_eq_true (List.all_eq_true.1 hall other hother)
  have hrole : Catalogue.hera.classify antenna none = .ok (.physical "parts_hera") := by
    decide +kernel
  have htopology : Catalogue.hera.topology "parts_hera" = .ok Catalogue.heraTopology := by
    decide +kernel
  obtain ⟨-, hadded, -⟩ := resolvePart_local hs hpart hrole htopology hrun hown hspares
  refine ⟨s, s', entry, chain, hs, hrun, hget, beq_iff_eq.1 hlength, hs', ?_, ?_⟩
  · rw [beq_iff_eq.1 hcount', hcount]
  · exact hadded north s' (by decide +kernel) hs'

end Resolver

end Hookup
