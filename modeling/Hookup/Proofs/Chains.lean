import Hookup.Catalogue.Hera
import Hookup.Proofs.Resolution
import Hookup.Proofs.Starts

/-!
# Chains are sound

A chain is glued together from a walk up, turned round, and a walk down.  Seen from the part in the
middle each half runs away from it, and each of its hops leaves a part by a port that may carry the
polarization (`Passes`); `Threads` keeps both halves together.

* `threads_of_follow` — following a polarization from an active part threads it.
* **`resolvePart_sound`** — every chain of an entry, however it came there, runs along active
  connections from part to active part, and the chain of each start of a physical part passes
  through that part and leaves no part by a port of another polarization.
-/

namespace Hookup

namespace Terrain

variable {w : Terrain} {direction : Direction} {pol : String} {stance : Stance}
  {chain above below : List Connection}

/-! ## Two halves of a chain -/

/-- Whether a connection ends on a side at an active part, at a port that a polarization may
pass. -/
def Admits (w : Terrain) (pol : String) (side : Direction) (c : Connection) : Prop :=
  ∃ part, w.active.part? (c.terminal side).key = some part ∧
    (c.terminal side).port ∈ w.topology.portsCarrying pol part.partType

instance (w : Terrain) (pol : String) (side : Direction) (c : Connection) :
    Decidable (w.Admits pol side c) :=
  decidable_of_iff ((w.active.part? (c.terminal side).key).any fun part =>
    decide ((c.terminal side).port ∈ w.topology.portsCarrying pol part.partType)) (by
      simp [Admits, Option.any_eq_true])

/-- Whether a connection, taken in a direction, leads from a port of an active part that may carry
a polarization to an active part. -/
structure Passes (w : Terrain) (direction : Direction) (pol : String) (c : Connection) : Prop where
  has : w.active.Has c
  exit : ∃ part, w.active.part? (c.terminal direction.opposite).key = some part ∧
    (c.terminal direction.opposite).port ∈ w.topology.portsCarrying pol part.partType
  arrival : (w.active.part? (c.terminal direction).key).isSome = true

/-- Whether connections lead down to a part and on down from it, each half passing its hops as seen
from the part. -/
structure Threads (w : Terrain) (pol : String) (key : PartKey)
    (above below : List Connection) : Prop where
  above_trail : ∃ top, Trail .down top above key
  below_trail : ∃ bottom, Trail .down key below bottom
  above_passes : ∀ c ∈ above, w.Passes .up pol c
  below_passes : ∀ c ∈ below, w.Passes .down pol c

lemma Passes.part?_isSome {c : Connection} (h : w.Passes direction pol c) (side : Direction) :
    (w.active.part? (c.terminal side).key).isSome = true := by
  rcases side.eq_or_eq_opposite direction with rfl | rfl
  · exact h.arrival
  · obtain ⟨part, hpart, -⟩ := h.exit
    rw [hpart]
    rfl

/-- A walk from an active part passes its hops. -/
lemma Walked.passes {last : Stance} (hw : w.active.Built)
    (h : w.Walked direction pol stance chain last)
    (hstart : w.active.part? stance.part.key = some stance.part) :
    ∀ c ∈ chain, w.Passes direction pol c := by
  intro c hc
  refine ⟨?_, ?_, ?_⟩
  · exact h.has hw c hc
  · exact h.exit_carries hw hstart c hc
  · exact h.arrival_isSome c hc

lemma passes_of_walk (hw : w.active.Built) (h : w.walk direction pol stance = .ok chain)
    (hstart : w.active.part? stance.part.key = some stance.part) :
    (∃ far, Trail direction stance.part.key chain far) ∧ ∀ c ∈ chain, w.Passes direction pol c := by
  obtain ⟨last, ⟨hwalked, -⟩, -⟩ := reaches_of_walk hw h
  exact ⟨⟨_, hwalked.trail hw⟩, hwalked.passes hw hstart⟩

/-- **Following a polarization from an active part threads the part.** -/
theorem threads_of_follow (hw : w.active.Built) (h : w.follow pol stance = .ok chain)
    (hstart : w.active.part? stance.part.key = some stance.part) :
    ∃ above below, above ++ below = chain ∧ w.Threads pol stance.part.key above below := by
  obtain ⟨up, below, hup, hdown, rfl⟩ := follow_eq_ok.1 h
  obtain ⟨⟨top, hupTrail⟩, hupPasses⟩ := passes_of_walk hw hup hstart
  obtain ⟨hdownTrail, hdownPasses⟩ := passes_of_walk hw hdown hstart
  refine ⟨up.reverse, below, rfl, ⟨top, hupTrail.reverse⟩, hdownTrail, fun c hc => ?_, hdownPasses⟩
  exact hupPasses c (List.mem_reverse.1 hc)

namespace Threads

variable {key : PartKey}

/-- The two halves make one trail. -/
lemma trail (h : w.Threads pol key above below) :
    ∃ top bottom, Trail .down top (above ++ below) bottom := by
  obtain ⟨top, htop⟩ := h.above_trail
  obtain ⟨bottom, hbottom⟩ := h.below_trail
  exact ⟨top, bottom, htop.append hbottom⟩

lemma exists_passes (h : w.Threads pol key above below) :
    ∀ c ∈ above ++ below, ∃ direction, w.Passes direction pol c := by
  intro c hc
  rcases List.mem_append.1 hc with hc | hc
  · exact ⟨.up, h.above_passes c hc⟩
  · exact ⟨.down, h.below_passes c hc⟩

end Threads

end Terrain

/-! ## Sound chains -/

/-- Whether a chain runs along connections of a set, from active part to active part, each
connection beginning at the part where the one before it ends. -/
structure ActiveSet.Sound (s : ActiveSet) (chain : List Connection) : Prop where
  has : ∀ c ∈ chain, s.Has c
  ends_active : ∀ c ∈ chain, ∀ side, (s.part? (c.terminal side).key).isSome = true
  meet : chain.IsChain fun c d => c.down.key = d.up.key

/-- Connections that meet make a trail from the part where the first one begins. -/
lemma exists_trail_of_isChain {c : Connection} {rest : List Connection}
    (h : (c :: rest).IsChain fun c d => c.down.key = d.up.key) :
    ∃ bottom, Trail .down c.up.key (c :: rest) bottom := by
  induction rest generalizing c with
  | nil => exact ⟨c.down.key, rfl, rfl⟩
  | cons d rest ih =>
      obtain ⟨hmeet, hrest⟩ := List.isChain_cons_cons.1 h
      obtain ⟨bottom, htrail⟩ := ih hrest
      rw [← hmeet] at htrail
      exact ⟨bottom, rfl, htrail⟩

lemma Terrain.Threads.sound {w : Terrain} {pol : String} {key : PartKey}
    {above below : List Connection} (h : w.Threads pol key above below) :
    w.active.Sound (above ++ below) := by
  obtain ⟨top, bottom, htrail⟩ := h.trail
  refine ⟨fun c hc => ?_, fun c hc => ?_, htrail.isChain⟩
  · obtain ⟨direction, hpasses⟩ := h.exists_passes c hc
    exact hpasses.has
  · obtain ⟨direction, hpasses⟩ := h.exists_passes c hc
    exact hpasses.part?_isSome

namespace Resolver

variable {r : Resolver} {chain : List Connection} {key : PartKey} {part : Part}
  {hookupType : String} {pol : PolSelection} {entry : Entry} {t : Topology}

lemma sound_of_follows (hr : r.active.Built) (h : r.Follows (.ok chain)) :
    r.active.Sound chain := by
  obtain ⟨key, part, t, pol, port, hpart, hfollow⟩ := h
  obtain ⟨above, below, rfl, hthreads⟩ :=
    Terrain.threads_of_follow (w := r.terrain t) hr hfollow (hr.part?_key hpart)
  exact hthreads.sound

/-- **What comes of each start of a physical part is entered under its key.**  No chain takes the
place of another one, since different starts have different keys. -/
theorem exists_resolved_of_resolvePhysical (ht : r.catalogue.topology hookupType = .ok t)
    (h : r.resolvePhysical part hookupType pol = .ok entry) {start : Terrain.Start}
    (hstart : start ∈ (r.terrain t).starts part (t.polarizations.filter pol.selects)) :
    ∃ c, r.resolveStart t part start = .ok c ∧ entry.chains.get? start.key = some c.chain := by
  obtain ⟨t', resolved, ht', hresolved, rfl⟩ := resolvePhysical_eq_ok.1 h
  rw [ht, Except.ok.injEq] at ht'
  subst ht'
  obtain ⟨c, hc, hrun⟩ := Outcome.exists_of_mem_left hresolved hstart
  have hkey := (resolveStart_eq_ok hrun).1
  refine ⟨c, hrun, ?_⟩
  rw [Entry.foldl_add]
  -- a chain under the same key is that of the same start
  refine KeyMap.get?_ofList_of_mem (List.mem_map.2 ⟨c, hc, by rw [hkey]⟩) fun other hother => ?_
  obtain ⟨c', hc', heq⟩ := List.mem_map.1 hother
  obtain ⟨hkey', rfl⟩ := Prod.mk.inj heq
  obtain ⟨start', hstart', hrun'⟩ := Outcome.exists_of_mem_right hresolved hc'
  have hsame : start' = start :=
    Terrain.start_eq_of_key hstart' hstart ((resolveStart_eq_ok hrun').1.symm.trans hkey')
  rw [hsame, hrun, Except.ok.injEq] at hrun'
  rw [hrun']

/-- **Each start of a physical part has a chain that threads the part.** -/
theorem threads_of_resolvePhysical (hr : r.active.Built) (hpart : r.active.part? key = some part)
    (ht : r.catalogue.topology hookupType = .ok t)
    (h : r.resolvePhysical part hookupType pol = .ok entry) {start : Terrain.Start}
    (hstart : start ∈ (r.terrain t).starts part (t.polarizations.filter pol.selects)) :
    ∃ above below, entry.chains.get? start.key = some (above ++ below) ∧
      (r.terrain t).Threads start.pol part.key above below := by
  obtain ⟨c, hrun, hget⟩ := exists_resolved_of_resolvePhysical ht h hstart
  obtain ⟨above, below, hchain, hthreads⟩ := Terrain.threads_of_follow (w := r.terrain t) hr
    (resolveStart_eq_ok hrun).2 (hr.part?_key hpart)
  refine ⟨above, below, ?_, hthreads⟩
  rw [hget, hchain]

/-- **Chains are sound.**  Every chain of an entry runs along active connections, from active part
to active part.  The chain of each start of a physical part consists of a half that ends at the part
and a half that begins there; going away from the part, every hop leaves an active part by a port
that may carry the polarization of the start. -/
theorem resolvePart_sound {instant : GpsTime} {records : Records} {s : ActiveSet}
    {catalogue : Catalogue} {strict : Bool} {hint : Option String}
    (hs : ActiveSet.ofRecords instant records = .ok s)
    (h : (⟨catalogue, s, strict⟩ : Resolver).resolvePart key pol hint = .ok (some entry)) :
    (∀ hookupKey chain, entry.chains.get? hookupKey = some chain →
      (∀ c ∈ chain, c ∈ ActiveSet.activeConnections instant records.connections ∧
        (s.part? c.up.key).isSome = true ∧ (s.part? c.down.key).isSome = true) ∧
      chain.IsChain fun c d => c.down.key = d.up.key) ∧
    ∀ part hookupType t, s.part? key = some part →
      catalogue.classify part hint = .ok (.physical hookupType) →
      catalogue.topology hookupType = .ok t →
      ∀ start ∈ (⟨s, t, strict⟩ : Terrain).starts part (t.polarizations.filter pol.selects),
        ∃ above below, entry.chains.get? start.key = some (above ++ below) ∧
          (∀ c ∈ above.getLast?, c.down.key = key) ∧
          (∀ c ∈ below.head?, c.up.key = key) ∧
          (∀ c ∈ above, ∃ near, s.part? c.down.key = some near ∧
            c.down.port ∈ t.portsCarrying start.pol near.partType) ∧
          (∀ c ∈ below, ∃ near, s.part? c.up.key = some near ∧
            c.up.port ∈ t.portsCarrying start.pol near.partType) := by
  have hbuilt : s.Built := ⟨instant, records, hs⟩
  constructor
  · intro hookupKey chain hchain
    have hsound := sound_of_follows hbuilt (resolveWithin_chains h hookupKey chain hchain)
    refine ⟨fun c hc => ⟨?_, hsound.ends_active c hc .up, hsound.ends_active c hc .down⟩,
      hsound.meet⟩
    exact (ActiveSet.has_iff hs).1 (hsound.has c hc)
  · intro part hookupType t hpart hrole ht start hstart
    obtain ⟨above, below, hchain, hthreads⟩ := threads_of_resolvePhysical hbuilt hpart ht
      (resolvePhysical_of_resolveWithin hpart hrole h) hstart
    have hkey : part.key = key := hbuilt.key_of_part? hpart
    obtain ⟨top, habove⟩ := hthreads.above_trail
    obtain ⟨bottom, hbelow⟩ := hthreads.below_trail
    refine ⟨above, below, hchain, ?_, ?_, ?_, ?_⟩
    · rw [← hkey]
      exact habove.last_key
    · rw [← hkey]
      exact hbelow.head_key
    · exact fun c hc => (hthreads.above_passes c hc).exit
    · exact fun c hc => (hthreads.below_passes c hc).exit

/-- The antenna of the dish has a chain from its station, through itself, to its feed. -/
theorem resolvePart_sound_dish : ∃ s entry chain,
    ActiveSet.ofRecords ⟨10⟩ .dish = .ok s ∧
    (⟨.hera, s, true⟩ : Resolver).resolvePart ⟨"A1:H"⟩ .all none = .ok (some entry) ∧
    entry.chains.get? "e" = some chain ∧ chain.length = 2 ∧
    (chain.IsChain fun c d => c.down.key = d.up.key) ∧
    ∃ above below, above ++ below = chain ∧ (∀ c ∈ above.getLast?, c.down.key = ⟨"A1:H"⟩) ∧
      ∀ c ∈ below.head?, c.up.key = ⟨"A1:H"⟩ := by
  let antenna : Part := ⟨"A1", "H", "antenna", none, default⟩
  let start : Terrain.Start := ⟨"e", "e", "ground"⟩
  have hdish : (ActiveSet.ofRecords ⟨10⟩ .dish).toOption.any (fun s =>
      decide (s.part? ⟨"A1:H"⟩ = some antenna) &&
      decide (start ∈ (⟨s, Catalogue.heraTopology, true⟩ : Terrain).starts antenna
        (Catalogue.heraTopology.polarizations.filter PolSelection.all.selects)) &&
      ((⟨.hera, s, true⟩ : Resolver).resolvePart ⟨"A1:H"⟩ .all none).toOption.any fun found =>
        found.any fun entry => (entry.chains.get? "e").any (·.length == 2)) = true := by
    decide +kernel
  obtain ⟨s, hs, htests⟩ := Outcome.exists_of_any hdish
  rw [Bool.and_eq_true, Bool.and_eq_true, decide_eq_true_eq, decide_eq_true_eq] at htests
  obtain ⟨⟨hpart, hstart⟩, hentry⟩ := htests
  obtain ⟨found, hrun, hfound⟩ := Outcome.exists_of_any hentry
  obtain ⟨entry, rfl, hchain⟩ := (Option.any_eq_true _ _).1 hfound
  obtain ⟨chain, hget, hlength⟩ := (Option.any_eq_true _ _).1 hchain
  obtain ⟨hsound, hthreads⟩ := resolvePart_sound hs hrun
  obtain ⟨above, below, hsplit, habove, hbelow, -⟩ :=
    hthreads antenna "parts_hera" Catalogue.heraTopology hpart (by decide +kernel)
      (by decide +kernel) start hstart
  rw [hget, Option.some.injEq] at hsplit
  exact ⟨s, entry, chain, hs, hrun, hget, beq_iff_eq.1 hlength, (hsound "e" chain hget).2,
    above, below, hsplit.symm, habove, hbelow⟩

end Resolver

end Hookup
