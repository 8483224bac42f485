import Hookup.Proofs.Maximality
import Hookup.Proofs.StartingKeys

/-!
# A chain goes through the port that it starts from

A walk is not told by which port to leave the part that it starts from.  It chooses there as
everywhere else, once on each side, among all ports that may carry the polarization.  That it takes
the port of the start nevertheless is due to the rule of choice: the walk stands at that port, and
after the rule for single candidates comes the one that prefers the port where the walk stands.

* `mem_portsOfLabel_of_start` — a start on a port of a single label is on one of its own label, so
  that this port is among the candidates where it is wired.
* `picks_back` — a candidate at which the walk stands is picked, unless the part is named for the
  polarization.
* `head?_of_walk` — a walk that succeeds has gone along the connection that was chosen first.
* **`resolvePart_through_port`** — so the chain of a start has the connections at its port, right
  above and right below the part.
-/

namespace Hookup

/-! ## Ports of starts -/

/-- A port of a label may be passed by a signal of that label. -/
lemma Topology.mem_portsCarrying_of_label {t : Topology} {partType label port : String}
    (h : port ∈ t.portsOfLabel partType label) : port ∈ t.portsCarrying label partType := by
  obtain ⟨hport, hlabel⟩ := List.mem_filter.1 h
  refine List.mem_filter.2 ⟨hport, ?_⟩
  rw [carries, beq_iff_eq.1 hlabel]
  exact beq_self_eq_true _

namespace Terrain

variable {w : Terrain} {direction : Direction} {pol port : String} {part : Part} {stance : Stance}
  {pols ports : List String} {start : Start} {chain : List Connection} {c : Connection}

/-- A start on a port of a single label is on a port of its own label. -/
lemma mem_portsOfLabel_of_start (hstart : start ∈ w.starts part pols)
    (hpolarized : (w.topology.portPol? start.port).isSome = true) :
    start.port ∈ w.topology.portsOfLabel part.partType start.pol := by
  obtain ⟨-, hport, -⟩ := mem_starts hstart
  rw [declaredPorts_eq] at hport
  split_ifs at hport with hnone
  · -- the start would be on the first port of a type whose ports carry all labels
    have hunpolarized := Topology.isEmpty_polarizedPorts.1 hnone
    rw [List.mem_singleton] at hport
    cases hfirst : w.topology.firstPort? part.partType with
    | none =>
        rw [hport, hfirst] at hpolarized
        cases hpolarized
    | some first =>
        have hmem : first ∈ w.topology.portsOf part.partType := List.mem_of_head? hfirst
        rw [hport, hfirst, Option.getD_some, hunpolarized first hmem] at hpolarized
        cases hpolarized
  · exact hport

/-! ## The first hop -/

/-- A candidate at which the walk stands is picked, whatever the others are. -/
lemma picks_back (plain : ¬ w.Labelled pol stance.part) (back : stance.port ∈ ports) :
    w.Picks pol stance ports stance.port := by
  match ports, back with
  | [only], back =>
      rw [← List.mem_singleton.1 back]
      exact .only plain
  | first :: second :: others, back => exact .arrival plain (by simp) back

/-- A walk that stands at a port by which it may go on leaves by it. -/
lemma nextHop_of_wired (plain : ¬ w.Labelled pol stance.part)
    (hport : stance.port ∈ w.topology.portsCarrying pol stance.part.partType)
    (hc : w.active.wiring.connectionAt? direction.opposite stance.part.key stance.port = some c) :
    w.nextHop direction pol stance = .ok (some (stance.port, c)) := by
  have back : stance.port ∈ w.candidates direction pol stance.part :=
    List.mem_filter.2 ⟨hport, Option.isSome_iff_exists.2 ⟨c, hc⟩⟩
  exact nextHop_eq_some_iff.2 ⟨pickPort_eq_some.2 (picks_back plain back), hc⟩

/-- A walk that succeeds begins with the connection that was chosen first, if that leads to a part
in service. -/
lemma head?_of_walk (hw : w.active.Built) (h : w.walk direction pol stance = .ok chain)
    (hop : w.nextHop direction pol stance = .ok (some (port, c)))
    (far : (w.active.part? (c.terminal direction).key).isSome = true) :
    chain.head? = some c := by
  obtain ⟨last, ⟨hwalked, -⟩, hstops⟩ := reaches_of_walk hw h
  cases hwalked with
  | nil =>
      rcases hstops with hnone | ⟨port', c', hhop, hgone⟩
      · rw [hop] at hnone
        cases hnone
      · rw [hop] at hhop
        cases hhop
        rw [hgone] at far
        cases far
  | cons hhop _ _ =>
      rw [hop] at hhop
      cases hhop
      rfl

/-- **A walk goes along the connection at the port where it stands**, if it succeeds at all. -/
theorem head?_of_wired (hw : w.active.Built) (h : w.walk direction pol stance = .ok chain)
    (plain : ¬ w.Labelled pol stance.part)
    (hport : stance.port ∈ w.topology.portsCarrying pol stance.part.partType) (has : w.active.Has c)
    (hat : c.IsAt direction.opposite stance.part.key stance.port)
    (far : (w.active.part? (c.terminal direction).key).isSome = true) :
    chain.head? = some c :=
  head?_of_walk hw h (nextHop_of_wired plain hport (hw.connectionAt?_iff.2 ⟨has, hat⟩)) far

end Terrain

namespace Resolver

/-! ## The main statement -/

/-- **A chain recorded for a port goes through that port.**  Take a part that is walked from and
resolves, of a type whose part numbers do not end in the letter of their polarization, and one of
its starts that is on a port of a single label.  The chain under the key of the start is the walk up
from there, turned round, with the walk down after it.  An active connection from another active
part to that port is the last one of the upper half; one from that port to another active part is
the first of the lower half.  The other ports of the part have no influence on this. -/
theorem resolvePart_through_port {instant : GpsTime} {records : Records} {s : ActiveSet}
    {catalogue : Catalogue} {strict : Bool} {key : PartKey} {part : Part} {hint : Option String}
    {hookupType : String} {t : Topology} {pol : PolSelection} {entry : Entry}
    (hs : ActiveSet.ofRecords instant records = .ok s) (hpart : s.part? key = some part)
    (hrole : catalogue.classify part hint = .ok (.physical hookupType))
    (ht : catalogue.topology hookupType = .ok t)
    (plain : t.isSinglePol part.partType = false)
    (h : (⟨catalogue, s, strict⟩ : Resolver).resolvePart key pol hint = .ok (some entry))
    {start : Terrain.Start}
    (hstart : start ∈ (⟨s, t, strict⟩ : Terrain).starts part (t.polarizations.filter pol.selects))
    (hpolarized : (t.portPol? start.port).isSome = true) :
    ∃ above below, entry.chains.get? start.key = some (above ++ below) ∧
      (⟨s, t, strict⟩ : Terrain).walk .up start.pol ⟨part, start.port⟩ = .ok above.reverse ∧
      (⟨s, t, strict⟩ : Terrain).walk .down start.pol ⟨part, start.port⟩ = .ok below ∧
      ∀ c ∈ ActiveSet.activeConnections instant records.connections,
        (c.IsAt .down key start.port → (s.part? c.up.key).isSome = true →
          above.getLast? = some c) ∧
        (c.IsAt .up key start.port → (s.part? c.down.key).isSome = true →
          below.head? = some c) := by
  have hbuilt : s.Built := ⟨instant, records, hs⟩
  have hkey : part.key = key := hbuilt.key_of_part? hpart
  have hunnamed : ¬ (⟨s, t, strict⟩ : Terrain).Labelled start.pol part :=
    fun hlabelled => Bool.eq_false_iff.1 plain hlabelled.1
  have hport : start.port ∈ t.portsCarrying start.pol part.partType :=
    Topology.mem_portsCarrying_of_label
      (Terrain.mem_portsOfLabel_of_start (w := ⟨s, t, strict⟩) hstart hpolarized)
  obtain ⟨c, hrun, hget⟩ := exists_resolved_of_resolvePhysical ht
    (resolvePhysical_of_resolveWithin hpart hrole h) hstart
  obtain ⟨up, below, hup, hdown, hchain⟩ := Terrain.follow_eq_ok.1 (resolveStart_eq_ok hrun).2
  refine ⟨up.reverse, below, by rw [hget, hchain], by rw [List.reverse_reverse]; exact hup, hdown,
    fun c hc => ⟨fun hat far => ?_, fun hat far => ?_⟩⟩
  · rw [List.getLast?_reverse]
    rw [← hkey] at hat
    exact Terrain.head?_of_wired (w := ⟨s, t, strict⟩) hbuilt hup hunnamed hport
      ((ActiveSet.has_iff hs).2 hc) hat far
  · rw [← hkey] at hat
    exact Terrain.head?_of_wired (w := ⟨s, t, strict⟩) hbuilt hdown hunnamed hport
      ((ActiveSet.has_iff hs).2 hc) hat far

end Resolver

/-- A hub with a source at each of two ports, and another hub behind each of two others. -/
def Records.busyHub : Records where
  parts := [⟨"SRC1", "A", "source", none, default⟩, ⟨"SRC2", "A", "source", none, default⟩,
    ⟨"HUB", "A", "hub", none, default⟩, ⟨"HUB2", "A", "hub", none, default⟩,
    ⟨"HUB3", "A", "hub", none, default⟩]
  connections := [⟨⟨"SRC1", "A", "out"⟩, ⟨"HUB", "A", "e1"⟩, default⟩,
    ⟨⟨"SRC2", "A", "out"⟩, ⟨"HUB", "A", "e2"⟩, default⟩,
    ⟨⟨"HUB", "A", "out"⟩, ⟨"HUB2", "A", "e1"⟩, default⟩,
    ⟨⟨"HUB", "A", "e3"⟩, ⟨"HUB3", "A", "e1"⟩, default⟩]
  notes := []
  statuses := []
  locations := []

namespace Resolver

/-- The chain for the second input port of the hub comes from the second source, although the first
port has the same initial and is wired, too. -/
theorem resolvePart_through_port_busyHub : ∃ s entry above below,
    ActiveSet.ofRecords ⟨10⟩ .busyHub = .ok s ∧
    (⟨⟨[], .ofList [("hubs", .hub)]⟩, s, true⟩ : Resolver).resolvePart ⟨"HUB:A"⟩ .all none =
      .ok (some entry) ∧
    entry.chains.get? "e<e2>" = some (above ++ below) ∧
    above.getLast? = some ⟨⟨"SRC2", "A", "out"⟩, ⟨"HUB", "A", "e2"⟩, default⟩ := by
  let catalogue : Catalogue := ⟨[], .ofList [("hubs", .hub)]⟩
  let hub : Part := ⟨"HUB", "A", "hub", none, default⟩
  let start : Terrain.Start := ⟨"e<e2>", "e", "e2"⟩
  have hset : (ActiveSet.ofRecords ⟨10⟩ .busyHub).toOption.any (fun s =>
      decide (s.part? ⟨"HUB:A"⟩ = some hub) &&
      decide (start ∈ (⟨s, .hub, true⟩ : Terrain).starts hub
        (Topology.hub.polarizations.filter PolSelection.all.selects)) &&
      (s.part? ⟨"SRC2:A"⟩).isSome &&
      ((⟨catalogue, s, true⟩ : Resolver).resolvePart ⟨"HUB:A"⟩ .all none).toOption.any
        Option.isSome) = true := by
    decide +kernel
  obtain ⟨s, hs, htest⟩ := Outcome.exists_of_any hset
  simp only [Bool.and_eq_true, decide_eq_true_eq] at htest
  obtain ⟨⟨⟨hpart, hstart⟩, hsource⟩, hrun⟩ := htest
  obtain ⟨found, hrun, hfound⟩ := Outcome.exists_of_any hrun
  obtain ⟨entry, rfl⟩ := Option.isSome_iff_exists.1 hfound
  have hrole : catalogue.classify hub none = .ok (.physical "hubs") := by decide +kernel
  have ht : catalogue.topology "hubs" = .ok .hub := by decide +kernel
  obtain ⟨above, below, hchain, -, -, hends⟩ :=
    resolvePart_through_port hs hpart hrole ht (by decide +kernel) hrun hstart (by decide +kernel)
  have hsource' : (⟨⟨"SRC2", "A", "out"⟩, ⟨"HUB", "A", "e2"⟩, default⟩ : Connection) ∈
      ActiveSet.activeConnections ⟨10⟩ Records.busyHub.connections := by
    decide +kernel
  have hat : (⟨⟨"SRC2", "A", "out"⟩, ⟨"HUB", "A", "e2"⟩, default⟩ : Connection).IsAt .down
      ⟨"HUB:A"⟩ "e2" := by
    decide +kernel
  have hkey : (⟨"SRC2", "A", "out"⟩ : Terminal).key = ⟨"SRC2:A"⟩ := by decide +kernel
  exact ⟨s, entry, above, below, hs, hrun, hchain, (hends _ hsource').1 hat (hkey ▸ hsource)⟩

end Resolver

end Hookup
