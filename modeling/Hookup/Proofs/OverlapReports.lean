import Hookup.Proofs.Overlap

/-!
# What overlap reports tell

The check of a history reports pairs of records that overlap, which is to say that each starts
before the other stops.  This is the same as being active together as long as both records are ever
active.  A record that is stopped by its own start never is, but it is paired all the same with any
record around it.

* `mem_overlappingParts`, `mem_overlappingConnections` — what is reported for a part number or a
  port are the overlaps among the records for it.
* `exists_places_of_mem` — the two records of a pair stand at different places of the list.
* **`reported_together_iff`** — the records of a reported pair are active at a common instant
  exactly if neither of them is stopped by its start.  `reports_never_together` are pairs that are
  not.
-/

namespace Hookup

/-! ## Which pairs are reported -/

/-- **The overlaps on a part number are those among the records for it.** -/
theorem filter_overlappingParts (parts : List Part) (hpn : String) :
    (overlappingParts parts).filter (·.hpn = hpn) =
      (overlappingPairs Part.life (parts.filter fun part => canonicalName part.hpn = hpn)).map
        fun p => ⟨hpn, p.1, p.2⟩ := by
  let overlapsOn (e : String × List Part) : List PartOverlap :=
    (overlappingPairs Part.life e.2).map fun p => ⟨e.1, p.1, p.2⟩
  have hnumber : ∀ e, ∀ o ∈ overlapsOn e, o.hpn = e.1 := by
    intro e o ho
    obtain ⟨_, -, rfl⟩ := List.mem_map.1 ho
    rfl
  have heq : overlappingParts parts =
      (KeyMap.group (fun part => canonicalName part.hpn) parts).toList.flatMap overlapsOn := rfl
  rw [heq, KeyMap.filter_flatMap_toList _ hnumber, ← KeyMap.getD_get?_group]
  cases (KeyMap.group (fun part : Part => canonicalName part.hpn) parts).get? hpn with
  | none => simp [overlappingPairs, pairs]
  | some records => rfl

lemma mem_overlappingParts {parts : List Part} {o : PartOverlap} : o ∈ overlappingParts parts ↔
    (o.first, o.second) ∈
      overlappingPairs Part.life (parts.filter fun part => canonicalName part.hpn = o.hpn) := by
  obtain ⟨hpn, first, second⟩ := o
  have hfilter : (⟨hpn, first, second⟩ : PartOverlap) ∈ overlappingParts parts ↔
      (⟨hpn, first, second⟩ : PartOverlap) ∈ (overlappingParts parts).filter (·.hpn = hpn) := by
    simp
  rw [hfilter, filter_overlappingParts]
  simp

lemma mem_overlappingConnections {connections : List Connection} {o : PortOverlap} :
    o ∈ overlappingConnections connections ↔ (o.first, o.second) ∈
      overlappingPairs Connection.life (connections.filter (·.Claims o.side o.part o.port)) := by
  obtain ⟨part, port, side, first, second⟩ := o
  have hfilter : (⟨part, port, side, first, second⟩ : PortOverlap) ∈
        overlappingConnections connections ↔
      (⟨part, port, side, first, second⟩ : PortOverlap) ∈
        (overlappingConnections connections).filter (·.IsOn part port side) := by
    simp [PortOverlap.IsOn]
  rw [hfilter, filter_overlappingConnections]
  simp

section Pairs

variable {α : Type} {life : α → Lifetime} {test : α → Bool} {records : List α} {p : α × α}

/-- The records of a pair stand at different places of the list, pass the test of the group in which
they were found, and overlap. -/
lemma exists_places_of_mem (h : p ∈ overlappingPairs life (records.filter test)) :
    (∃ i j : Fin records.length, i ≠ j ∧ p.1 = records.get i ∧ p.2 = records.get j) ∧
      test p.1 = true ∧ test p.2 = true ∧ (life p.1).overlaps (life p.2) = true := by
  rw [overlappingPairs_filter] at h
  obtain ⟨places, hplaces, rfl⟩ := List.mem_map.1 h
  obtain ⟨hne, hfirst, hsecond, hoverlaps⟩ :=
    mem_overlappingPlaces.1 (List.mem_map_of_mem hplaces)
  exact ⟨⟨places.1, places.2, hne, rfl, rfl⟩, hfirst, hsecond, hoverlaps⟩

/-- Records that are in the order of their starts already are paired as they stand. -/
lemma overlappingPairs_of_pairwise
    (h : records.Pairwise fun a b => decide ((life a).start ≤ (life b).start) = true) :
    overlappingPairs life records =
      (pairs records).filter fun pair => (life pair.1).overlaps (life pair.2) := by
  rw [overlappingPairs, List.mergeSort_of_pairwise h]

end Pairs

/-! ## The main statement -/

/-- **Overlap reports are true of records that last.**  Every pair that is reported consists of two
records at different places of the list, for the part number or for the port of a part on a side
that the report names.  They are both active at some common instant exactly if neither of them is
stopped at or before its start. -/
theorem reported_together_iff (parts : List Part) (connections : List Connection) :
    (∀ o ∈ overlappingParts parts,
      (∃ i j : Fin parts.length, i ≠ j ∧ o.first = parts.get i ∧ o.second = parts.get j) ∧
      canonicalName o.first.hpn = o.hpn ∧ canonicalName o.second.hpn = o.hpn ∧
      ((∃ t, o.first.isActive t = true ∧ o.second.isActive t = true) ↔
        o.first.life.Lasts ∧ o.second.life.Lasts)) ∧
    ∀ o ∈ overlappingConnections connections,
      (∃ i j : Fin connections.length, i ≠ j ∧
        o.first = connections.get i ∧ o.second = connections.get j) ∧
      o.first.Claims o.side o.part o.port ∧ o.second.Claims o.side o.part o.port ∧
      ((∃ t, o.first.isActive t = true ∧ o.second.isActive t = true) ↔
        o.first.life.Lasts ∧ o.second.life.Lasts) := by
  constructor
  · intro o ho
    obtain ⟨hplaces, hfirst, hsecond, hoverlaps⟩ :=
      exists_places_of_mem (mem_overlappingParts.1 ho)
    refine ⟨hplaces, of_decide_eq_true hfirst, of_decide_eq_true hsecond, ?_⟩
    exact Lifetime.exists_common_iff.trans (and_iff_right hoverlaps)
  · intro o ho
    obtain ⟨hplaces, hfirst, hsecond, hoverlaps⟩ :=
      exists_places_of_mem (mem_overlappingConnections.1 ho)
    refine ⟨hplaces, of_decide_eq_true hfirst, of_decide_eq_true hsecond, ?_⟩
    exact Lifetime.exists_common_iff.trans (and_iff_right hoverlaps)

/-- Two antennas with two revisions each, and a station for each.  The second revision of the one
came into service beside the first.  That of the other was stopped in the second in which it
started, and its connection before it started. -/
def Records.revised : Records where
  parts := [⟨"A1", "A", "antenna", none, ⟨⟨0⟩, none⟩⟩, ⟨"a1", "B", "antenna", none, ⟨⟨50⟩, none⟩⟩,
    ⟨"A2", "A", "antenna", none, ⟨⟨0⟩, none⟩⟩, ⟨"A2", "B", "antenna", none, ⟨⟨10⟩, some ⟨10⟩⟩⟩]
  connections := [
    ⟨⟨"HH1", "A", "ground"⟩, ⟨"A1", "A", "ground"⟩, ⟨⟨0⟩, none⟩⟩,
    ⟨⟨"HH1", "A", "ground"⟩, ⟨"A1", "B", "ground"⟩, ⟨⟨50⟩, some ⟨60⟩⟩⟩,
    ⟨⟨"HH2", "A", "ground"⟩, ⟨"A2", "A", "ground"⟩, ⟨⟨0⟩, none⟩⟩,
    ⟨⟨"HH2", "A", "ground"⟩, ⟨"A2", "B", "ground"⟩, ⟨⟨10⟩, some ⟨5⟩⟩⟩]
  notes := []
  statuses := []
  locations := []

/-- The pairs that are reported for an antenna and for the port of its station. -/
lemma mem_overlaps_revised :
    (⟨"A1", ⟨"A1", "A", "antenna", none, ⟨⟨0⟩, none⟩⟩,
      ⟨"a1", "B", "antenna", none, ⟨⟨50⟩, none⟩⟩⟩ : PartOverlap) ∈
        overlappingParts Records.revised.parts ∧
    (⟨"A2", ⟨"A2", "A", "antenna", none, ⟨⟨0⟩, none⟩⟩,
      ⟨"A2", "B", "antenna", none, ⟨⟨10⟩, some ⟨10⟩⟩⟩⟩ : PartOverlap) ∈
        overlappingParts Records.revised.parts ∧
    (⟨⟨"HH1:A"⟩, "ground", .up,
      ⟨⟨"HH1", "A", "ground"⟩, ⟨"A1", "A", "ground"⟩, ⟨⟨0⟩, none⟩⟩,
      ⟨⟨"HH1", "A", "ground"⟩, ⟨"A1", "B", "ground"⟩, ⟨⟨50⟩, some ⟨60⟩⟩⟩⟩ : PortOverlap) ∈
        overlappingConnections Records.revised.connections ∧
    (⟨⟨"HH2:A"⟩, "ground", .up,
      ⟨⟨"HH2", "A", "ground"⟩, ⟨"A2", "A", "ground"⟩, ⟨⟨0⟩, none⟩⟩,
      ⟨⟨"HH2", "A", "ground"⟩, ⟨"A2", "B", "ground"⟩, ⟨⟨10⟩, some ⟨5⟩⟩⟩⟩ : PortOverlap) ∈
        overlappingConnections Records.revised.connections := by
  refine ⟨?_, ?_, ?_, ?_⟩
  · rw [mem_overlappingParts, overlappingPairs_of_pairwise (by decide +kernel)]
    decide +kernel
  · rw [mem_overlappingParts, overlappingPairs_of_pairwise (by decide +kernel)]
    decide +kernel
  · rw [mem_overlappingConnections, overlappingPairs_of_pairwise (by decide +kernel)]
    decide +kernel
  · rw [mem_overlappingConnections, overlappingPairs_of_pairwise (by decide +kernel)]
    decide +kernel

/-- The two revisions of the first antenna are in service together at some instant, and so are the
connections of its station. -/
theorem reported_together_iff_revised :
    (∃ o ∈ overlappingParts Records.revised.parts, o.hpn = "A1" ∧
      ∃ t, o.first.isActive t = true ∧ o.second.isActive t = true) ∧
    ∃ o ∈ overlappingConnections Records.revised.connections, o.part = ⟨"HH1:A"⟩ ∧
      ∃ t, o.first.isActive t = true ∧ o.second.isActive t = true := by
  obtain ⟨hparts, hconnections⟩ :=
    reported_together_iff Records.revised.parts Records.revised.connections
  obtain ⟨hpart, -, hconnection, -⟩ := mem_overlaps_revised
  constructor
  · obtain ⟨-, -, -, htogether⟩ := hparts _ hpart
    exact ⟨_, hpart, rfl, htogether.2 ⟨nofun, nofun⟩⟩
  · obtain ⟨-, -, -, htogether⟩ := hconnections _ hconnection
    refine ⟨_, hconnection, rfl, htogether.2 ⟨nofun, fun stop hstop => ?_⟩⟩
    cases hstop
    decide

/-- The second revision of the other antenna was never in service, and its connection never in
place, but both are reported as overlapping. -/
theorem reports_never_together :
    (∃ o ∈ overlappingParts Records.revised.parts,
      ∀ t, ¬ (o.first.isActive t = true ∧ o.second.isActive t = true)) ∧
    ∃ o ∈ overlappingConnections Records.revised.connections,
      ∀ t, ¬ (o.first.isActive t = true ∧ o.second.isActive t = true) := by
  obtain ⟨-, hpart, -, hconnection⟩ := mem_overlaps_revised
  refine ⟨⟨_, hpart, fun t h => ?_⟩, _, hconnection, fun t h => ?_⟩
  · have hlasts := Lifetime.lasts_iff.2 ⟨t, h.2⟩ ⟨10⟩ rfl
    revert hlasts
    decide
  · have hlasts := Lifetime.lasts_iff.2 ⟨t, h.2⟩ ⟨5⟩ rfl
    revert hlasts
    decide

end Hookup
