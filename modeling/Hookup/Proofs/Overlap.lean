import Hookup.Proofs.ActiveSet
import Hookup.Proofs.KeyMap
import Hookup.Proofs.Lifetimes
import Hookup.Proofs.StoreQueries
import Hookup.Service
import Mathlib.Data.List.FinRange
import Mathlib.Data.Sym.Sym2

/-!
# Clean checks

The check of a store tests the whole history at once: it sorts the claims of all connections by
part, port and side, puts those of each port in the order of their starts, and lists the pairs that
overlap.  Loading an active set tests one instant: it refuses two active connections on one port.
Here the two are compared, over any list of connections.

* `mem_map_overlappingPairs` — two records are paired exactly if they overlap, in whichever order
  they stand, and no pair comes twice (`nodup_overlappingPairs`).
* `filter_overlappingConnections` — what is reported for a port are the overlaps among the
  connections that claim it; the sorting into groups loses nothing and mixes nothing.
* `overlappingPlaces` — the pairs as places of the list, so that equal records are told apart.
* **`check_connections_sound`** — a clean check means that every load succeeds, and a clash is
  reported exactly once.
-/

namespace Hookup

/-! ## Pairs -/

section Pairs

variable {α β : Type}

lemma pairs_map (f : α → β) (items : List α) :
    pairs (items.map f) = (pairs items).map (Prod.map f f) := by
  induction items with
  | nil => rfl
  | cons a rest ih =>
      rw [List.map_cons, pairs, pairs, ih, List.map_append, List.map_map, List.map_map]
      rfl

lemma mem_of_mem_pairs {items : List α} {p : α × α} (h : p ∈ pairs items) :
    p.1 ∈ items ∧ p.2 ∈ items := by
  induction items with
  | nil => cases h
  | cons a rest ih =>
      rcases List.mem_append.1 h with h | h
      · obtain ⟨b, hb, rfl⟩ := List.mem_map.1 h
        exact ⟨List.mem_cons_self, List.mem_cons_of_mem _ hb⟩
      · exact (ih h).imp (List.mem_cons_of_mem _) (List.mem_cons_of_mem _)

/-- Two different items make a pair, in one order or the other. -/
lemma mem_pairs_of_ne {items : List α} {a b : α} (ha : a ∈ items) (hb : b ∈ items) (h : a ≠ b) :
    s(a, b) ∈ (pairs items).map fun p => s(p.1, p.2) := by
  induction items with
  | nil => cases ha
  | cons first rest ih =>
      rw [pairs, List.map_append, List.mem_append, List.map_map]
      rcases List.mem_cons.1 ha with rfl | ha'
      · have hb' : b ∈ rest := (List.mem_cons.1 hb).resolve_left h.symm
        exact .inl (List.mem_map.2 ⟨b, hb', rfl⟩)
      · rcases List.mem_cons.1 hb with rfl | hb'
        · exact .inl (List.mem_map.2 ⟨a, ha', Sym2.eq_swap⟩)
        · exact .inr (ih ha' hb')

/-- The items of a pair are at different places. -/
lemma ne_of_mem_pairs {items : List α} (hnodup : items.Nodup) {p : α × α} (h : p ∈ pairs items) :
    p.1 ≠ p.2 := by
  induction items with
  | nil => cases h
  | cons a rest ih =>
      obtain ⟨ha, hrest⟩ := List.nodup_cons.1 hnodup
      rcases List.mem_append.1 h with h | h
      · obtain ⟨b, hb, rfl⟩ := List.mem_map.1 h
        exact fun heq : a = b => ha (heq ▸ hb)
      · exact ih hrest h

/-- No pair comes twice, not even the other way round. -/
lemma nodup_pairs {items : List α} (hnodup : items.Nodup) :
    ((pairs items).map fun p => s(p.1, p.2)).Nodup := by
  induction items with
  | nil => exact List.nodup_nil
  | cons a rest ih =>
      obtain ⟨ha, hrest⟩ := List.nodup_cons.1 hnodup
      rw [pairs, List.map_append, List.map_map, List.nodup_append']
      refine ⟨hrest.map fun b c hbc => Sym2.congr_right.1 hbc, ih hrest, ?_⟩
      intro pair hfirst hlater
      obtain ⟨b, -, rfl⟩ := List.mem_map.1 hfirst
      obtain ⟨p, hp, heq⟩ := List.mem_map.1 hlater
      obtain ⟨hp₁, hp₂⟩ := mem_of_mem_pairs hp
      rcases Sym2.eq_iff.1 heq with ⟨h, -⟩ | ⟨-, h⟩
      · rw [h] at hp₁
        exact ha hp₁
      · rw [h] at hp₂
        exact ha hp₂

/-! ## Records that overlap -/

/-- Overlaps do not depend on what else the records hold. -/
lemma overlappingPairs_map (life : β → Lifetime) (f : α → β) (records : List α) :
    overlappingPairs life (records.map f) =
      (overlappingPairs (fun a => life (f a)) records).map (Prod.map f f) := by
  rw [overlappingPairs, overlappingPairs, ← List.map_mergeSort, pairs_map, List.filter_map]
  · rfl
  · exact fun _ _ _ _ => rfl

variable {life : α → Lifetime} {records : List α}

/-- A pair of records that overlap is listed, in the order of their starts. -/
lemma mem_overlappingPairs {p : α × α} : p ∈ overlappingPairs life records ↔
    p ∈ pairs (records.mergeSort fun a b => decide ((life a).start ≤ (life b).start)) ∧
      (life p.1).overlaps (life p.2) = true := List.mem_filter

lemma nodup_overlappingPairs (hnodup : records.Nodup) :
    ((overlappingPairs life records).map fun p => s(p.1, p.2)).Nodup := by
  have hsorted := (List.mergeSort_perm records fun a b => decide ((life a).start ≤ (life b).start))
  exact (nodup_pairs (hsorted.nodup_iff.2 hnodup)).sublist (List.filter_sublist.map _)

/-- **Two records are listed as a pair, in one order or the other, exactly if they overlap.** -/
theorem mem_map_overlappingPairs (hnodup : records.Nodup) {a b : α} :
    s(a, b) ∈ (overlappingPairs life records).map (fun p => s(p.1, p.2)) ↔
      a ∈ records ∧ b ∈ records ∧ a ≠ b ∧ (life a).overlaps (life b) = true := by
  let le a b := decide ((life a).start ≤ (life b).start)
  have hsorted : (records.mergeSort le).Perm records := List.mergeSort_perm records le
  constructor
  · intro h
    obtain ⟨p, hp, heq⟩ := List.mem_map.1 h
    obtain ⟨hpair, hoverlaps⟩ := mem_overlappingPairs.1 hp
    obtain ⟨hfirst, hsecond⟩ := mem_of_mem_pairs hpair
    have hne := ne_of_mem_pairs (hsorted.nodup_iff.2 hnodup) hpair
    rw [hsorted.mem_iff] at hfirst hsecond
    rcases Sym2.eq_iff.1 heq with ⟨rfl, rfl⟩ | ⟨rfl, rfl⟩
    · exact ⟨hfirst, hsecond, hne, hoverlaps⟩
    · exact ⟨hsecond, hfirst, hne.symm, by rwa [Lifetime.overlaps_comm]⟩
  · rintro ⟨ha, hb, hne, hoverlaps⟩
    obtain ⟨p, hp, heq⟩ := List.mem_map.1
      (mem_pairs_of_ne (hsorted.mem_iff.2 ha) (hsorted.mem_iff.2 hb) hne)
    refine List.mem_map.2 ⟨p, mem_overlappingPairs.2 ⟨hp, ?_⟩, heq⟩
    rcases Sym2.eq_iff.1 heq with ⟨rfl, rfl⟩ | ⟨rfl, rfl⟩
    · exact hoverlaps
    · rwa [Lifetime.overlaps_comm]

/-! ## Places of a list -/

/-- The pairs of places of a list at which records pass a test and overlap. -/
def overlappingPlaces (life : α → Lifetime) (test : α → Bool) (records : List α) :
    List (Fin records.length × Fin records.length) :=
  overlappingPairs (fun i => life records[i])
    ((List.finRange records.length).filter fun i => test records[i])

/-- The overlaps of some of the records are read off the places. -/
lemma overlappingPairs_filter (life : α → Lifetime) (test : α → Bool) (records : List α) :
    overlappingPairs life (records.filter test) =
      (overlappingPlaces life test records).map fun p => (records[p.1], records[p.2]) := by
  have hfilter : records.filter test =
      ((List.finRange records.length).filter fun i => test records[i]).map fun i => records[i] := by
    calc records.filter test
      _ = ((List.finRange records.length).map records.get).filter test := by
            rw [List.map_get_finRange]
      _ = _ := List.filter_map
  rw [hfilter, overlappingPairs_map]
  rfl

lemma mem_overlappingPlaces {test : α → Bool} {i j : Fin records.length} :
    s(i, j) ∈ (overlappingPlaces life test records).map (fun p => s(p.1, p.2)) ↔
      i ≠ j ∧ test records[i] = true ∧ test records[j] = true ∧
        (life records[i]).overlaps (life records[j]) = true := by
  rw [overlappingPlaces, mem_map_overlappingPairs ((List.nodup_finRange _).filter _)]
  simp only [List.mem_filter, List.mem_finRange, true_and]
  tauto

/-- No two places are listed twice. -/
lemma nodup_overlappingPlaces (life : α → Lifetime) (test : α → Bool) (records : List α) :
    ((overlappingPlaces life test records).map fun p => s(p.1, p.2)).Nodup :=
  nodup_overlappingPairs ((List.nodup_finRange _).filter _)

end Pairs

/-- Whether an overlap is about a port of a part on a side. -/
def PortOverlap.IsOn (o : PortOverlap) (part : PartKey) (port : String) (side : Direction) : Prop :=
  o.part = part ∧ o.port = port ∧ o.side = side

instance (o : PortOverlap) (part : PartKey) (port : String) (side : Direction) :
    Decidable (o.IsOn part port side) := inferInstanceAs (Decidable (_ ∧ _))

variable {part : PartKey} {port : String} {side : Direction}

/-- Of the two claims of a connection, one is for a port on a side if the connection claims it. -/
lemma filter_ofConnection (c : Connection) (part : PartKey) (port : String) (side : Direction) :
    (((PortClaim.ofConnection c).filter (·.part = part)).filter (·.port = port)).filter
        (·.side = side) =
      if c.Claims side part port then [⟨part, port, side, c⟩] else [] := by
  simp only [List.filter_filter, PortClaim.ofConnection, Connection.Claims, List.map_cons,
    List.map_nil, List.filter_cons, List.filter_nil]
  cases side <;> grind

/-- The claims of a port on a side are made by the connections that claim it. -/
lemma filter_claims (connections : List Connection) (part : PartKey) (port : String)
    (side : Direction) :
    (((connections.flatMap PortClaim.ofConnection).filter (·.part = part)).filter
        (·.port = port)).filter (·.side = side) =
      (connections.filter (·.Claims side part port)).map (⟨part, port, side, ·⟩) := by
  induction connections with
  | nil => rfl
  | cons c rest ih =>
      rw [List.flatMap_cons, List.filter_append, List.filter_append, List.filter_append, ih,
        filter_ofConnection, List.filter_cons]
      by_cases hclaims : c.Claims side part port <;> simp [hclaims]

lemma isOn_of_mem_overlappingClaims {claims : List PortClaim} {o : PortOverlap}
    (h : o ∈ overlappingClaims part port side claims) : o.IsOn part port side := by
  obtain ⟨_, -, rfl⟩ := List.mem_map.1 h
  exact ⟨rfl, rfl, rfl⟩

/-- The overlaps among the claims of a port, on either side. -/
def overlapsAt (part : PartKey) (port : String) (claims : List PortClaim) : List PortOverlap :=
  [Direction.up, .down].flatMap fun side => overlappingClaims part port side claims

/-- The overlaps among the claims of a part, port by port. -/
def overlapsOf (part : PartKey) (claims : List PortClaim) : List PortOverlap :=
  (KeyMap.group PortClaim.port claims).toList.flatMap fun e => overlapsAt part e.1 e.2

lemma overlapsAt_nil (part : PartKey) (port : String) : overlapsAt part port [] = [] := by
  simp [overlapsAt, overlappingClaims, overlappingPairs, pairs]

lemma part_of_mem_overlapsAt {claims : List PortClaim} {o : PortOverlap}
    (h : o ∈ overlapsAt part port claims) : o.part = part ∧ o.port = port := by
  obtain ⟨side, -, ho⟩ := List.mem_flatMap.1 h
  obtain ⟨hpart, hport, -⟩ := isOn_of_mem_overlappingClaims ho
  exact ⟨hpart, hport⟩

lemma part_of_mem_overlapsOf {claims : List PortClaim} {o : PortOverlap}
    (h : o ∈ overlapsOf part claims) : o.part = part := by
  obtain ⟨e, -, ho⟩ := List.mem_flatMap.1 h
  exact (part_of_mem_overlapsAt ho).1

lemma filter_overlapsAt (claims : List PortClaim) :
    (overlapsAt part port claims).filter (·.side = side) =
      overlappingClaims part port side claims := by
  have hkeep : ∀ own, (overlappingClaims part port own claims).filter (·.side = side) =
      if own = side then overlappingClaims part port own claims else [] := by
    intro own
    split_ifs with hown
    · refine List.filter_eq_self.2 fun o ho => ?_
      simpa [hown] using (isOn_of_mem_overlappingClaims ho).2.2
    · refine List.filter_eq_nil_iff.2 fun o ho => ?_
      simpa [(isOn_of_mem_overlappingClaims ho).2.2] using hown
  rw [overlapsAt, List.filter_flatMap, List.flatMap_cons, List.flatMap_cons, List.flatMap_nil,
    hkeep, hkeep]
  cases side <;> simp

lemma filter_overlapsOf (claims : List PortClaim) :
    (overlapsOf part claims).filter (·.port = port) =
      overlapsAt part port (claims.filter (·.port = port)) := by
  rw [overlapsOf, KeyMap.filter_flatMap_toList _ fun e o ho => (part_of_mem_overlapsAt ho).2,
    ← KeyMap.getD_get?_group PortClaim.port]
  cases (KeyMap.group PortClaim.port claims).get? port
  · rw [Option.map_none, Option.getD_none, Option.getD_none, overlapsAt_nil]
  · rfl

lemma filter_overlappingConnections_part (connections : List Connection) :
    (overlappingConnections connections).filter (·.part = part) =
      overlapsOf part ((connections.flatMap PortClaim.ofConnection).filter (·.part = part)) := by
  have heq : overlappingConnections connections =
      (KeyMap.group PortClaim.part (connections.flatMap PortClaim.ofConnection)).toList.flatMap
        fun e => overlapsOf e.1 e.2 := rfl
  rw [heq, KeyMap.filter_flatMap_toList _ fun e o ho => part_of_mem_overlapsOf ho,
    ← KeyMap.getD_get?_group PortClaim.part]
  cases (KeyMap.group PortClaim.part _).get? part <;> rfl

/-- **The overlaps on a port are those among the connections that claim it.** -/
theorem filter_overlappingConnections (connections : List Connection) (part : PartKey)
    (port : String) (side : Direction) :
    (overlappingConnections connections).filter (·.IsOn part port side) =
      (overlappingPairs Connection.life (connections.filter (·.Claims side part port))).map
        fun p => ⟨part, port, side, p.1, p.2⟩ := by
  have hsplit : (overlappingConnections connections).filter (·.IsOn part port side) =
      (((overlappingConnections connections).filter (·.part = part)).filter (·.port = port)).filter
        (·.side = side) := by
    simp only [List.filter_filter, PortOverlap.IsOn, ← Bool.decide_and]
    exact List.filter_congr fun o _ => decide_eq_decide.2 (by tauto)
  rw [hsplit, filter_overlappingConnections_part, filter_overlapsOf, filter_overlapsAt,
    overlappingClaims, filter_claims, overlappingPairs_map, List.map_map]
  rfl

/-! ## Clean checks -/

/-- The overlaps on a port, read off the places of the list. -/
lemma filter_overlappingConnections_places (connections : List Connection) (part : PartKey)
    (port : String) (side : Direction) :
    (overlappingConnections connections).filter (·.IsOn part port side) =
      (overlappingPlaces Connection.life (·.Claims side part port) connections).map fun p =>
        ⟨part, port, side, connections[p.1], connections[p.2]⟩ := by
  rw [filter_overlappingConnections, overlappingPairs_filter, List.map_map]
  rfl

/-- Records at different places that claim one port at one instant are among the places listed. -/
lemma mem_places_of_active {connections : List Connection} {i j : Fin connections.length}
    {t : GpsTime} (hne : i ≠ j) (hi : connections[i].Claims side part port)
    (hj : connections[j].Claims side part port) (hactive : connections[i].isActive t = true)
    (hactive' : connections[j].isActive t = true) :
    s(i, j) ∈ (overlappingPlaces Connection.life (·.Claims side part port) connections).map
      fun p => s(p.1, p.2) :=
  mem_overlappingPlaces.2 ⟨hne, decide_eq_true hi, decide_eq_true hj,
    Lifetime.overlaps_of_contains hactive hactive'⟩

/-- A contest is reported. -/
lemma overlappingConnections_ne_nil {instant : GpsTime} {connections : List Connection}
    {first second : Connection}
    (h : ActiveSet.Contest instant connections side first second) :
    overlappingConnections connections ≠ [] := by
  obtain ⟨i, j, hne, hi, hj⟩ := h.places
  obtain ⟨hi', rfl⟩ := List.getElem?_eq_some_iff.1 hi
  obtain ⟨hj', rfl⟩ := List.getElem?_eq_some_iff.1 hj
  have hplaces : (⟨i, hi'⟩ : Fin connections.length) ≠ ⟨j, hj'⟩ := by simpa using hne
  have hmem := mem_places_of_active hplaces h.same_port ⟨rfl, rfl⟩ h.first_active h.second_active
  obtain ⟨p, hp, -⟩ := List.mem_map.1 hmem
  intro hnil
  have hreport := filter_overlappingConnections_places connections
    (connections[j].terminal side).key (canonicalPort (connections[j].terminal side).port) side
  rw [hnil, List.filter_nil, eq_comm, List.map_eq_nil_iff] at hreport
  rw [hreport] at hp
  cases hp

/-- Nothing to report means that no two connections clash at any instant. -/
lemma pairwise_apart_of_overlappingConnections {connections : List Connection}
    (h : overlappingConnections connections = []) (t : GpsTime) :
    (ActiveSet.activeConnections t connections).Pairwise Connection.Apart :=
  ActiveSet.pairwise_apart_iff.2 fun _ _ _ hcontest => overlappingConnections_ne_nil hcontest h

/-- The reads of a store never fail, so that loading a set succeeds if the wiring does. -/
lemma Store.load_isOk {store : Store} {t : GpsTime}
    (h : (ActiveSet.activeConnections t store.listConnections).Pairwise Connection.Apart) :
    ∃ s, ActiveSet.load store.source t = .ok s := by
  rw [Store.load_source]
  exact ActiveSet.ofRecords_isOk_iff.2
    (((store.perm_activeConnections t).pairwise_iff fun h => Connection.Apart.symm h).2 h)

/-- The overlaps that a check of a store reports are those of its full listing. -/
lemma Service.check_store (store : Store) (catalogue : Catalogue) (settings : CacheSettings) :
    Service.check ⟨store.source, catalogue, settings⟩ =
      .ok ⟨overlappingParts store.listParts, overlappingConnections store.listConnections⟩ := by
  rw [Service.check, Store.source_listParts, Store.source_listConnections]
  rfl

/-- **A clean check means that every load succeeds, and a clash is reported once.**  If a list of
connections has no overlaps, then active sets can be made of it for every instant, whatever the
other records.  Two records at different places that claim one port of one part on a side, and that
are both active at some instant, are reported exactly once for that port, in one order or the other;
`places` are the places of the list that the report on the port is about, in its order.  So if the
check of a store reports no contested port, active sets load for every instant. -/
theorem check_connections_sound :
    (∀ connections, overlappingConnections connections = [] →
      ∀ instant (records : Records), records.connections = connections →
        ∃ s, ActiveSet.ofRecords instant records = .ok s) ∧
    (∀ connections part port side,
      ∃ places : List (Fin connections.length × Fin connections.length),
        (overlappingConnections connections).filter (·.IsOn part port side) =
          places.map (fun p => ⟨part, port, side, connections[p.1], connections[p.2]⟩) ∧
        (∀ p ∈ places, p.1 ≠ p.2 ∧ connections[p.1].Claims side part port ∧
          connections[p.2].Claims side part port) ∧
        ∀ i j t, i ≠ j →
          connections[i].Claims side part port → connections[j].Claims side part port →
          connections[i].isActive t = true → connections[j].isActive t = true →
            (places.map fun p => s(p.1, p.2)).count s(i, j) = 1) ∧
    (∀ (store : Store) (catalogue : Catalogue) (settings : CacheSettings) (report : OverlapReport),
      Service.check ⟨store.source, catalogue, settings⟩ = .ok report → report.connections = [] →
        ∀ t, ∃ s, ActiveSet.load store.source t = .ok s) := by
  refine ⟨?_, fun connections part port side => ⟨overlappingPlaces Connection.life
    (·.Claims side part port) connections, ?_, fun p hp => ?_, ?_⟩, ?_⟩
  · rintro connections hclean instant records rfl
    exact ActiveSet.ofRecords_isOk_iff.2 (pairwise_apart_of_overlappingConnections hclean instant)
  · exact filter_overlappingConnections_places connections part port side
  · obtain ⟨hne, hfirst, hsecond, -⟩ := mem_overlappingPlaces.1 (List.mem_map_of_mem hp)
    exact ⟨hne, of_decide_eq_true hfirst, of_decide_eq_true hsecond⟩
  · intro i j t hne hi hj hactive hactive'
    exact List.count_eq_one_of_mem (nodup_overlappingPlaces _ _ connections)
      (mem_places_of_active hne hi hj hactive hactive')
  · intro store catalogue settings report hcheck hclean t
    rw [Service.check_store, Except.ok.injEq] at hcheck
    subst hcheck
    exact Store.load_isOk (pairwise_apart_of_overlappingConnections hclean t)

/-- The dish is clean, also in a store.  A second station that claims its antenna is reported
once. -/
theorem check_connections_sound_dish :
    (∀ t, ∃ s, ActiveSet.ofRecords t .dish = .ok s) ∧
    (let contested := Records.dish.connections ++
        [⟨⟨"hh2", "A", "ground"⟩, ⟨"A1", "h", "ground "⟩, default⟩]
      ∃ places : List (Fin contested.length × Fin contested.length),
        (overlappingConnections contested).filter (·.IsOn ⟨"A1:H"⟩ "ground" .down) =
          places.map (fun p => ⟨⟨"A1:H"⟩, "ground", .down, contested[p.1], contested[p.2]⟩) ∧
        (places.map fun p => s(p.1, p.2)).count
          s((⟨0, by decide⟩ : Fin contested.length), ⟨2, by decide⟩) = 1) ∧
    ∀ t, ∃ s, ActiveSet.load (Store.source { Store.empty with
      connections := (Records.dish.connections.map Connection.canonical).reverse }) t = .ok s := by
  obtain ⟨hload, hreport, hstore⟩ := check_connections_sound
  have hclean : overlappingConnections Records.dish.connections = [] := by decide +kernel
  refine ⟨fun t => hload _ hclean t _ rfl, ?_, ?_⟩
  · intro contested
    obtain ⟨places, heq, -, honce⟩ := hreport contested ⟨"A1:H"⟩ "ground" .down
    exact ⟨places, heq, honce _ _ ⟨10⟩ (by decide) (by decide +kernel) (by decide +kernel)
      (by decide +kernel) (by decide +kernel)⟩
  · let rows := (Records.dish.connections.map Connection.canonical).reverse
    have hsorted : rows.mergeSort Store.listingOrder = rows :=
      List.mergeSort_of_pairwise (by decide +kernel)
    refine hstore _ ⟨[], .empty⟩ .standard _ (Service.check_store _ _ _) ?_
    rw [Store.listConnections, hsorted]
    decide +kernel

end Hookup
