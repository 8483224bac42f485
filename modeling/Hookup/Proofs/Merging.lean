import Hookup.Proofs.Coherence
import Hookup.Proofs.Names
import Hookup.Proofs.RedirectDepth

/-!
# Merging substitutes

A part that stands for several others takes over their entries, with the part number that each came
by put after its hookup keys.  Whether a chain is lost on the way is a question about keys alone:
the tables are joined, and of two chains that come under one key the later stays.

* **`mergeSubstitutes_resolvePart`** — a part that resolves merges what its substitutes come to on
  their own.  That on the way they are resolved with fewer redirects left makes no difference.
* `mergeEntries_ofRows` — the merged entry is made of all rows, under their new keys.
* **`resolvePart_merges`** — which chains the merged entry has; all of them exactly if no two new
  keys meet.  They cannot meet where the part numbers differ and have no `@` in them.
-/

namespace Hookup

namespace Entry

/-- Whether two entries hold the same under two keys, in each of their tables. -/
structure SameUnder (e : Entry) (key : String) (other : Entry) (key' : String) : Prop where
  chains : e.chains.get? key = other.chains.get? key'
  complete : e.complete.get? key = other.complete.get? key'
  hookupTypes : e.hookupTypes.get? key = other.hookupTypes.get? key'
  columns : e.columns.get? key = other.columns.get? key'
  timings : e.timings.get? key = other.timings.get? key'

variable {key key' : String} {topology topology' : EntryTopology} {rows rows' : KeyMap String Row}

lemma sameUnder_ofRows {k k' : String} (h : rows.get? k = rows'.get? k') :
    (ofRows key topology rows).SameUnder k (ofRows key' topology' rows') k' := by
  constructor <;> simp only [ofRows, KeyMap.get?_mapValues, h]

lemma keys_ofRows : (ofRows key topology rows).keys = rows.keys := by
  simp only [keys, ofRows, KeyMap.keys_mapValues]

/-- Entries that are made of rows are joined to one that is. -/
lemma foldl_absorb_ofRows {entries : List Entry} {tables : List (KeyMap String Row)}
    (h : List.Forall₂ (fun e table => e = ofRows e.key e.topology table) entries tables) :
    ∀ rows, entries.foldl absorb (ofRows key topology rows) =
      ofRows key topology (tables.foldl KeyMap.union rows) := by
  induction h with
  | nil => exact fun _ => rfl
  | cons hfirst _ ih =>
      intro rows
      rw [List.foldl_cons, hfirst, absorb_ofRows, ih, List.foldl_cons]

end Entry

namespace Resolver

variable {r : Resolver} {part : Part} {key : PartKey} {pol : PolSelection} {hint : Option String}
  {entry : Entry}

/-! ## New keys -/

lemma viaKey_injective (substitute : PartKey) : Function.Injective (viaKey substitute) := by
  intro k k' h
  rw [viaKey, viaKey, String.append_assoc, String.append_assoc] at h
  exact String.append_left_inj _ |>.1 h

/-- Part numbers without the separator can be read off the new keys. -/
lemma hpn_eq_of_viaKey {s s' : PartKey} {k k' : String} (hs : '@' ∉ s.hpn.toList)
    (hs' : '@' ∉ s'.hpn.toList) (h : viaKey s k = viaKey s' k') : s.hpn = s'.hpn := by
  have hsplit := Text.splitLast_append k s.hpn hs
  have hsplit' := Text.splitLast_append k' s'.hpn hs'
  have hkeys : k ++ String.singleton '@' ++ s.hpn = k' ++ String.singleton '@' ++ s'.hpn := h
  rw [hkeys, hsplit', Option.some.injEq, Prod.mk.injEq] at hsplit
  exact hsplit.2.symm

/-! ## What is merged -/

lemma mergeEntries_ofRows {entries : List Entry} {tables : List (KeyMap String Entry.Row)}
    (h : List.Forall₂ (fun e table => e = Entry.ofRows e.key e.topology table) entries tables)
    (hmerged : mergeEntries part entries = some entry) :
    ∃ topology, entry = .ofRows part.key.text topology (.unionAll tables) := by
  cases h with
  | nil => cases hmerged
  | @cons first table _ _ hfirst hothers =>
      rw [mergeEntries, Option.some.injEq] at hmerged
      refine ⟨first.topology, ?_⟩
      have hnamed : { first with key := part.key.text } =
          Entry.ofRows part.key.text first.topology table := by
        rw [hfirst]
        rfl
      rw [← hmerged, hnamed, Entry.foldl_absorb_ofRows hothers, KeyMap.unionAll, List.foldl_cons,
        KeyMap.empty_union]

/-- The parts among some that resolve to an entry, each with this entry, its own. -/
def ownEntries (r : Resolver) (pol : PolSelection) (hint : Option String) (keys : List PartKey) :
    List (PartKey × Entry) :=
  keys.filterMap fun key => (r.resolvePart key pol hint).toOption.join.map (key, ·)

lemma resolvePart_of_join_eq_some
    (h : (r.resolvePart key pol hint).toOption.join = some entry) :
    r.resolvePart key pol hint = .ok (some entry) := by
  cases hrun : r.resolvePart key pol hint with
  | error e =>
      rw [hrun] at h
      cases h
  | ok found =>
      rw [hrun] at h
      exact congrArg Except.ok h

lemma mem_ownEntries {keys : List PartKey} : (key, entry) ∈ r.ownEntries pol hint keys ↔
    key ∈ keys ∧ r.resolvePart key pol hint = .ok (some entry) := by
  simp only [ownEntries, List.mem_filterMap, Option.map_eq_some_iff, Prod.mk.injEq]
  constructor
  · rintro ⟨s, hs, own, hown, rfl, rfl⟩
    exact ⟨hs, resolvePart_of_join_eq_some hown⟩
  · rintro ⟨hs, hrun⟩
    refine ⟨key, hs, entry, ?_, rfl, rfl⟩
    rw [hrun]
    rfl

/-- Whether chains of two substitutes come to one key. -/
def KeysMeet (p q : PartKey × Entry) : Prop :=
  ∃ k ∈ p.2.keys, ∃ k' ∈ q.2.keys, viaKey p.1 k = viaKey q.1 k'

/-- **A redirect that resolves merges what its substitutes resolve to on their own.** -/
theorem mergeSubstitutes_resolvePart {hookupType : String} {via : Direction} {found : Option Entry}
    (hpart : r.active.part? key = some part)
    (hrole : r.catalogue.classify part hint = .ok (.redirect hookupType via))
    (h : r.resolvePart key pol hint = .ok found) :
    mergeSubstitutes part (r.active.wiring.neighbours part.key via)
      (fun substitute => r.resolvePart substitute pol hint) = .ok found := by
  obtain ⟨n, hn, hmerged⟩ := exists_merged_of_redirect hpart hrole h
  rw [← hmerged]
  refine mergeSubstitutes_congr (fun s hs => ?_) fun p herror => ?_
  · rw [resolvePart, hn]
    exact resolveWithin_succ hs
  · rw [hmerged] at herror
    cases herror

lemma join_of_substituteOutcome {outcome : Except Error (Option Entry)} {found : Option Entry}
    (h : substituteOutcome outcome = .ok found) : outcome.toOption.join = found := by
  rcases substituteOutcome_eq_ok.1 h with rfl | ⟨rfl, e, rfl, -⟩
  · rfl
  · rfl

/-- The entries of several substitutes are joined under their new keys. -/
lemma mergeEntries_of_mergeSubstitutes {substitutes : List PartKey} {found : Option Entry}
    (hseveral : 1 < substitutes.length)
    (h : mergeSubstitutes part substitutes (fun s => r.resolvePart s pol hint) = .ok found) :
    mergeEntries part ((r.ownEntries pol hint substitutes).map fun p => p.2.rekey (viaKey p.1)) =
      found := by
  obtain ⟨outcomes, houtcomes, rfl⟩ := mergeSubstitutes_eq_ok.1 h
  congr 1
  have hlist : ∀ keys : List PartKey, ∀ outcomes, List.Forall₂ (fun substitute outcome => ∃ found,
        substituteOutcome (r.resolvePart substitute pol hint) = .ok found ∧
          found.map (carried substitutes substitute) = outcome) keys outcomes →
      (r.ownEntries pol hint keys).map (fun p => p.2.rekey (viaKey p.1)) =
        outcomes.filterMap id := by
    intro keys outcomes houtcomes
    induction houtcomes with
    | nil => rfl
    | cons hfirst _ ih =>
        obtain ⟨found, hfound, rfl⟩ := hfirst
        rw [ownEntries] at ih ⊢
        rw [List.filterMap_cons, List.filterMap_cons, join_of_substituteOutcome hfound, ← ih]
        cases found with
        | none => rfl
        | some e => simp only [Option.map_some, id, carried, if_pos hseveral, List.map_cons]
  exact hlist substitutes outcomes houtcomes

/-- Whether an entry is made of the rows of other entries, each under the key with the part number
after it, and where several come to one key, of the row of the last. -/
def MergedFrom (entry : Entry) (own : List (PartKey × Entry)) : Prop :=
  ∃ (rowsOf : PartKey × Entry → KeyMap String Entry.Row) (name : String) (topology : EntryTopology),
    (∀ p ∈ own, p.2 = .ofRows p.2.key p.2.topology (rowsOf p)) ∧
    entry = .ofRows name topology (.unionAll (own.map fun p => (rowsOf p).rekey (viaKey p.1)))

/-- A part that stands for several others has the entry that is merged from theirs. -/
lemma mergedFrom_ownEntries {hookupType : String} {via : Direction}
    (hpart : r.active.part? key = some part)
    (hrole : r.catalogue.classify part hint = .ok (.redirect hookupType via))
    (hseveral : 1 < (r.active.wiring.neighbours part.key via).length)
    (h : r.resolvePart key pol hint = .ok (some entry)) :
    MergedFrom entry (r.ownEntries pol hint (r.active.wiring.neighbours part.key via)) := by
  let own := r.ownEntries pol hint (r.active.wiring.neighbours part.key via)
  have hwhole : ∀ p ∈ own, ∃ rows, p.2 = .ofRows p.2.key p.2.topology rows := by
    rintro ⟨s, e⟩ hp
    obtain ⟨_, _, rows, rfl, -⟩ := resolveWithin_madeOf (mem_ownEntries.1 hp).2
    exact ⟨rows, rfl⟩
  choose! rowsOf hrowsOf using hwhole
  have hrenamed : List.Forall₂ (fun e table => e = Entry.ofRows e.key e.topology table)
      (own.map fun p => p.2.rekey (viaKey p.1))
      (own.map fun p => (rowsOf p).rekey (viaKey p.1)) := by
    rw [List.forall₂_map_left_iff, List.forall₂_map_right_iff, List.forall₂_same]
    intro p hp
    rw [hrowsOf p hp, Entry.rekey_ofRows]
    rfl
  obtain ⟨topology, hentry⟩ := mergeEntries_ofRows hrenamed
    (mergeEntries_of_mergeSubstitutes hseveral (mergeSubstitutes_resolvePart hpart hrole h))
  exact ⟨rowsOf, part.key.text, topology, hrowsOf, hentry⟩

namespace MergedFrom

variable {own : List (PartKey × Entry)}

/-- The keys are those of the other entries, with the part numbers after them. -/
lemma mem_keys (h : MergedFrom entry own) {k : String} :
    k ∈ entry.keys ↔ ∃ p ∈ own, ∃ old ∈ p.2.keys, viaKey p.1 old = k := by
  obtain ⟨rowsOf, name, topology, hrowsOf, rfl⟩ := h
  rw [Entry.keys_ofRows, KeyMap.mem_keys_unionAll]
  simp only [List.mem_map, exists_exists_and_eq_and, KeyMap.mem_keys_rekey]
  refine exists_congr fun p => and_congr_right fun hp => ?_
  rw [hrowsOf p hp, Entry.keys_ofRows]

/-- Of several chains that come to one key, the last stays. -/
lemma sameUnder_of_last (h : MergedFrom entry own) {before after : List (PartKey × Entry)}
    {p : PartKey × Entry} (hown : own = before ++ p :: after) {old : String} (hold : old ∈ p.2.keys)
    (hafter : ∀ q ∈ after, ∀ other ∈ q.2.keys, viaKey q.1 other ≠ viaKey p.1 old) :
    entry.SameUnder (viaKey p.1 old) p.2 old := by
  obtain ⟨rowsOf, name, topology, hrowsOf, rfl⟩ := h
  have hkeysOf : ∀ q ∈ own, (rowsOf q).keys = q.2.keys := by
    intro q hq
    rw [hrowsOf q hq, Entry.keys_ofRows]
  have hp : p ∈ own := hown ▸ List.mem_append_right _ List.mem_cons_self
  have hunder : (KeyMap.unionAll (own.map fun p => (rowsOf p).rekey (viaKey p.1))).get?
      (viaKey p.1 old) = (rowsOf p).get? old := by
    rw [hown, List.map_append, List.map_cons, KeyMap.get?_unionAll_of_last,
      KeyMap.get?_rekey (viaKey_injective p.1)]
    · exact KeyMap.mem_keys_rekey.2 ⟨old, (hkeysOf p hp).symm ▸ hold, rfl⟩
    · intro n hn hkey
      obtain ⟨q, hq, rfl⟩ := List.mem_map.1 hn
      obtain ⟨other, hother, heq⟩ := KeyMap.mem_keys_rekey.1 hkey
      have hq' : q ∈ own := hown ▸ List.mem_append_right _ (List.mem_cons_of_mem _ hq)
      exact hafter q hq other (hkeysOf q hq' ▸ hother) heq
  have hsame : (Entry.ofRows name topology
      (.unionAll (own.map fun p => (rowsOf p).rekey (viaKey p.1)))).SameUnder (viaKey p.1 old)
      (.ofRows p.2.key p.2.topology (rowsOf p)) old := Entry.sameUnder_ofRows hunder
  rwa [← hrowsOf p hp] at hsame

/-- There are as many keys as in all the other entries exactly if no two of them meet. -/
lemma length_keys_iff (h : MergedFrom entry own) :
    entry.keys.length = (own.map fun p => p.2.keys.length).sum ↔
      own.Pairwise fun p q => ¬ KeysMeet p q := by
  obtain ⟨rowsOf, name, topology, hrowsOf, rfl⟩ := h
  have hkeysOf : ∀ p ∈ own, p.2.keys = (rowsOf p).keys := by
    intro p hp
    rw [hrowsOf p hp, Entry.keys_ofRows]
  have hsum : own.map (fun p => p.2.keys.length) =
      (own.map fun p => (rowsOf p).rekey (viaKey p.1)).map KeyMap.size := by
    rw [List.map_map]
    refine List.map_congr_left fun p hp => ?_
    rw [hkeysOf p hp, KeyMap.length_keys, Function.comp_apply,
      KeyMap.size_rekey (viaKey_injective p.1)]
  rw [hsum, Entry.keys_ofRows, KeyMap.length_keys, (KeyMap.size_unionAll _).2, List.pairwise_map]
  refine List.Pairwise.iff_of_mem fun {p q} hp hq => ?_
  simp only [KeyMap.Apart, KeyMap.mem_keys_rekey, KeysMeet, hkeysOf p hp, hkeysOf q hq]
  grind

end MergedFrom

/-- **What the merged entry has.**  A part that stands for several others, and resolves, has as its
hookup keys those of their own entries with the part numbers after them.  Where several come to one
key, it has the chain of the last of them with all that belongs to it.  So it has as many keys as
they have together exactly if no two of the new keys meet, and then it has all of their chains; and
no keys meet where the part numbers differ and have no `@` in them. -/
theorem resolvePart_merges {hookupType : String} {via : Direction}
    (hpart : r.active.part? key = some part)
    (hrole : r.catalogue.classify part hint = .ok (.redirect hookupType via))
    (hseveral : 1 < (r.active.wiring.neighbours part.key via).length)
    (h : r.resolvePart key pol hint = .ok (some entry)) :
    let own := r.ownEntries pol hint (r.active.wiring.neighbours part.key via)
    (∀ k, k ∈ entry.keys ↔ ∃ p ∈ own, ∃ old ∈ p.2.keys, viaKey p.1 old = k) ∧
    (∀ before p after, own = before ++ p :: after → ∀ old ∈ p.2.keys,
      (∀ q ∈ after, ∀ other ∈ q.2.keys, viaKey q.1 other ≠ viaKey p.1 old) →
        entry.SameUnder (viaKey p.1 old) p.2 old) ∧
    (entry.keys.length = (own.map fun p => p.2.keys.length).sum ↔
      own.Pairwise fun p q => ¬ KeysMeet p q) ∧
    ((own.Pairwise fun p q => ¬ KeysMeet p q) →
      ∀ p ∈ own, ∀ old ∈ p.2.keys, entry.SameUnder (viaKey p.1 old) p.2 old) ∧
    ((∀ p ∈ own, '@' ∉ p.1.hpn.toList) → (own.Pairwise fun p q => p.1.hpn ≠ q.1.hpn) →
      own.Pairwise fun p q => ¬ KeysMeet p q) := by
  intro own
  have hmerged : MergedFrom entry own := mergedFrom_ownEntries hpart hrole hseveral h
  refine ⟨fun k => hmerged.mem_keys, fun before p after hown old hold hafter => ?_,
    hmerged.length_keys_iff, fun happart p hp old hold => ?_, fun hplain hdiffer => ?_⟩
  · exact hmerged.sameUnder_of_last hown hold hafter
  · obtain ⟨before, after, hown⟩ := List.append_of_mem hp
    refine hmerged.sameUnder_of_last hown hold fun q hq other hother heq => ?_
    rw [hown, List.pairwise_append, List.pairwise_cons] at happart
    exact happart.2.1.1 q hq ⟨old, hold, other, hother, heq.symm⟩
  · refine hdiffer.imp_of_mem fun {p q} hp hq hne => ?_
    rintro ⟨k, -, k', -, heq⟩
    exact hne (hpn_eq_of_viaKey (hplain p hp) (hplain q hq) heq)

/-- The two boards of a node lose no chain to each other. -/
theorem resolvePart_merges_rack : ∃ s entry, ActiveSet.ofRecords ⟨10⟩ .rack = .ok s ∧
    (⟨.hera, s, true⟩ : Resolver).resolvePart ⟨"N1:A"⟩ .all none = .ok (some entry) ∧
    entry.keys.length = (((⟨.hera, s, true⟩ : Resolver).ownEntries .all none
      (s.wiring.neighbours ⟨"N1:A"⟩ .up)).map fun p => p.2.keys.length).sum := by
  let node : Part := ⟨"N1", "A", "node", none, default⟩
  have hrack : (ActiveSet.ofRecords ⟨10⟩ .rack).toOption.any (fun s =>
      decide (s.part? ⟨"N1:A"⟩ = some node) &&
      ((⟨.hera, s, true⟩ : Resolver).ownEntries .all none
        (s.wiring.neighbours node.key .up)).map (·.1) == [⟨"SNP1:A"⟩, ⟨"SNP2:A"⟩] &&
      decide (1 < (s.wiring.neighbours node.key .up).length) &&
      ((⟨.hera, s, true⟩ : Resolver).resolvePart ⟨"N1:A"⟩ .all none).toOption.any
        Option.isSome) = true := by
    decide +kernel
  have hrole : Catalogue.hera.classify node none = .ok (.redirect "parts_hera" .up) := by
    decide +kernel
  obtain ⟨s, hs, htest⟩ := Outcome.exists_of_any hrack
  simp only [Bool.and_eq_true, decide_eq_true_eq, beq_iff_eq] at htest
  obtain ⟨⟨⟨hpart, hown⟩, hseveral⟩, hrun⟩ := htest
  obtain ⟨found, hfound, hsome⟩ := Outcome.exists_of_any hrun
  obtain ⟨entry, rfl⟩ := Option.isSome_iff_exists.1 hsome
  have hkey : node.key = ⟨"N1:A"⟩ := by decide +kernel
  obtain ⟨-, -, hlength, -, hdiffer⟩ := resolvePart_merges (r := ⟨.hera, s, true⟩) hpart hrole
    hseveral hfound
  have hnames : ∀ own : List (PartKey × Entry), own.map (·.1) = [⟨"SNP1:A"⟩, ⟨"SNP2:A"⟩] →
      (∀ p ∈ own, '@' ∉ p.1.hpn.toList) ∧ own.Pairwise fun p q => p.1.hpn ≠ q.1.hpn := by
    intro own hown
    have hplain : ∀ key ∈ own.map (·.1), '@' ∉ key.hpn.toList := by
      rw [hown]
      decide +kernel
    have hpairwise : (own.map (·.1)).Pairwise fun key key' => key.hpn ≠ key'.hpn := by
      rw [hown]
      decide +kernel
    rw [List.pairwise_map] at hpairwise
    exact ⟨fun p hp => hplain p.1 (List.mem_map_of_mem hp), hpairwise⟩
  obtain ⟨hplain, hpairwise⟩ := hnames _ hown
  rw [hkey] at hlength hdiffer hplain hpairwise
  exact ⟨s, entry, hs, hfound, hlength.2 (hdiffer hplain hpairwise)⟩

/-- How many hookup keys a part has, if it has an entry. -/
def keyCount? (r : Resolver) (key : PartKey) : Option Nat :=
  (r.resolvePart key .all none).toOption.join.map (·.keys.length)

lemma exists_of_keyCount?_eq_some {n : Nat} (h : r.keyCount? key = some n) :
    ∃ entry, r.resolvePart key .all none = .ok (some entry) ∧ entry.keys.length = n := by
  obtain ⟨entry, hentry, hlength⟩ := Option.map_eq_some_iff.1 h
  exact ⟨entry, resolvePart_of_join_eq_some hentry, hlength⟩

end Resolver

/-- A node with two boards of one number in it, of different revisions. -/
def Records.revisedRack : Records where
  parts := [⟨"N1", "A", "node", none, default⟩, ⟨"SNP1", "A", "snap", none, default⟩,
    ⟨"SNP1", "B", "snap", none, default⟩]
  connections := [
    ⟨⟨"SNP1", "A", "rack"⟩, ⟨"N1", "A", "loc0"⟩, default⟩,
    ⟨⟨"SNP1", "B", "rack"⟩, ⟨"N1", "A", "loc1"⟩, default⟩]
  notes := []
  statuses := []
  locations := []

namespace Resolver

/-- Two boards of one number do: the entry of the node has fewer chains than they have. -/
theorem resolvePart_loses_chains : ∃ s entry first second,
    ActiveSet.ofRecords ⟨10⟩ .revisedRack = .ok s ∧
    (⟨.hera, s, true⟩ : Resolver).resolvePart ⟨"N1:A"⟩ .all none = .ok (some entry) ∧
    s.wiring.neighbours ⟨"N1:A"⟩ .up = [⟨"SNP1:A"⟩, ⟨"SNP1:B"⟩] ∧
    (⟨.hera, s, true⟩ : Resolver).resolvePart ⟨"SNP1:A"⟩ .all none = .ok (some first) ∧
    (⟨.hera, s, true⟩ : Resolver).resolvePart ⟨"SNP1:B"⟩ .all none = .ok (some second) ∧
    entry.keys.length < first.keys.length + second.keys.length := by
  have hrack : (ActiveSet.ofRecords ⟨10⟩ .revisedRack).toOption.any (fun s =>
      s.wiring.neighbours ⟨"N1:A"⟩ .up == [⟨"SNP1:A"⟩, ⟨"SNP1:B"⟩] &&
      (⟨.hera, s, true⟩ : Resolver).keyCount? ⟨"N1:A"⟩ == some 6 &&
      (⟨.hera, s, true⟩ : Resolver).keyCount? ⟨"SNP1:A"⟩ == some 6 &&
      (⟨.hera, s, true⟩ : Resolver).keyCount? ⟨"SNP1:B"⟩ == some 6) = true := by
    decide +kernel
  obtain ⟨s, hs, htest⟩ := Outcome.exists_of_any hrack
  simp only [Bool.and_eq_true, beq_iff_eq] at htest
  obtain ⟨⟨⟨hattached, hnode⟩, hfirst⟩, hsecond⟩ := htest
  obtain ⟨entry, hentry, hlength⟩ := exists_of_keyCount?_eq_some hnode
  obtain ⟨first, hfirst, hlength'⟩ := exists_of_keyCount?_eq_some hfirst
  obtain ⟨second, hsecond, hlength''⟩ := exists_of_keyCount?_eq_some hsecond
  exact ⟨s, entry, first, second, hs, hentry, hattached, hfirst, hsecond, by omega⟩

end Resolver

end Hookup
