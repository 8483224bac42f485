import Hookup.KeyMap
import Mathlib.Algebra.GroupWithZero.Nat
import Mathlib.Data.Finset.Card
import Mathlib.Data.List.Induction
import Mathlib.Data.List.Nodup
import Mathlib.Tactic.Lemma

/-!
# What map operations look up

Look-ups, keys and values of maps that are built from lists of entries, and how such maps are cut
down to some of their keys.

* `get?_insertAll`, `get?_ofList` — of several entries with one key the last counts.
* `mem_keys`, `mem_values`, `mem_keys_ofList` — keys and values are what look-up finds.
* `filter_insertAll`, `filter_union`, `filter_rekey` — cutting down commutes with building, so that
  keeping some keys of a result is the same as keeping them from the start.
* `mapValues_filter`, `mapValues_ofList`, `mapValues_union`, `mapValues_rekey` — so does changing
  the values, so that tables made from one table stay made from one.
* `getD_get?_group`, `filter_flatMap_toList` — sorting a list by a key and listing the groups one
  after the other neither loses nor mixes items.
* `get?_unionAll`, `size_unionAll` — of many maps in one the last counts, and nothing is lost
  exactly if no two have a key in common.
-/

namespace Hookup

namespace KeyMap

section Plain

variable {κ α β : Type} [Ord κ]

@[simp] lemma toList_filter (m : KeyMap κ α) (keep : κ → Bool) :
    (m.filter keep).toList = m.toList.filter (fun e => keep e.1) := rfl

@[simp] lemma filter_empty (keep : κ → Bool) : (empty : KeyMap κ α).filter keep = empty := rfl

@[simp] lemma filter_true (m : KeyMap κ α) : m.filter (fun _ => true) = m := by
  cases m
  simp [filter]

@[simp] lemma isEmpty_mapValues (m : KeyMap κ α) (f : α → β) :
    (m.mapValues f).isEmpty = m.isEmpty := List.isEmpty_map

lemma mapValues_mapValues {γ : Type} (m : KeyMap κ α) (f : α → β) (g : β → γ) :
    (m.mapValues f).mapValues g = m.mapValues (g ∘ f) := by
  simp only [mapValues, List.map_map]
  rfl

@[simp] lemma keys_mapValues (m : KeyMap κ α) (f : α → β) : (m.mapValues f).keys = m.keys := by
  simp [keys, mapValues, Function.comp_def]

end Plain

section Lawful

variable {κ α β : Type} [Ord κ] [Std.TransOrd κ] [Std.LawfulEqOrd κ]

/-! ## Keys and values -/

omit [Std.TransOrd κ] in
lemma mem_keys {m : KeyMap κ α} {key : κ} : key ∈ m.keys ↔ ∃ value, m.get? key = some value := by
  simp only [keys, List.mem_map]
  constructor
  · rintro ⟨⟨k, value⟩, he, rfl⟩
    exact ⟨value, mem_toList_iff.1 he⟩
  · rintro ⟨value, h⟩
    exact ⟨(key, value), mem_toList_iff.2 h, rfl⟩

omit [Std.TransOrd κ] in
lemma mem_values {m : KeyMap κ α} {value : α} :
    value ∈ m.values ↔ ∃ key, m.get? key = some value := by
  simp only [values, List.mem_map]
  constructor
  · rintro ⟨⟨key, v⟩, he, rfl⟩
    exact ⟨key, mem_toList_iff.1 he⟩
  · rintro ⟨key, h⟩
    exact ⟨(key, value), mem_toList_iff.2 h, rfl⟩

omit [Std.TransOrd κ] [Std.LawfulEqOrd κ] in
@[simp] lemma length_keys (m : KeyMap κ α) : m.keys.length = m.size := List.length_map _

omit [Std.TransOrd κ] in
lemma nodup_keys (m : KeyMap κ α) : m.keys.Nodup := by
  refine m.ascending.map _ fun p q hlt heq => ?_
  simp [heq] at hlt

omit [Std.TransOrd κ] in
lemma size_eq_card [DecidableEq κ] (m : KeyMap κ α) : m.size = m.keys.toFinset.card := by
  rw [List.toFinset_card_of_nodup m.nodup_keys, length_keys]

/-- Maps in which the same keys have values list the same keys. -/
lemma keys_eq_of_isSome {m : KeyMap κ α} {n : KeyMap κ β}
    (h : ∀ key, (m.get? key).isSome = (n.get? key).isSome) : m.keys = n.keys := by
  have hunit : m.mapValues (fun _ => ()) = n.mapValues (fun _ => ()) := by
    refine ext_get? fun key => ?_
    have hkey := h key
    rw [get?_mapValues, get?_mapValues]
    cases hm : m.get? key <;> cases hn : n.get? key <;> simp_all
  rw [← keys_mapValues m (fun _ => ()), hunit, keys_mapValues]

/-! ## Maps of entry lists -/

@[simp] lemma insertAll_nil (m : KeyMap κ α) : m.insertAll [] = m := rfl

@[simp] lemma insertAll_cons (m : KeyMap κ α) (e : κ × α) (entries : List (κ × α)) :
    m.insertAll (e :: entries) = (m.insert e.1 e.2).insertAll entries := rfl

lemma insertAll_concat (m : KeyMap κ α) (entries : List (κ × α)) (e : κ × α) :
    m.insertAll (entries ++ [e]) = (m.insertAll entries).insert e.1 e.2 := by
  simp [insertAll, List.foldl_append]

/-- The last entry of a key counts, and where the list has none, what stood there before. -/
theorem get?_insertAll [DecidableEq κ] (m : KeyMap κ α) (entries : List (κ × α)) (key : κ) :
    (m.insertAll entries).get? key = (lookupEntry key entries.reverse).or (m.get? key) := by
  induction entries using List.reverseRecOn with
  | nil => rfl
  | append_singleton entries e ih =>
      rw [insertAll_concat, get?_insert, List.reverse_concat, lookupEntry, ih]
      by_cases hkey : key = e.1 <;> simp [hkey]

theorem get?_ofList [DecidableEq κ] (entries : List (κ × α)) (key : κ) :
    (ofList entries).get? key = lookupEntry key entries.reverse := by
  rw [ofList, get?_insertAll, get?_empty, Option.or_none]

omit [Std.TransOrd κ] in
lemma isSome_lookupEntry [DecidableEq κ] {key : κ} {entries : List (κ × α)} :
    (lookupEntry key entries).isSome = true ↔ ∃ e ∈ entries, e.1 = key := by
  constructor
  · intro h
    obtain ⟨value, hvalue⟩ := Option.isSome_iff_exists.1 h
    exact ⟨(key, value), mem_of_lookupEntry hvalue, rfl⟩
  · rintro ⟨e, he, hkey⟩
    rw [Option.isSome_iff_ne_none]
    intro hnone
    induction entries with
    | nil => simp at he
    | cons first rest ih =>
        by_cases hfirst : key = first.1
        · simp [lookupEntry, hfirst] at hnone
        · simp only [lookupEntry, Std.LawfulEqOrd.compare_eq_iff_eq, hfirst, ↓reduceIte] at hnone
          rcases List.mem_cons.1 he with rfl | he
          · exact hfirst hkey.symm
          · exact ih he hnone

/-- An entry of a list whose key no other entry has is what the map of the list finds. -/
lemma get?_ofList_of_mem [DecidableEq κ] {entries : List (κ × α)} {key : κ} {value : α}
    (h : (key, value) ∈ entries)
    (hunique : ∀ other, (key, other) ∈ entries → other = value) :
    (ofList entries).get? key = some value := by
  rw [get?_ofList]
  have hsome : (lookupEntry key entries.reverse).isSome = true :=
    isSome_lookupEntry.2 ⟨(key, value), List.mem_reverse.2 h, rfl⟩
  obtain ⟨found, hfound⟩ := Option.isSome_iff_exists.1 hsome
  rw [hfound, hunique found (List.mem_reverse.1 (mem_of_lookupEntry hfound))]

lemma mem_of_get?_ofList [DecidableEq κ] {entries : List (κ × α)} {key : κ} {value : α}
    (h : (ofList entries).get? key = some value) : (key, value) ∈ entries := by
  rw [get?_ofList] at h
  exact List.mem_reverse.1 (mem_of_lookupEntry h)

lemma mem_keys_ofList [DecidableEq κ] {entries : List (κ × α)} {key : κ} :
    key ∈ (ofList entries).keys ↔ ∃ e ∈ entries, e.1 = key := by
  rw [mem_keys, ← Option.isSome_iff_exists, get?_ofList, isSome_lookupEntry]
  simp only [List.mem_reverse]

/-- Of items that are entered by key, one is found under the key of each. -/
lemma exists_get?_ofList_map [DecidableEq κ] {ι : Type} (key : ι → κ) (value : ι → α)
    {items : List ι} {item : ι} (h : item ∈ items) : ∃ other ∈ items, key other = key item ∧
      (ofList (items.map fun i => (key i, value i))).get? (key item) = some (value other) := by
  have hlisted : key item ∈ (ofList (items.map fun i => (key i, value i))).keys :=
    mem_keys_ofList.2 ⟨(key item, value item), List.mem_map.2 ⟨item, h, rfl⟩, rfl⟩
  obtain ⟨found, hfound⟩ := mem_keys.1 hlisted
  obtain ⟨other, hother, heq⟩ := List.mem_map.1 (mem_of_get?_ofList hfound)
  obtain ⟨hkey, rfl⟩ := Prod.mk.inj heq
  exact ⟨other, hother, hkey, hfound⟩

omit [Std.TransOrd κ] in
/-- The entries of a map have different keys, so that their order does not matter. -/
lemma lookupEntry_reverse_toList [DecidableEq κ] (m : KeyMap κ α) (key : κ) :
    lookupEntry key m.toList.reverse = m.get? key := by
  cases hget : m.get? key with
  | some value =>
      have hmem := mem_toList_iff.2 hget
      have hsome : (lookupEntry key m.toList.reverse).isSome = true :=
        isSome_lookupEntry.2 ⟨(key, value), List.mem_reverse.2 hmem, rfl⟩
      obtain ⟨found, hfound⟩ := Option.isSome_iff_exists.1 hsome
      have hother := mem_toList_iff.1 (List.mem_reverse.1 (mem_of_lookupEntry hfound))
      rw [hfound, ← hother, hget]
  | none =>
      rw [← Option.not_isSome_iff_eq_none, isSome_lookupEntry]
      rintro ⟨⟨k, value⟩, he, rfl⟩
      rw [mem_toList_iff.1 (List.mem_reverse.1 he)] at hget
      cases hget

theorem get?_union [DecidableEq κ] (m n : KeyMap κ α) (key : κ) :
    (m.union n).get? key = (n.get? key).or (m.get? key) := by
  rw [union, get?_insertAll, lookupEntry_reverse_toList]

/-- What stands under a new key stood under an old one that is renamed to it. -/
lemma exists_of_get?_rekey [DecidableEq κ] {m : KeyMap κ α} {rename : κ → κ} {key : κ} {value : α}
    (h : (m.rekey rename).get? key = some value) :
    ∃ old, rename old = key ∧ m.get? old = some value := by
  obtain ⟨⟨old, v⟩, he, heq⟩ := List.mem_map.1 (mem_of_get?_ofList h)
  obtain ⟨hkey, rfl⟩ := Prod.mk.inj heq
  exact ⟨old, hkey, mem_toList_iff.1 he⟩

/-! ## Cutting down -/

lemma filter_insert [DecidableEq κ] (m : KeyMap κ α) (key : κ) (value : α) (keep : κ → Bool) :
    (m.insert key value).filter keep =
      if keep key then (m.filter keep).insert key value else m.filter keep := by
  refine ext_get? fun other => ?_
  rw [get?_filter, get?_insert]
  by_cases hkey : other = key
  · subst hkey
    by_cases hkeep : keep other = true <;> simp [hkeep, get?_insert, get?_filter]
  · by_cases hkeep : keep key = true <;> simp [hkeep, hkey, get?_insert, get?_filter]

lemma filter_insertAll [DecidableEq κ] (keep : κ → Bool) (entries : List (κ × α)) :
    ∀ m : KeyMap κ α, (m.insertAll entries).filter keep =
      (m.filter keep).insertAll (entries.filter fun e => keep e.1) := by
  induction entries with
  | nil => intro m; rfl
  | cons e rest ih =>
      intro m
      rw [insertAll_cons, ih, filter_insert]
      by_cases hkeep : keep e.1 = true <;> simp [hkeep]

lemma filter_ofList [DecidableEq κ] (entries : List (κ × α)) (keep : κ → Bool) :
    (ofList entries).filter keep = ofList (entries.filter fun e => keep e.1) := by
  rw [ofList, filter_insertAll, filter_empty, ofList]

lemma filter_union [DecidableEq κ] (m n : KeyMap κ α) (keep : κ → Bool) :
    (m.union n).filter keep = (m.filter keep).union (n.filter keep) := by
  rw [union, filter_insertAll, union, toList_filter]

/-- New keys that pass a test exactly where the old ones do may be given before or after it. -/
lemma filter_rekey [DecidableEq κ] (m : KeyMap κ α) (rename : κ → κ) (keep : κ → Bool)
    (h : ∀ key, keep (rename key) = keep key) :
    (m.rekey rename).filter keep = (m.filter keep).rekey rename := by
  rw [rekey, filter_ofList, rekey, toList_filter, List.filter_map]
  congr 2
  exact List.filter_congr fun e _ => h e.1

/-! ## Changing values -/

lemma mapValues_filter (m : KeyMap κ α) (f : α → β) (keep : κ → Bool) :
    (m.filter keep).mapValues f = (m.mapValues f).filter keep := by
  refine ext_get? fun key => ?_
  rw [get?_mapValues, get?_filter, get?_filter, get?_mapValues]
  split_ifs <;> rfl

lemma mapValues_insert [DecidableEq κ] (m : KeyMap κ α) (f : α → β) (key : κ) (value : α) :
    (m.insert key value).mapValues f = (m.mapValues f).insert key (f value) := by
  refine ext_get? fun other => ?_
  rw [get?_mapValues, get?_insert, get?_insert, get?_mapValues]
  split_ifs <;> rfl

lemma mapValues_insertAll [DecidableEq κ] (f : α → β) (entries : List (κ × α)) :
    ∀ m : KeyMap κ α, (m.insertAll entries).mapValues f =
      (m.mapValues f).insertAll (entries.map fun e => (e.1, f e.2)) := by
  induction entries with
  | nil => intro m; rfl
  | cons e rest ih =>
      intro m
      rw [insertAll_cons, ih, mapValues_insert, List.map_cons, insertAll_cons]

lemma mapValues_ofList [DecidableEq κ] (f : α → β) (entries : List (κ × α)) :
    (ofList entries).mapValues f = ofList (entries.map fun e => (e.1, f e.2)) :=
  mapValues_insertAll f entries empty

lemma mapValues_union [DecidableEq κ] (m n : KeyMap κ α) (f : α → β) :
    (m.union n).mapValues f = (m.mapValues f).union (n.mapValues f) :=
  mapValues_insertAll f n.toList m

lemma mapValues_rekey [DecidableEq κ] (m : KeyMap κ α) (f : α → β) (rename : κ → κ) :
    (m.rekey rename).mapValues f = (m.mapValues f).rekey rename := by
  rw [rekey, mapValues_ofList, rekey, mapValues, List.map_map, List.map_map]
  rfl

/-! ## Sorting into lists -/

/-- Each key has the items that are sorted under it, in their order. -/
theorem getD_get?_group [DecidableEq κ] {ι : Type} (key : ι → κ) (items : List ι) (k : κ) :
    ((group key items).get? k).getD [] = items.filter fun item => key item = k := by
  induction items using List.reverseRecOn with
  | nil => rfl
  | append_singleton items item ih =>
      rw [group, List.foldl_append, List.foldl_cons, List.foldl_nil, List.filter_append, ← ih,
        ← group, get?_insert]
      by_cases hk : k = key item
      · subst hk
        simp
      · simp [hk, Ne.symm hk]

omit [Std.TransOrd κ] in
lemma filter_flatMap_entries [DecidableEq κ] {f : κ × α → List β} {keyOf : β → κ}
    (h : ∀ e, ∀ b ∈ f e, keyOf b = e.1) (k : κ) : ∀ entries : List (κ × α),
      entries.Pairwise (fun p q => compare p.1 q.1 = .lt) →
      (entries.flatMap f).filter (fun b => keyOf b = k) =
        ((lookupEntry k entries).map fun value => f (k, value)).getD []
  | [], _ => rfl
  | (own, value) :: rest, hs => by
      have ih := filter_flatMap_entries h k rest (List.pairwise_cons.1 hs).2
      rw [List.flatMap_cons, List.filter_append, ih]
      by_cases hk : k = own
      · subst hk
        rw [lookupEntry_eq_none (key_ne_of_ascending hs), List.filter_eq_self.2 fun b hb => ?_]
        · simp [lookupEntry]
        · simpa using h _ b hb
      · rw [List.filter_eq_nil_iff.2 fun b hb => ?_]
        · simp [lookupEntry, hk]
        · rw [h _ b hb]
          simpa using Ne.symm hk

omit [Std.TransOrd κ] in
/-- What the entries of a map yield one by one, cut down to one key, is what its entry yields. -/
lemma filter_flatMap_toList [DecidableEq κ] (m : KeyMap κ α) {f : κ × α → List β} {keyOf : β → κ}
    (h : ∀ e, ∀ b ∈ f e, keyOf b = e.1) (k : κ) :
    (m.toList.flatMap f).filter (fun b => keyOf b = k) =
      ((m.get? k).map fun value => f (k, value)).getD [] :=
  filter_flatMap_entries h k m.toList m.ascending

/-! ## Joining maps -/

lemma empty_union [DecidableEq κ] (m : KeyMap κ α) : (empty : KeyMap κ α).union m = m :=
  ext_get? fun key => by rw [get?_union, get?_empty, Option.or_none]

lemma mem_keys_union [DecidableEq κ] {m n : KeyMap κ α} {key : κ} :
    key ∈ (m.union n).keys ↔ key ∈ m.keys ∨ key ∈ n.keys := by
  simp only [mem_keys, ← Option.isSome_iff_exists, get?_union, Option.isSome_or, Bool.or_eq_true]
  exact or_comm

/-- A union has as many keys as both maps, less those that they have in common. -/
lemma size_union [DecidableEq κ] (m n : KeyMap κ α) : (m.union n).size ≤ m.size + n.size ∧
    ((m.union n).size = m.size + n.size ↔ ∀ k ∈ m.keys, k ∉ n.keys) := by
  have hkeys : (m.union n).keys.toFinset = m.keys.toFinset ∪ n.keys.toFinset := by
    ext key
    simp only [List.mem_toFinset, mem_keys_union, Finset.mem_union]
  rw [size_eq_card, size_eq_card, size_eq_card, hkeys]
  refine ⟨Finset.card_union_le _ _, ?_⟩
  rw [Finset.card_union_eq_card_add_card, Finset.disjoint_left]
  simp only [List.mem_toFinset]

/-- Whether two maps have no key in common. -/
def Apart (m n : KeyMap κ α) : Prop := ∀ k ∈ m.keys, k ∉ n.keys

/-- All maps in one; under a common key stands the value of the last. -/
def unionAll (maps : List (KeyMap κ α)) : KeyMap κ α := maps.foldl union empty

lemma get?_foldl_union [DecidableEq κ] (maps : List (KeyMap κ α)) (m : KeyMap κ α) (key : κ) :
    (maps.foldl union m).get? key =
      (maps.reverse.findSome? fun n => n.get? key).or (m.get? key) := by
  induction maps generalizing m with
  | nil => rfl
  | cons n rest ih =>
      rw [List.foldl_cons, ih, get?_union, List.reverse_cons, List.findSome?_append,
        List.findSome?_singleton, Option.or_assoc]

/-- The last map that has a key counts. -/
theorem get?_unionAll [DecidableEq κ] (maps : List (KeyMap κ α)) (key : κ) :
    (unionAll maps).get? key = maps.reverse.findSome? fun n => n.get? key := by
  rw [unionAll, get?_foldl_union, get?_empty, Option.or_none]

lemma mem_keys_unionAll [DecidableEq κ] {maps : List (KeyMap κ α)} {key : κ} :
    key ∈ (unionAll maps).keys ↔ ∃ m ∈ maps, key ∈ m.keys := by
  simp only [mem_keys, get?_unionAll, ← Option.isSome_iff_exists, List.findSome?_isSome_iff,
    List.mem_reverse]

/-- What the last map with a key holds under it stays. -/
lemma get?_unionAll_of_last [DecidableEq κ] {before after : List (KeyMap κ α)} {m : KeyMap κ α}
    {key : κ} (hkey : key ∈ m.keys) (hafter : ∀ n ∈ after, key ∉ n.keys) :
    (unionAll (before ++ m :: after)).get? key = m.get? key := by
  obtain ⟨value, hvalue⟩ := mem_keys.1 hkey
  have hnone : after.reverse.findSome? (fun n => n.get? key) = none := by
    rw [List.findSome?_eq_none_iff]
    intro n hn
    rw [← Option.not_isSome_iff_eq_none, Option.isSome_iff_exists, ← mem_keys]
    exact hafter n (List.mem_reverse.1 hn)
  rw [get?_unionAll, List.reverse_append, List.reverse_cons, List.append_assoc,
    List.findSome?_append, hnone, Option.none_or, List.singleton_append, List.findSome?_cons,
    hvalue]

/-- Many maps in one have as many keys as all of them exactly if no two have a key in common. -/
lemma size_foldl_union [DecidableEq κ] (maps : List (KeyMap κ α)) (m : KeyMap κ α) :
    (maps.foldl union m).size ≤ m.size + (maps.map size).sum ∧
      ((maps.foldl union m).size = m.size + (maps.map size).sum ↔ (m :: maps).Pairwise Apart) := by
  induction maps generalizing m with
  | nil => simp
  | cons n rest ih =>
      obtain ⟨hle, heq⟩ := ih (m.union n)
      obtain ⟨hle', heq'⟩ := size_union m n
      rw [List.foldl_cons, List.map_cons, List.sum_cons]
      refine ⟨by omega, ?_⟩
      have hsplit : (rest.foldl union (m.union n)).size = m.size + (n.size + (rest.map size).sum) ↔
          (m.union n).size = m.size + n.size ∧
          (rest.foldl union (m.union n)).size = (m.union n).size + (rest.map size).sum := by
        omega
      rw [hsplit, heq, heq']
      simp only [List.pairwise_cons, List.mem_cons, forall_eq_or_imp, Apart, mem_keys_union]
      grind

theorem size_unionAll [DecidableEq κ] (maps : List (KeyMap κ α)) :
    (unionAll maps).size ≤ (maps.map size).sum ∧
      ((unionAll maps).size = (maps.map size).sum ↔ maps.Pairwise Apart) := by
  cases maps with
  | nil => simp [unionAll, size, empty]
  | cons m rest =>
      have h := size_foldl_union rest m
      rwa [unionAll, List.foldl_cons, empty_union, List.map_cons, List.sum_cons]

/-! ## New keys -/

/-- What stood under an old key stands under its new one, if no two keys are renamed alike. -/
lemma get?_rekey [DecidableEq κ] {rename : κ → κ} (hrename : Function.Injective rename)
    (m : KeyMap κ α) (key : κ) : (m.rekey rename).get? (rename key) = m.get? key := by
  cases hget : m.get? key with
  | some value =>
      refine get?_ofList_of_mem (List.mem_map.2 ⟨(key, value), mem_toList_iff.2 hget, rfl⟩) ?_
      intro other hother
      obtain ⟨⟨old, v⟩, hmem, heq⟩ := List.mem_map.1 hother
      obtain ⟨hkey, rfl⟩ := Prod.mk.inj heq
      rw [← hrename hkey, mem_toList_iff.1 hmem] at hget
      exact Option.some.inj hget
  | none =>
      rw [← Option.not_isSome_iff_eq_none]
      intro hsome
      obtain ⟨value, hvalue⟩ := Option.isSome_iff_exists.1 hsome
      obtain ⟨old, hkey, hold⟩ := exists_of_get?_rekey hvalue
      rw [hrename hkey, hget] at hold
      cases hold

lemma mem_keys_rekey [DecidableEq κ] {m : KeyMap κ α} {rename : κ → κ} {key : κ} :
    key ∈ (m.rekey rename).keys ↔ ∃ old ∈ m.keys, rename old = key := by
  rw [rekey, mem_keys_ofList]
  simp only [keys, List.mem_map, exists_exists_and_eq_and]

lemma size_rekey [DecidableEq κ] {rename : κ → κ} (hrename : Function.Injective rename)
    (m : KeyMap κ α) : (m.rekey rename).size = m.size := by
  have hkeys : (m.rekey rename).keys.toFinset = m.keys.toFinset.image rename := by
    ext key
    simp only [List.mem_toFinset, mem_keys_rekey, Finset.mem_image]
  rw [size_eq_card, hkeys, Finset.card_image_of_injective _ hrename, size_eq_card]

end Lawful

end KeyMap

end Hookup
