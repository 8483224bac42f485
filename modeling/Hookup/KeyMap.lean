/-!
# Maps in key order

Part tables, port tables and resolved hookups are all tables that are looked up by a key and
written out in the order of their keys.  `KeyMap κ α` is such a table: a list of entries whose
keys strictly ascend, with the proof in the type.  No operation therefore has a well-formedness
premise, and two maps with the same look-ups are equal (`KeyMap.ext_get?`).

* `get?`, `contains` — look up a key.
* `insert` — put a value under a key, in place of what was there.
* `ofList`, `union` — insert entry after entry, so that the last one of a key stays.
* `filter`, `mapValues` — keep some keys, change every value.
* `group` — sort a list into lists by a key.

`get?_insert`, `get?_filter` and `get?_mapValues` say what the operations do to look-ups; proofs
about the tables cite these and never unfold an operation.
-/

namespace Hookup

/-- A table whose entries stand in strictly ascending order of their keys. -/
structure KeyMap (κ : Type) (α : Type) [Ord κ] where
  toList : List (κ × α)
  ascending : toList.Pairwise (fun p q => compare p.1 q.1 = .lt)

namespace KeyMap

section Plain

variable {κ α β : Type} [Ord κ]

/-! ## Entry lists -/

/-- The value under a key in an entry list. -/
def lookupEntry (key : κ) : List (κ × α) → Option α
  | [] => none
  | (k, v) :: rest => if compare key k = .eq then some v else lookupEntry key rest

/-- Put an entry at its place in the order, in place of an entry with the same key. -/
def insertEntry (key : κ) (value : α) : List (κ × α) → List (κ × α)
  | [] => [(key, value)]
  | (k, v) :: rest =>
    match compare key k with
    | .lt => (key, value) :: (k, v) :: rest
    | .eq => (key, value) :: rest
    | .gt => (k, v) :: insertEntry key value rest

theorem mem_insertEntry {key : κ} {value : α} {entry : κ × α} :
    ∀ {entries : List (κ × α)}, entry ∈ insertEntry key value entries →
      entry = (key, value) ∨ entry ∈ entries
  | [], h => by simpa [insertEntry] using h
  | (k, v) :: rest, h => by
    simp only [insertEntry] at h
    split at h
    · simpa using h
    · rcases List.mem_cons.1 h with h | h
      · exact .inl h
      · exact .inr (List.mem_cons_of_mem _ h)
    · rcases List.mem_cons.1 h with h | h
      · exact .inr (h ▸ List.mem_cons_self)
      · exact (mem_insertEntry h).imp id (List.mem_cons_of_mem _)

theorem lookupEntry_map (f : α → β) (key : κ) :
    ∀ entries : List (κ × α), lookupEntry key (entries.map (fun e => (e.1, f e.2))) =
      (lookupEntry key entries).map f
  | [] => rfl
  | (k, v) :: rest => by
    have ih := lookupEntry_map f key rest
    by_cases hk : compare key k = .eq <;> simp [lookupEntry, hk, ih]

/-! ## Maps -/

/-- The map without entries. -/
def empty : KeyMap κ α := ⟨[], .nil⟩

instance : Inhabited (KeyMap κ α) := ⟨empty⟩

instance [DecidableEq κ] [DecidableEq α] : DecidableEq (KeyMap κ α) := fun m n =>
  if h : m.toList = n.toList then
    isTrue (by cases m; cases n; simp_all)
  else
    isFalse (fun e => h (e ▸ rfl))

/-- The value under a key. -/
def get? (m : KeyMap κ α) (key : κ) : Option α := lookupEntry key m.toList

/-- Whether a key has a value. -/
def contains (m : KeyMap κ α) (key : κ) : Bool := (m.get? key).isSome

/-- The keys, ascending. -/
def keys (m : KeyMap κ α) : List κ := m.toList.map (·.1)

/-- The values, in the order of their keys. -/
def values (m : KeyMap κ α) : List α := m.toList.map (·.2)

/-- How many keys there are. -/
def size (m : KeyMap κ α) : Nat := m.toList.length

/-- Whether there are no keys. -/
def isEmpty (m : KeyMap κ α) : Bool := m.toList.isEmpty

/-- Keep the keys that pass a test. -/
def filter (m : KeyMap κ α) (keep : κ → Bool) : KeyMap κ α :=
  ⟨m.toList.filter (fun e => keep e.1), m.ascending.sublist List.filter_sublist⟩

/-- Change every value. -/
def mapValues (m : KeyMap κ α) (f : α → β) : KeyMap κ β :=
  ⟨m.toList.map (fun e => (e.1, f e.2)), m.ascending.map _ (fun _ _ h => h)⟩

@[simp] theorem get?_empty (key : κ) : (empty : KeyMap κ α).get? key = none := rfl

theorem get?_mapValues (m : KeyMap κ α) (f : α → β) (key : κ) :
    (m.mapValues f).get? key = (m.get? key).map f :=
  lookupEntry_map f key m.toList

end Plain

section Lawful

variable {κ α : Type} [Ord κ] [Std.TransOrd κ] [Std.LawfulEqOrd κ]

/-! ## Ascending entry lists -/

theorem ascending_insertEntry (key : κ) (value : α) :
    ∀ entries : List (κ × α), entries.Pairwise (fun p q => compare p.1 q.1 = .lt) →
      (insertEntry key value entries).Pairwise (fun p q => compare p.1 q.1 = .lt)
  | [], _ => by simp [insertEntry]
  | (k, v) :: rest, h => by
    have ⟨head, tail⟩ := List.pairwise_cons.1 h
    simp only [insertEntry]
    split
    next hlt =>
      refine List.pairwise_cons.2 ⟨fun entry he => ?_, h⟩
      rcases List.mem_cons.1 he with rfl | he
      · exact hlt
      · exact Std.TransCmp.lt_trans hlt (head _ he)
    next heq =>
      have : key = k := Std.LawfulEqOrd.eq_of_compare heq
      subst this
      exact List.pairwise_cons.2 ⟨head, tail⟩
    next hgt =>
      refine List.pairwise_cons.2 ⟨fun entry he => ?_, ascending_insertEntry key value rest tail⟩
      rcases mem_insertEntry he with rfl | he
      · exact Std.OrientedCmp.lt_of_gt hgt
      · exact head _ he

omit [Std.TransOrd κ] in
theorem lookupEntry_insertEntry [DecidableEq κ] (key other : κ) (value : α) :
    ∀ entries : List (κ × α), lookupEntry other (insertEntry key value entries) =
      if other = key then some value else lookupEntry other entries
  | [] => by simp [insertEntry, lookupEntry]
  | (k, v) :: rest => by
    have ih := lookupEntry_insertEntry key other value rest
    simp only [insertEntry]
    split
    next => simp [lookupEntry]
    next heq =>
      have : key = k := Std.LawfulEqOrd.eq_of_compare heq
      subst this
      by_cases h : other = key <;> simp [lookupEntry, h]
    next hgt =>
      by_cases h : other = k
      · have hne : other ≠ key := by
          rintro rfl
          subst h
          simp at hgt
        subst h
        simp [lookupEntry, hne]
      · simp [lookupEntry, h, ih]

omit [Std.TransOrd κ] in
theorem lookupEntry_eq_none {key : κ} : ∀ {entries : List (κ × α)},
    (∀ entry ∈ entries, entry.1 ≠ key) → lookupEntry key entries = none
  | [], _ => rfl
  | (k, v) :: rest, h => by
    have hk : key ≠ k := fun e => h (k, v) List.mem_cons_self e.symm
    simpa [lookupEntry, hk] using
      lookupEntry_eq_none (fun e he => h e (List.mem_cons_of_mem _ he))

omit [Std.TransOrd κ] in
theorem mem_of_lookupEntry {key : κ} {value : α} : ∀ {entries : List (κ × α)},
    lookupEntry key entries = some value → (key, value) ∈ entries
  | (k, v) :: rest, h => by
    by_cases hk : key = k
    · subst hk
      simp only [lookupEntry, Std.LawfulEqOrd.compare_eq_iff_eq, ↓reduceIte,
        Option.some.injEq] at h
      simp [h]
    · simp only [lookupEntry, Std.LawfulEqOrd.compare_eq_iff_eq, hk, ↓reduceIte] at h
      exact List.mem_cons_of_mem _ (mem_of_lookupEntry h)

omit [Std.TransOrd κ] in
theorem key_ne_of_ascending {key : κ} {value : α} {rest : List (κ × α)}
    (h : ((key, value) :: rest).Pairwise (fun p q => compare p.1 q.1 = .lt)) :
    ∀ entry ∈ rest, entry.1 ≠ key := by
  intro entry he hk
  have hlt := (List.pairwise_cons.1 h).1 entry he
  simp [hk] at hlt

omit [Std.TransOrd κ] in
theorem lookupEntry_of_mem {key : κ} {value : α} : ∀ {entries : List (κ × α)},
    entries.Pairwise (fun p q => compare p.1 q.1 = .lt) → (key, value) ∈ entries →
      lookupEntry key entries = some value
  | (k, v) :: rest, hs, h => by
    rcases List.mem_cons.1 h with h | h
    · cases h
      simp [lookupEntry]
    · have hk : key ≠ k := key_ne_of_ascending hs _ h
      simpa [lookupEntry, hk] using lookupEntry_of_mem (List.pairwise_cons.1 hs).2 h

/-- Ascending entry lists with the same look-ups are the same list. -/
theorem entries_ext : ∀ {left right : List (κ × α)},
    left.Pairwise (fun p q => compare p.1 q.1 = .lt) →
    right.Pairwise (fun p q => compare p.1 q.1 = .lt) →
    (∀ key, lookupEntry key left = lookupEntry key right) → left = right
  | [], [], _, _, _ => rfl
  | [], (k, v) :: rest, _, _, h => by simpa [lookupEntry] using h k
  | (k, v) :: rest, [], _, _, h => by simpa [lookupEntry] using h k
  | (k, v) :: left, (k', v') :: right, hl, hr, h => by
    have hk : k = k' := by
      refine Classical.byContradiction fun hne => ?_
      have h₁ : (k, v) ∈ right := by
        have := h k
        simp only [lookupEntry, Std.ReflCmp.compare_self, ↓reduceIte,
          Std.LawfulEqOrd.compare_eq_iff_eq, hne] at this
        exact mem_of_lookupEntry this.symm
      have h₂ : (k', v') ∈ left := by
        have := h k'
        simp only [lookupEntry, Std.ReflCmp.compare_self, ↓reduceIte,
          Std.LawfulEqOrd.compare_eq_iff_eq, Ne.symm hne] at this
        exact mem_of_lookupEntry this
      have hlt := (List.pairwise_cons.1 hl).1 _ h₂
      have hgt := (List.pairwise_cons.1 hr).1 _ h₁
      have := Std.TransCmp.lt_trans hlt hgt
      simp at this
    subst hk
    have hv : v = v' := by simpa [lookupEntry] using h k
    subst hv
    refine congrArg _ (entries_ext (List.pairwise_cons.1 hl).2 (List.pairwise_cons.1 hr).2 ?_)
    intro key
    by_cases hkey : key = k
    · subst hkey
      rw [lookupEntry_eq_none (key_ne_of_ascending hl),
        lookupEntry_eq_none (key_ne_of_ascending hr)]
    · simpa [lookupEntry, hkey] using h key

omit [Std.TransOrd κ] in
theorem lookupEntry_filter (keep : κ → Bool) (key : κ) :
    ∀ entries : List (κ × α), lookupEntry key (entries.filter (fun e => keep e.1)) =
      if keep key then lookupEntry key entries else none
  | [] => by simp [lookupEntry]
  | (k, v) :: rest => by
    have ih := lookupEntry_filter keep key rest
    by_cases hk : key = k
    · subst hk
      by_cases h : keep key = true <;> simp_all [lookupEntry]
    · by_cases h : keep k = true <;> simp_all [lookupEntry]

/-! ## Operations that keep the order -/

/-- Put a value under a key; what stood there before is gone. -/
def insert (m : KeyMap κ α) (key : κ) (value : α) : KeyMap κ α :=
  ⟨insertEntry key value m.toList, ascending_insertEntry key value _ m.ascending⟩

/-- Insert the entries of a list one after the other. -/
def insertAll (m : KeyMap κ α) (entries : List (κ × α)) : KeyMap κ α :=
  entries.foldl (fun acc e => acc.insert e.1 e.2) m

/-- The map of an entry list; of several entries with one key the last stays. -/
def ofList (entries : List (κ × α)) : KeyMap κ α := empty.insertAll entries

/-- Both maps in one; under a key of both stands the value of the second. -/
def union (m n : KeyMap κ α) : KeyMap κ α := m.insertAll n.toList

/-- Give every entry a new key; of entries that meet, the one with the greatest old key stays. -/
def rekey (m : KeyMap κ α) (rename : κ → κ) : KeyMap κ α :=
  ofList (m.toList.map (fun e => (rename e.1, e.2)))

/-- The items of a list by their key, those of one key in the order of the list. -/
def group {ι : Type} (key : ι → κ) (items : List ι) : KeyMap κ (List ι) :=
  let add (groups : KeyMap κ (List ι)) (item : ι) : KeyMap κ (List ι) :=
    groups.insert (key item) ((groups.get? (key item)).getD [] ++ [item])
  items.foldl add empty

/-- **Two maps with the same look-ups are equal.** -/
theorem ext_get? {m n : KeyMap κ α} (h : ∀ key, m.get? key = n.get? key) : m = n := by
  cases m with | mk l hl => cases n with | mk l' hl' =>
  have : l = l' := entries_ext hl hl' h
  subst this
  rfl

/-- Insertion changes the look-up of one key only. -/
theorem get?_insert [DecidableEq κ] (m : KeyMap κ α) (key other : κ) (value : α) :
    (m.insert key value).get? other = if other = key then some value else m.get? other :=
  lookupEntry_insertEntry key other value m.toList

omit [Std.TransOrd κ] in
theorem get?_filter (m : KeyMap κ α) (keep : κ → Bool) (key : κ) :
    (m.filter keep).get? key = if keep key then m.get? key else none :=
  lookupEntry_filter keep key m.toList

omit [Std.TransOrd κ] in
/-- The entries are exactly the pairs that look-up finds. -/
theorem mem_toList_iff {m : KeyMap κ α} {key : κ} {value : α} :
    (key, value) ∈ m.toList ↔ m.get? key = some value :=
  ⟨lookupEntry_of_mem m.ascending, mem_of_lookupEntry⟩

end Lawful

end KeyMap

end Hookup
