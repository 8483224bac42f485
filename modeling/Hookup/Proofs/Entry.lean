import Hookup.Resolver
import Hookup.Proofs.KeyMap

/-!
# What entries are put together from

An entry keeps five tables beside each other, and every operation on entries does the same to each.
For a physical part they are filled chain by chain (`foldl_add`); for a part that stands for others
they are renamed, taken over and joined.

* `AllChains` — a property of all chains of an entry, which every one of these operations keeps.
* `filterKeys_foldl_add`, `filterKeys_rekey`, `filterKeys_absorb` — narrowing an entry that was put
  together is the same as putting together what was narrowed.
-/

namespace Hookup

/-! ## Filling the tables -/

namespace Entry

/-- The tables after some chains were entered: each holds its column of the list. -/
theorem foldl_add (hookupType : String) (resolved : List ResolvedChain) (e : Entry) :
    resolved.foldl (Entry.add hookupType) e =
      { e with
        chains := e.chains.insertAll (resolved.map fun c => (c.key, c.chain))
        complete := e.complete.insertAll (resolved.map fun c => (c.key, c.complete))
        hookupTypes := e.hookupTypes.insertAll (resolved.map fun c => (c.key, hookupType))
        columns := e.columns.insertAll (resolved.map fun c => (c.key, c.columns))
        timings := e.timings.insertAll (resolved.map fun c => (c.key, .ofChain c.chain)) } := by
  induction resolved generalizing e with
  | nil => rfl
  | cons c rest ih =>
      rw [List.foldl_cons, ih]
      rfl

/-! ## Properties of all chains -/

/-- Whether every chain of an entry has a property. -/
def AllChains (e : Entry) (P : List Connection → Prop) : Prop :=
  ∀ key chain, e.chains.get? key = some chain → P chain

variable {e other : Entry} {P : List Connection → Prop}

lemma allChains_foldl_add {hookupType key : String} {topology : EntryTopology}
    {resolved : List ResolvedChain} (h : ∀ c ∈ resolved, P c.chain) :
    (resolved.foldl (Entry.add hookupType) (.empty key topology)).AllChains P := by
  intro k chain hk
  rw [foldl_add] at hk
  obtain ⟨c, hc, heq⟩ := List.mem_map.1 (KeyMap.mem_of_get?_ofList hk)
  obtain ⟨-, rfl⟩ := Prod.mk.inj heq
  exact h c hc

lemma AllChains.rekey (h : e.AllChains P) (rename : String → String) :
    (e.rekey rename).AllChains P := by
  intro k chain hk
  obtain ⟨old, -, hold⟩ := KeyMap.exists_of_get?_rekey hk
  exact h old chain hold

lemma AllChains.absorb (h : e.AllChains P) (h' : other.AllChains P) :
    (e.absorb other).AllChains P := by
  intro k chain hk
  rw [Entry.absorb, KeyMap.get?_union, Option.or_eq_some_iff] at hk
  rcases hk with hk | ⟨-, hk⟩
  · exact h' k chain hk
  · exact h k chain hk

/-! ## Narrowing -/

variable (keep : String → Bool)

lemma filterKeys_foldl_add (hookupType : String) (resolved : List ResolvedChain) (e : Entry) :
    (resolved.foldl (Entry.add hookupType) e).filterKeys keep =
      (resolved.filter fun c => keep c.key).foldl (Entry.add hookupType) (e.filterKeys keep) := by
  simp only [foldl_add, filterKeys, KeyMap.filter_insertAll, List.filter_map, Function.comp_def]

lemma filterKeys_rekey (e : Entry) {rename : String → String}
    (h : ∀ key, keep (rename key) = keep key) :
    (e.rekey rename).filterKeys keep = (e.filterKeys keep).rekey rename := by
  simp only [filterKeys, rekey, KeyMap.filter_rekey _ rename keep h]

lemma filterKeys_absorb (e other : Entry) :
    (e.absorb other).filterKeys keep = (e.filterKeys keep).absorb (other.filterKeys keep) := by
  simp only [filterKeys, absorb, KeyMap.filter_union]

end Entry

end Hookup
