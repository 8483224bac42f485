import Hookup.Proofs.Resolution
import Mathlib.Data.List.TakeWhile

/-!
# Narrowing to a polarization

What is resolved for all polarizations and then narrowed to one is what is resolved for that one.
The two ways have nothing in common: resolution picks labels of a topology, while narrowing reads
the label off the text of a hookup key, to which a port and any number of part numbers may have been
added.  They agree as long as no label holds a `<` or an `@`, where a key stops telling its label.

* `keyPol_hookupKey`, `keyPol_viaKey` — a hookup key tells its label, by whichever substitutes.
* `restrict` — an entry with the chains of a selection only, and with its labels.
* `Narrows` — how the outcome for a selection follows from the outcome for all: an entry is
  restricted, and an error of one part stays.
* **`resolveWithin_narrows`** — it does so at every level of resolution.
-/

namespace Hookup

/-! ## Labels in hookup keys -/

/-- Whether hookup keys tell every label of a topology. -/
def Topology.PlainLabels (t : Topology) : Prop :=
  ∀ label ∈ t.polarizations, '<' ∉ label.toList ∧ '@' ∉ label.toList

/-- Whether they do so for every topology of a catalogue. -/
def Catalogue.PlainLabels (c : Catalogue) : Prop :=
  ∀ name t, c.topology name = .ok t → t.PlainLabels

/-- What follows a `<` or an `@` does not belong to the label. -/
lemma keyPol_append (key : String) {rest : String}
    (hrest : ∀ c ∈ rest.toList.head?, c = '<' ∨ c = '@') : keyPol (key ++ rest) = keyPol key := by
  have hstop : rest.toList.takeWhile (fun c => c != '<' && c != '@') = [] := by
    cases hchars : rest.toList with
    | nil => rfl
    | cons c chars =>
        rw [hchars] at hrest
        rcases hrest c rfl with rfl | rfl <;> rfl
  rw [keyPol, keyPol, String.toList_append, List.takeWhile_append, hstop, List.append_nil]
  split_ifs with hall
  · rw [(List.takeWhile_prefix _).eq_of_length hall]
  · rfl

lemma keyPol_eq_self {label : String} (hlabel : '<' ∉ label.toList ∧ '@' ∉ label.toList) :
    keyPol label = label := by
  have hall : label.toList.takeWhile (fun c => c != '<' && c != '@') = label.toList := by
    refine List.takeWhile_eq_self_iff.2 fun c hc => ?_
    rw [Bool.and_eq_true, bne_iff_ne, bne_iff_ne]
    exact ⟨fun h => hlabel.1 (h ▸ hc), fun h => hlabel.2 (h ▸ hc)⟩
  rw [keyPol, hall, String.ofList_toList]

lemma keyPol_hookupKey {label : String} (hlabel : '<' ∉ label.toList ∧ '@' ∉ label.toList)
    (port : String) (single : Bool) : keyPol (hookupKey label port single) = label := by
  rw [hookupKey]
  split_ifs
  · exact keyPol_eq_self hlabel
  · rw [String.append_assoc, String.append_assoc, keyPol_append label (by simp),
      keyPol_eq_self hlabel]

/-- The part that a chain came by is added behind the label. -/
lemma keyPol_viaKey (substitute : PartKey) (key : String) :
    keyPol (Resolver.viaKey substitute key) = keyPol key := by
  rw [Resolver.viaKey, String.append_assoc]
  exact keyPol_append key (by simp)

/-! ## Narrowed entries -/

namespace PolSelection

/-- Whether the chain of a hookup key belongs to the selection. -/
def keeps : PolSelection → String → Bool
  | all, _ => true
  | only pol, key => Text.equalsIgnoringCase (keyPol key) pol

/-- An entry with the chains of the selection only, and with its labels. -/
def restrict (pol : PolSelection) (e : Entry) : Entry :=
  { e.filterKeys pol.keeps with
    topology := ⟨e.topology.hookupType, e.topology.polarizations.filter pol.selects⟩ }

variable {pol : PolSelection}

lemma narrow_eq_filterKeys (e : Entry) : pol.narrow e = e.filterKeys pol.keeps := by
  cases pol with
  | all =>
      have hkeeps : all.keeps = fun _ => true := rfl
      rw [hkeeps]
      simp [narrow, Entry.filterKeys]
  | only pol => rfl

lemma keeps_viaKey (substitute : PartKey) (key : String) :
    pol.keeps (Resolver.viaKey substitute key) = pol.keeps key := by
  cases pol with
  | all => rfl
  | only pol => rw [keeps, keeps, keyPol_viaKey]

/-- A selection keeps the chains of the labels that it selects. -/
lemma keeps_hookupKey {label : String} (hlabel : '<' ∉ label.toList ∧ '@' ∉ label.toList)
    (port : String) (single : Bool) :
    pol.keeps (hookupKey label port single) = pol.selects label := by
  cases pol with
  | all => rfl
  | only pol =>
      rw [keeps, selects, keyPol_hookupKey hlabel, Text.equalsIgnoringCase, Text.equalsIgnoringCase,
        BEq.comm]

lemma restrict_absorb (e other : Entry) :
    pol.restrict (e.absorb other) = (pol.restrict e).absorb (pol.restrict other) := by
  simp only [restrict, Entry.filterKeys_absorb]
  rfl

lemma restrict_foldl_absorb (others : List Entry) (e : Entry) :
    pol.restrict (others.foldl Entry.absorb e) =
      (others.map pol.restrict).foldl Entry.absorb (pol.restrict e) := by
  induction others generalizing e with
  | nil => rfl
  | cons other rest ih => rw [List.foldl_cons, ih, restrict_absorb, List.map_cons, List.foldl_cons]

lemma restrict_carried (substitutes : List PartKey) (substitute : PartKey) (e : Entry) :
    pol.restrict (Resolver.carried substitutes substitute e) =
      Resolver.carried substitutes substitute (pol.restrict e) := by
  rw [Resolver.carried, Resolver.carried]
  split_ifs
  · simp only [restrict, Entry.filterKeys_rekey pol.keeps e (keeps_viaKey substitute)]
    rfl
  · rfl

lemma restrict_foldl_add (hookupType key : String) (labels : List String)
    (resolved : List ResolvedChain) :
    pol.restrict (resolved.foldl (Entry.add hookupType) (.empty key ⟨hookupType, labels⟩)) =
      (resolved.filter fun c => pol.keeps c.key).foldl (Entry.add hookupType)
        (.empty key ⟨hookupType, labels.filter pol.selects⟩) := by
  rw [restrict, Entry.filterKeys_foldl_add]
  simp only [Entry.foldl_add]
  rfl

end PolSelection

/-! ## Narrowed outcomes -/

namespace Terrain

variable {w : Terrain} {part : Part} {pol : PolSelection}

lemma keeps_of_mem_startsFor {label : String} (hlabel : '<' ∉ label.toList ∧ '@' ∉ label.toList)
    {start : Start} (h : start ∈ w.startsFor part label) :
    pol.keeps start.key = pol.selects label := by
  obtain ⟨port, -, rfl⟩ := List.mem_map.1 h
  exact PolSelection.keeps_hookupKey hlabel _ _

/-- The starts for the selected labels are the starts with the keys that are kept. -/
lemma starts_filter {labels : List String}
    (hlabels : ∀ label ∈ labels, '<' ∉ label.toList ∧ '@' ∉ label.toList) :
    w.starts part (labels.filter pol.selects) =
      (w.starts part labels).filter fun start => pol.keeps start.key := by
  induction labels with
  | nil => rfl
  | cons label rest ih =>
      have hkeeps : ∀ start ∈ w.startsFor part label, pol.keeps start.key = pol.selects label :=
        fun start => keeps_of_mem_startsFor (hlabels label List.mem_cons_self)
      have hrest := ih fun l hl => hlabels l (List.mem_cons_of_mem _ hl)
      rw [starts] at hrest ⊢
      rw [starts, List.flatMap_cons, List.filter_append, List.filter_congr hkeeps]
      by_cases hselect : pol.selects label = true
      · rw [List.filter_cons_of_pos hselect, List.flatMap_cons, hrest, hselect, List.filter_true]
        rfl
      · rw [List.filter_cons_of_neg hselect, hrest, Bool.eq_false_iff.2 hselect, List.filter_false]
        rfl

end Terrain

namespace Resolver

variable {r : Resolver} {pol : PolSelection} {hint : Option String} {part : Part}
  {hookupType : String} {entry : Entry} {outcome outcome' : Except Error (Option Entry)}

/-- Whether the outcome for a selection follows from the outcome for all polarizations: an entry is
restricted to the selection, and an error of one part stays the same. -/
structure Narrows (pol : PolSelection) (outcome outcome' : Except Error (Option Entry)) : Prop where
  ok : ∀ found, outcome = .ok found → outcome' = .ok (found.map pol.restrict)
  error : ∀ e, outcome = .error e → e.isPerPart = true → outcome' = .error e

lemma resolvePhysical_restrict (hlabels : r.catalogue.PlainLabels)
    (h : r.resolvePhysical part hookupType .all = .ok entry) :
    r.resolvePhysical part hookupType pol = .ok (pol.restrict entry) := by
  obtain ⟨t, resolved, ht, hresolved, rfl⟩ := resolvePhysical_eq_ok.1 h
  have hall : t.polarizations.filter PolSelection.all.selects = t.polarizations :=
    List.filter_eq_self.2 fun _ _ => rfl
  rw [hall] at hresolved ⊢
  refine resolvePhysical_eq_ok.2 ⟨t, resolved.filter fun c => pol.keeps c.key, ht, ?_, ?_⟩
  · rw [Terrain.starts_filter (hlabels _ t ht)]
    refine List.rel_filter (fun start c hc => ?_) hresolved
    show pol.keeps start.key = true ↔ pol.keeps c.key = true
    rw [(resolveStart_eq_ok hc).1]
  · rw [PolSelection.restrict_foldl_add]

lemma mergeEntries_restrict (part : Part) (entries : List Entry) :
    mergeEntries part (entries.map pol.restrict) =
      (mergeEntries part entries).map pol.restrict := by
  cases entries with
  | nil => rfl
  | cons first others =>
      rw [List.map_cons, mergeEntries, mergeEntries, Option.map_some, pol.restrict_foldl_absorb]
      rfl

/-- The outcome for a substitute is narrowed as it is taken over. -/
lemma Narrows.substituteOutcome (h : Narrows pol outcome outcome') :
    Narrows pol (Resolver.substituteOutcome outcome) (Resolver.substituteOutcome outcome') := by
  constructor
  · intro found hfound
    obtain hok | ⟨rfl, e, he, hpassed⟩ := substituteOutcome_eq_ok.1 hfound
    · rw [h.ok found hok]
      rfl
    · have herror := h.error e he (Error.isPerPart_of_isPassedOver hpassed)
      rw [herror, substituteOutcome_error, if_pos hpassed]
      rfl
  · intro e he hpart
    obtain ⟨he, hpassed⟩ := substituteOutcome_eq_error.1 he
    rw [h.error e he hpart, substituteOutcome_error, hpassed]
    rfl

/-- **Joining narrowed outcomes narrows what they are joined to.** -/
lemma narrows_mergeSubstitutes {substitutes : List PartKey}
    {resolve resolve' : PartKey → Except Error (Option Entry)}
    (h : ∀ substitute, Narrows pol (resolve substitute) (resolve' substitute)) :
    Narrows pol (mergeSubstitutes part substitutes resolve)
      (mergeSubstitutes part substitutes resolve') := by
  have hstep : ∀ substitute found, substituteOutcome (resolve substitute) = .ok found →
      substituteOutcome (resolve' substitute) = .ok (found.map pol.restrict) :=
    fun substitute => (h substitute).substituteOutcome.ok
  constructor
  · intro found hfound
    obtain ⟨outcomes, houtcomes, rfl⟩ := mergeSubstitutes_eq_ok.1 hfound
    refine mergeSubstitutes_eq_ok.2 ⟨outcomes.map (Option.map pol.restrict), ?_, ?_⟩
    · refine List.forall₂_map_right_iff.2 (houtcomes.imp ?_)
      rintro substitute _ ⟨found, hok, rfl⟩
      refine ⟨found.map pol.restrict, hstep substitute found hok, ?_⟩
      rw [Option.map_map, Option.map_map]
      congr 1
      exact funext fun e => (pol.restrict_carried substitutes substitute e).symm
    · rw [← mergeEntries_restrict, List.filterMap_map, List.map_filterMap]
      rfl
  · -- all substitutes before the one that fails give something either way
    intro e he hpart
    rcases Outcome.bind_eq_error.1 he with he | ⟨outcomes, -, he⟩
    · refine Outcome.bind_eq_error.2 (.inl (Outcome.mapM_eq_error_of ?_ ?_ he))
      · intro substitute outcome hok
        obtain ⟨found, hok, -⟩ := Outcome.bind_eq_ok.1 hok
        exact ⟨_, Outcome.bind_eq_ok.2 ⟨_, hstep substitute found hok, rfl⟩⟩
      · intro substitute herror
        rcases Outcome.bind_eq_error.1 herror with herror | ⟨found, -, herror⟩
        · have herror' := (h substitute).substituteOutcome.error e herror hpart
          exact Outcome.bind_eq_error.2 (.inl herror')
        · exact absurd herror Outcome.pure_ne_error
    · exact absurd he Outcome.pure_ne_error

/-- The errors of a physical part are not of this part alone. -/
lemma isPerPart_of_resolvePhysical_eq_error (hr : r.active.Built) {e : Error}
    (h : r.resolvePhysical part hookupType pol = .error e) : e.isPerPart = false := by
  obtain rfl | ⟨t, label, port, hfollow⟩ := resolvePhysical_eq_error h
  · rfl
  · have hlookup := Terrain.isLookup_of_follow_eq_error (w := r.terrain t) hr hfollow
    rw [Bool.eq_false_iff] at hlookup ⊢
    exact fun hpart => hlookup (Error.isLookup_of_isPerPart hpart)

lemma narrows_resolvePhysical (hr : r.active.Built) (hlabels : r.catalogue.PlainLabels) :
    Narrows pol (some <$> r.resolvePhysical part hookupType .all)
      (some <$> r.resolvePhysical part hookupType pol) := by
  constructor
  · intro found hfound
    obtain ⟨entry, hentry, rfl⟩ := Outcome.map_eq_ok.1 hfound
    rw [resolvePhysical_restrict hlabels hentry]
    rfl
  · intro e he hpart
    rw [isPerPart_of_resolvePhysical_eq_error hr (Outcome.map_eq_error.1 he)] at hpart
    cases hpart

lemma narrows_error (pol : PolSelection) (e : Error) : Narrows pol (.error e) (.error e) :=
  ⟨nofun, fun _ he _ => he⟩

/-- **What is resolved for a selection is the selection from what is resolved for all
polarizations**, at every level; an error that voids a part does so for every selection. -/
theorem resolveWithin_narrows (hr : r.active.Built) (hlabels : r.catalogue.PlainLabels)
    (pol : PolSelection) (hint : Option String) (allowed : Nat) (key : PartKey) :
    Narrows pol (r.resolveWithin .all hint allowed key) (r.resolveWithin pol hint allowed key) := by
  refine resolveWithin_related (fun e _ => narrows_error pol e) (fun part hookupType => ?_) ?_
    allowed key
  · exact narrows_resolvePhysical hr hlabels
  · exact fun _ _ _ _ h => narrows_mergeSubstitutes h

end Resolver

end Hookup
