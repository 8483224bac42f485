import Hookup.Catalogue.Hera
import Hookup.Service
import Hookup.Proofs.Agreement
import Hookup.Proofs.Names
import Hookup.Proofs.Narrowing

/-!
# The cache agrees with fresh resolution

A cache holds what was resolved once, for all polarizations, from the names of its stations.  A
query is answered from it by picking out entries and narrowing them; a fresh answer resolves the
parts that match, for the polarization asked for.

* `hpnMatches_of_covers` — what matches the names of a covered query was resolved into the cache.
* `get?_resolveNames_restrict` — a fresh dossier holds the entries of the larger dossier that match,
  restricted to the selection.
* **`select_agrees`** — the two answers have the same keys and the same entries, up to the list of
  labels that an entry says it was resolved for.
-/

namespace Hookup

/-! ## Coverage -/

namespace HookupCache

/-- A part number that matches the names of a covered query matches the stations of the cache. -/
lemma hpnMatches_of_covers {cache : HookupCache} {names : List String} {exact : Bool}
    {hpn : String} (hcovers : cache.covers names = true)
    (h : hpnMatches (names.map canonicalName) exact hpn = true) :
    hpnMatches (cache.stations.map canonicalName) false hpn = true := by
  rw [hpnMatches, List.any_map, List.any_eq_true] at h ⊢
  obtain ⟨name, hname, hmatch⟩ := h
  obtain ⟨station, hstation, hbegins⟩ := List.any_eq_true.1 (List.all_eq_true.1 hcovers name hname)
  refine ⟨station, hstation, ?_⟩
  simp only [Function.comp_apply] at hmatch
  simp only [Function.comp_apply, Bool.false_eq_true, ↓reduceIte]
  split_ifs at hmatch
  · rw [beq_iff_eq.1 hmatch]
    exact hbegins
  · exact Text.beginsWith_trans hmatch hbegins

lemma mem_partsMatching_of_covers {cache : HookupCache} {names : List String} {exact : Bool}
    {s : ActiveSet} (hs : s.Built) (hcovers : cache.covers names = true) :
    ∀ part ∈ s.partsMatching names exact, part ∈ s.partsMatching cache.stations false := by
  intro part hpart
  obtain ⟨hactive, hmatch⟩ := (ActiveSet.mem_partsMatching hs).1 hpart
  exact (ActiveSet.mem_partsMatching hs).2 ⟨hactive, hpnMatches_of_covers hcovers hmatch⟩

/-- What a cache answers for a key. -/
lemma get?_select (cache : HookupCache) (names : List String) (exact : Bool) (pol : PolSelection)
    (key : String) : (cache.select names exact pol).get? key =
      if hpnMatches (names.map canonicalName) exact (PartKey.hpn ⟨key⟩) then
        (cache.entries.get? key).map pol.narrow
      else none := by
  rw [select, KeyMap.get?_mapValues, KeyMap.get?_filter]
  split_ifs <;> rfl

end HookupCache

/-! ## The larger dossier -/

namespace Resolver

variable {r : Resolver} {hint : Option String} {pol : PolSelection} {stations names : List String}
  {exact : Bool} {dossier : Dossier}

/-- What a part of the larger dossier resolves to for a selection: its entry restricted, or the
error for which it was left out. -/
lemma resolvePart_cases (hr : r.active.Built) (hlabels : r.catalogue.PlainLabels)
    (h : r.resolveNames stations false .all hint = .ok dossier) {part : Part}
    (hpart : part ∈ r.active.partsMatching stations false) (pol : PolSelection) :
    (∃ found, r.resolvePart part.key .all hint = .ok found ∧
      r.resolvePart part.key pol hint = .ok (found.map pol.restrict)) ∨
    ∃ e, e.isPerPart = true ∧ r.resolvePart part.key .all hint = .error e ∧
      r.resolvePart part.key pol hint = .error e := by
  have hnarrows := resolveWithin_narrows hr hlabels pol hint maxRedirectDepth part.key
  cases hall : r.resolvePart part.key .all hint with
  | ok found => exact .inl ⟨found, rfl, hnarrows.ok found hall⟩
  | error e =>
      have hpartly := (resolveNames_eq_ok.1 h).2.2.1 part hpart e hall
      exact .inr ⟨e, hpartly, rfl, hnarrows.error e hall hpartly⟩

/-- **Names that are covered by a dossier can be resolved**, for any selection. -/
lemma exists_resolveNames (hr : r.active.Built) (hlabels : r.catalogue.PlainLabels)
    (h : r.resolveNames stations false .all hint = .ok dossier)
    (hsub : ∀ part ∈ r.active.partsMatching names exact,
      part ∈ r.active.partsMatching stations false) (pol : PolSelection) :
    ∃ fresh, r.resolveNames names exact pol hint = .ok fresh := by
  obtain ⟨hconfigured, hhint, -, -⟩ := resolveNames_eq_ok.1 h
  refine ⟨_, resolveNames_eq_ok.2 ⟨hconfigured, hhint, fun part hpart e he => ?_, rfl⟩⟩
  rcases resolvePart_cases hr hlabels h (hsub part hpart) pol with
    ⟨found, -, hok⟩ | ⟨e', hpartly, -, herror⟩
  · rw [he] at hok
    cases hok
  · rw [he, Except.error.injEq] at herror
    rw [herror]
    exact hpartly

/-- A fresh dossier holds the entries of the larger one that match, restricted to the selection. -/
theorem get?_resolveNames_restrict (hr : r.active.Built) (hlabels : r.catalogue.PlainLabels)
    (h : r.resolveNames stations false .all hint = .ok dossier)
    (hsub : ∀ part ∈ r.active.partsMatching names exact,
      part ∈ r.active.partsMatching stations false)
    (hrevs : ∀ key part, r.active.part? key = some part → ':' ∉ part.rev.toList)
    {fresh : Dossier} (hfresh : r.resolveNames names exact pol hint = .ok fresh) (key : String) :
    fresh.get? key =
      if hpnMatches (names.map canonicalName) exact (PartKey.hpn ⟨key⟩) then
        (dossier.get? key).map pol.restrict
      else none := by
  have hmatches : ∀ part, r.active.part? part.key = some part →
      hpnMatches (names.map canonicalName) exact part.key.hpn =
        hpnMatches (names.map canonicalName) exact part.hpn :=
    fun part hpart => hpnMatches_key hr hpart (hrevs _ _ hpart) _ _
  refine Option.ext fun entry => ?_
  rw [get?_resolveNames hfresh]
  constructor
  · -- an entry that is found freshly restricts one that was found for all polarizations
    rintro ⟨part, hmem, rfl, hrun⟩
    obtain ⟨hpart, hmatch⟩ := (ActiveSet.mem_partsMatching hr).1 hmem
    rw [hmatches part hpart, if_pos hmatch, Option.map_eq_some_iff]
    rcases resolvePart_cases hr hlabels h (hsub part hmem) pol with
      ⟨found, hall, hok⟩ | ⟨e, -, -, herror⟩
    · rw [hrun, Except.ok.injEq] at hok
      obtain ⟨whole, rfl, hwhole⟩ := Option.map_eq_some_iff.1 hok.symm
      exact ⟨whole, (get?_resolveNames h _).2 ⟨part, hsub part hmem, rfl, hall⟩, hwhole⟩
    · rw [hrun] at herror
      cases herror
  · intro hentry
    split_ifs at hentry with hmatch
    obtain ⟨whole, hwhole, rfl⟩ := Option.map_eq_some_iff.1 hentry
    obtain ⟨part, hmem, rfl, hall⟩ := (get?_resolveNames h _).1 hwhole
    obtain ⟨hpart, -⟩ := (ActiveSet.mem_partsMatching hr).1 hmem
    have hnarrows := resolveWithin_narrows hr hlabels pol hint maxRedirectDepth part.key
    rw [hmatches part hpart] at hmatch
    exact ⟨part, (ActiveSet.mem_partsMatching hr).2 ⟨hpart, hmatch⟩, rfl, hnarrows.ok _ hall⟩

end Resolver

/-- The labels of the standard topologies are told by every hookup key. -/
lemma Catalogue.plainLabels_hera : Catalogue.hera.PlainLabels := by
  have hall : ∀ e ∈ Catalogue.hera.topologies.toList, ∀ label ∈ e.2.polarizations,
      '<' ∉ label.toList ∧ '@' ∉ label.toList := by
    decide +kernel
  intro name t ht
  rw [topology] at ht
  split at ht
  next t' hget =>
    cases ht
    exact hall (name, t) (KeyMap.mem_toList_iff.2 hget)
  next => cases ht

/-! ## Two answers -/

/-- Whether two entries are the same but for the labels that they were resolved for. -/
structure Entry.SameChains (e e' : Entry) : Prop where
  key : e.key = e'.key
  chains : e.chains = e'.chains
  complete : e.complete = e'.complete
  hookupTypes : e.hookupTypes = e'.hookupTypes
  columns : e.columns = e'.columns
  timings : e.timings = e'.timings
  hookupType : e.topology.hookupType = e'.topology.hookupType

lemma PolSelection.sameChains (pol : PolSelection) (e : Entry) :
    (pol.narrow e).SameChains (pol.restrict e) := by
  rw [pol.narrow_eq_filterKeys]
  exact ⟨rfl, rfl, rfl, rfl, rfl, rfl, rfl⟩

/-- A set that was loaded was made from records, for the instant that was asked for. -/
lemma ActiveSet.exists_ofRecords_of_load {source : RecordSource} {instant : GpsTime}
    {s : ActiveSet} (h : ActiveSet.load source instant = .ok s) :
    ∃ records, ofRecords instant records = .ok s := by
  obtain ⟨parts, -, h⟩ := Outcome.bind_eq_ok.1 h
  obtain ⟨connections, -, h⟩ := Outcome.bind_eq_ok.1 h
  obtain ⟨notes, -, h⟩ := Outcome.bind_eq_ok.1 h
  obtain ⟨statuses, -, h⟩ := Outcome.bind_eq_ok.1 h
  obtain ⟨locations, -, h⟩ := Outcome.bind_eq_ok.1 h
  exact ⟨_, h⟩

lemma ActiveSet.built_of_load {source : RecordSource} {instant : GpsTime} {s : ActiveSet}
    (h : ActiveSet.load source instant = .ok s) : s.Built :=
  ⟨instant, exists_ofRecords_of_load h⟩

namespace Service

variable {s : Service} {cache : HookupCache} {built : ActiveSet} {instant : GpsTime}

/-- What a cache was built from. -/
lemma buildCache_eq_ok (h : s.buildCache instant = .ok cache)
    (hbuilt : ActiveSet.load s.source instant = .ok built) :
    (s.resolver built false).resolveNames s.settings.stations false .all s.settings.hookupType =
        .ok cache.entries ∧
      cache.stations = s.settings.stations := by
  obtain ⟨context, hcontext, h⟩ := Outcome.bind_eq_ok.1 h
  obtain ⟨dossier, hdossier, h⟩ := Outcome.bind_eq_ok.1 h
  obtain ⟨active, hactive, hcontext⟩ := Outcome.bind_eq_ok.1 hcontext
  rw [hbuilt, Except.ok.injEq] at hactive
  subst hactive
  cases hcontext
  cases h
  exact ⟨hdossier, rfl⟩

/-- A cache that could be built was built from a set that could be loaded. -/
lemma exists_load_of_buildCache (h : s.buildCache instant = .ok cache) :
    ∃ built, ActiveSet.load s.source instant = .ok built := by
  obtain ⟨context, hcontext, -⟩ := Outcome.bind_eq_ok.1 h
  obtain ⟨built, hbuilt, -⟩ := Outcome.bind_eq_ok.1 hcontext
  exact ⟨built, hbuilt⟩

/-- **What a cache answers is narrowed from what parts resolve to**, on the set that it was built
from and for all polarizations. -/
theorem exists_of_get?_select (hbuilt : ActiveSet.load s.source instant = .ok built)
    (hcache : s.buildCache instant = .ok cache) {names : List String} {exact : Bool}
    {pol : PolSelection} {key : String} {picked : Entry}
    (h : (cache.select names exact pol).get? key = some picked) :
    ∃ part whole, part ∈ built.partsMatching s.settings.stations false ∧ part.key.text = key ∧
      (s.resolver built false).resolvePart part.key .all s.settings.hookupType =
        .ok (some whole) ∧
      pol.narrow whole = picked := by
  rw [HookupCache.get?_select] at h
  split_ifs at h
  obtain ⟨whole, hwhole, hpicked⟩ := Option.map_eq_some_iff.1 h
  obtain ⟨hentries, -⟩ := buildCache_eq_ok hcache hbuilt
  obtain ⟨part, hpart, hkey, hrun⟩ := (Resolver.get?_resolveNames hentries key).1 hwhole
  exact ⟨part, whole, hpart, hkey, hrun, hpicked⟩

/-- **The cache agrees with fresh resolution.**  Take a cache that was built from the set of an
instant, and a set with the same parts and connections, such as that of a later instant at which
nothing has changed.  If no label holds a `<` or an `@` and no revision a colon, all names that the
cache covers can be resolved freshly, for any selection, and the cache answers with the same keys
and the same entries. -/
theorem select_agrees {fresh : ActiveSet}
    (hbuilt : ActiveSet.load s.source instant = .ok built)
    (hcache : s.buildCache instant = .ok cache)
    (hagrees : built.Agrees fresh) (hlabels : s.catalogue.PlainLabels)
    (hrevs : ∀ key part, built.part? key = some part → ':' ∉ part.rev.toList)
    {names : List String} (hcovers : cache.covers names = true) (exact : Bool)
    (pol : PolSelection) :
    ∃ dossier, (s.resolver fresh false).resolveNames names exact pol s.settings.hookupType =
        .ok dossier ∧
      (cache.select names exact pol).keys = dossier.keys ∧
      ∀ key picked entry, (cache.select names exact pol).get? key = some picked →
        dossier.get? key = some entry → picked.SameChains entry := by
  have hb : built.Built := ActiveSet.built_of_load hbuilt
  obtain ⟨hall, hstations⟩ := buildCache_eq_ok hcache hbuilt
  have hsub : ∀ part ∈ built.partsMatching names exact,
      part ∈ built.partsMatching s.settings.stations false := by
    rw [← hstations]
    exact HookupCache.mem_partsMatching_of_covers hb hcovers
  obtain ⟨dossier, hdossier⟩ :=
    Resolver.exists_resolveNames (r := s.resolver built false) hb hlabels hall hsub pol
  have hentry := Resolver.get?_resolveNames_restrict (r := s.resolver built false) hb hlabels hall
    hsub hrevs hdossier
  refine ⟨dossier, ?_, KeyMap.keys_eq_of_isSome fun key => ?_, fun key picked entry hp he => ?_⟩
  · rw [resolver, ← Resolver.resolveNames_congr s.catalogue false hagrees]
    exact hdossier
  · rw [HookupCache.get?_select, hentry]
    split_ifs
    · rw [Option.isSome_map, Option.isSome_map]
    · rfl
  · rw [HookupCache.get?_select] at hp
    rw [hentry] at he
    split_ifs at hp he
    obtain ⟨whole, hwhole, rfl⟩ := Option.map_eq_some_iff.1 hp
    rw [hwhole, Option.map_some, Option.some.injEq] at he
    rw [← he]
    exact pol.sameChains whole

/-- A service for the dish, which was never changed, with a cache of all its stations. -/
def dish : Service where
  source := {
    activeParts := fun _ => pure Records.dish.parts
    activeConnections := fun _ => pure Records.dish.connections
    activeNotes := fun _ => pure []
    activeStatuses := fun _ => pure []
    activeLocations := fun _ => pure []
    latestVersion := pure none
    listParts := pure Records.dish.parts
    listConnections := pure Records.dish.connections }
  catalogue := .hera
  settings := .standard

/-- A cache of the dish answers for its station at a later instant. -/
theorem select_agrees_dish : ∃ cache fresh dossier,
    dish.buildCache ⟨10⟩ = .ok cache ∧ ActiveSet.load dish.source ⟨20⟩ = .ok fresh ∧
    (dish.resolver fresh false).resolveNames ["hh1"] true (.only "E") none = .ok dossier ∧
    (cache.select ["hh1"] true (.only "E")).keys = dossier.keys ∧ dossier.keys = ["HH1:A"] := by
  have hsets : (ActiveSet.load dish.source ⟨10⟩).toOption.any (fun built =>
      built.parts.toList.all (fun e => !e.2.rev.toList.contains ':') &&
      (ActiveSet.load dish.source ⟨20⟩).toOption.any fun fresh =>
        decide (built.parts = fresh.parts) && decide (built.wiring = fresh.wiring)) = true := by
    decide +kernel
  obtain ⟨built, hbuilt, htests⟩ := Outcome.exists_of_any hsets
  obtain ⟨hrevs, hfresh⟩ := Bool.and_eq_true_iff.1 htests
  obtain ⟨fresh, hload, hagrees⟩ := Outcome.exists_of_any hfresh
  rw [Bool.and_eq_true, decide_eq_true_eq, decide_eq_true_eq] at hagrees
  have hstored : (dish.buildCache ⟨10⟩).toOption.any (fun cache => cache.covers ["hh1"] &&
      decide ((cache.select ["hh1"] true (.only "E")).keys = ["HH1:A"])) = true := by
    decide +kernel
  obtain ⟨cache, hcache, htests⟩ := Outcome.exists_of_any hstored
  rw [Bool.and_eq_true, decide_eq_true_eq] at htests
  have hplain : ∀ key part, built.part? key = some part → ':' ∉ part.rev.toList := by
    intro key part hpart
    simpa using List.all_eq_true.1 hrevs (key, part) (KeyMap.mem_toList_iff.2 hpart)
  obtain ⟨dossier, hdossier, hkeys, -⟩ := select_agrees hbuilt hcache ⟨hagrees.1, hagrees.2⟩
    Catalogue.plainLabels_hera hplain htests.1 true (.only "E")
  exact ⟨cache, fresh, dossier, hcache, hload, hdossier, hkeys, hkeys ▸ htests.2⟩

end Service

end Hookup
