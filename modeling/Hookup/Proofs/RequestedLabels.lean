import Hookup.Proofs.CacheAgreement
import Hookup.Proofs.StrictQueries

/-!
# Labels that were asked for

An entry says under which topology it was resolved, and for which polarizations.  When a part is
resolved for a selection these are the selected labels.  A cache is resolved for all polarizations,
and the entries that it answers with are narrowed in their chains, but not in this list.

* `Entry.Lists` — an entry lists the labels of its topology that a selection selects.
* `lists_of_resolveWithin` — every entry lists those that it was resolved for.
* `resolveWithin_sameType`, `hookupType_eq_of_resolvePart` — the topology is the same for every
  selection, strict or not.
* **`cached_labels`** — so entries from a cache list all labels of the topology, of which a fresh
  resolution lists those that were asked for.  `cached_labels_unasked` is a query for one
  polarization that is answered with an entry for two.
-/

namespace Hookup

/-! ## Labels of entries -/

/-- Whether an entry lists exactly the labels of its topology that a selection selects. -/
def Entry.Lists (catalogue : Catalogue) (pol : PolSelection) (e : Entry) : Prop :=
  ∃ t, catalogue.topology e.topology.hookupType = .ok t ∧
    e.topology.polarizations = t.polarizations.filter pol.selects

namespace Entry

variable {catalogue : Catalogue} {wanted : PolSelection} {e : Entry}

@[simp] lemma topology_foldl_add (hookupType : String) (resolved : List ResolvedChain) (e : Entry) :
    (resolved.foldl (Entry.add hookupType) e).topology = e.topology := by
  rw [foldl_add]

@[simp] lemma topology_foldl_absorb (others : List Entry) (e : Entry) :
    (others.foldl absorb e).topology = e.topology := by
  induction others generalizing e with
  | nil => rfl
  | cons other rest ih => exact ih (e.absorb other)

lemma topology_narrow (wanted : PolSelection) (e : Entry) :
    (wanted.narrow e).topology = e.topology := by
  rw [wanted.narrow_eq_filterKeys]
  rfl

/-- An entry that lists all labels lists the selected ones if it lists no others. -/
lemma Lists.lists_iff (h : e.Lists catalogue .all) :
    e.Lists catalogue wanted ↔ ∀ label ∈ e.topology.polarizations, wanted.selects label = true := by
  obtain ⟨t, ht, hall⟩ := h
  have hlabels : e.topology.polarizations = t.polarizations := by
    rw [hall]
    exact List.filter_eq_self.2 fun _ _ => rfl
  constructor
  · rintro ⟨t', ht', hlist⟩ label hlabel
    rw [hlist] at hlabel
    exact (List.mem_filter.1 hlabel).2
  · intro hselects
    refine ⟨t, ht, ?_⟩
    rw [← hlabels, List.filter_eq_self.2 hselects]

/-- Of two entries under one topology, one listing all labels, the other lists the selected ones of
these. -/
lemma Lists.eq_filter {other : Entry} (h : e.Lists catalogue .all)
    (h' : other.Lists catalogue wanted)
    (htype : other.topology.hookupType = e.topology.hookupType) :
    other.topology.polarizations = e.topology.polarizations.filter wanted.selects := by
  obtain ⟨t, ht, hall⟩ := h
  obtain ⟨t', ht', hlist⟩ := h'
  rw [htype, ht, Except.ok.injEq] at ht'
  subst ht'
  rw [hlist, hall, List.filter_filter]
  exact List.filter_congr fun label _ => (Bool.and_true _).symm

end Entry

namespace Resolver

variable {r : Resolver} {pol : PolSelection} {hint : Option String} {allowed : Nat}
  {key : PartKey} {part : Part} {hookupType : String} {entry : Entry} {found : Option Entry}

lemma topology_of_resolvePhysical (h : r.resolvePhysical part hookupType pol = .ok entry) :
    ∃ t, r.catalogue.topology hookupType = .ok t ∧
      entry.topology = ⟨hookupType, t.polarizations.filter pol.selects⟩ := by
  obtain ⟨t, resolved, ht, -, rfl⟩ := resolvePhysical_eq_ok.1 h
  exact ⟨t, ht, Entry.topology_foldl_add _ _ _⟩

/-- **An entry lists the labels it was resolved for**, by way of whichever substitutes. -/
theorem lists_of_resolveWithin (h : r.resolveWithin pol hint allowed key = .ok (some entry)) :
    entry.Lists r.catalogue pol := by
  refine resolveWithin_induction (Q := fun _ e => e.Lists r.catalogue pol) ?_ ?_ ?_ ?_ ?_ h
  · intro key part hookupType entry hpart hrole hentry
    obtain ⟨t, ht, htopology⟩ := topology_of_resolvePhysical hentry
    exact ⟨t, by rw [htopology]; exact ht, by rw [htopology]⟩
  · exact fun _ _ _ _ _ _ _ _ _ hlists => hlists
  · exact fun _ _ _ hlists => hlists
  · exact fun _ _ _ hlists => hlists
  · exact fun _ _ _ hlists _ => hlists

/-! ## One topology for every selection -/

lemma topology_carried (substitutes : List PartKey) (substitute : PartKey) (e : Entry) :
    (carried substitutes substitute e).topology = e.topology := by
  rw [carried]
  split_ifs <;> rfl

/-- The hookup type of what is found for a part. -/
def typeOf? (found : Option Entry) : Option String := found.map (·.topology.hookupType)

/-- The hookup type of a part that stands for others is that of the first entry it takes over. -/
lemma typeOf?_mergeEntries (part : Part) (entries : List Entry) :
    typeOf? (mergeEntries part entries) = (entries.map (·.topology.hookupType)).head? := by
  cases entries with
  | nil => rfl
  | cons first others =>
      rw [mergeEntries, typeOf?, Option.map_some, Entry.topology_foldl_absorb, List.map_cons,
        List.head?_cons]

/-- Whether two outcomes for a part, if neither of them ends a resolution, are entries of one hookup
type, or nothing either way. -/
def SameType (outcome outcome' : Except Error (Option Entry)) : Prop :=
  ∀ found found', substituteOutcome outcome = .ok found → substituteOutcome outcome' = .ok found' →
    typeOf? found = typeOf? found'

lemma sameType_error (e : Error) : SameType (.error e) (.error e) := by
  intro found found' h h'
  rw [h, Except.ok.injEq] at h'
  rw [h']

lemma typeOf?_of_resolvePhysical (hr : r.active.Built)
    (h : substituteOutcome (some <$> r.resolvePhysical part hookupType pol) = .ok found) :
    typeOf? found = some hookupType := by
  obtain hok | ⟨-, e, he, hpassed⟩ := substituteOutcome_eq_ok.1 h
  · obtain ⟨entry, hentry, rfl⟩ := Outcome.map_eq_ok.1 hok
    obtain ⟨t, -, htopology⟩ := topology_of_resolvePhysical hentry
    rw [typeOf?, Option.map_some, htopology]
  · have hpart := isPerPart_of_resolvePhysical_eq_error hr (Outcome.map_eq_error.1 he)
    rw [Error.isPerPart_of_isPassedOver hpassed] at hpart
    cases hpart

/-- What stands for others is not passed over, for it only fails where one of them is not. -/
lemma mergeSubstitutes_of_substituteOutcome {substitutes : List PartKey}
    {resolve : PartKey → Except Error (Option Entry)}
    (h : substituteOutcome (mergeSubstitutes part substitutes resolve) = .ok found) :
    mergeSubstitutes part substitutes resolve = .ok found := by
  obtain hok | ⟨-, e, he, hpassed⟩ := substituteOutcome_eq_ok.1 h
  · exact hok
  · obtain ⟨_, -, herror⟩ := mergeSubstitutes_eq_error he
    rw [(substituteOutcome_eq_error.1 herror).2] at hpassed
    cases hpassed

lemma typeOf?_of_mergeSubstitutes {substitutes : List PartKey}
    {resolve : PartKey → Except Error (Option Entry)}
    (h : mergeSubstitutes part substitutes resolve = .ok found) :
    ∃ types, List.Forall₂ (fun substitute type => ∃ found,
        substituteOutcome (resolve substitute) = .ok found ∧ typeOf? found = type)
      substitutes types ∧ typeOf? found = (types.filterMap id).head? := by
  obtain ⟨outcomes, houtcomes, rfl⟩ := mergeSubstitutes_eq_ok.1 h
  refine ⟨outcomes.map typeOf?, List.forall₂_map_right_iff.2 (houtcomes.imp ?_), ?_⟩
  · rintro substitute _ ⟨found, hfound, rfl⟩
    refine ⟨found, hfound, ?_⟩
    rw [typeOf?, typeOf?, Option.map_map]
    congr 1
    funext e
    rw [Function.comp_apply, topology_carried]
  · rw [typeOf?_mergeEntries, List.map_filterMap, List.filterMap_map]
    rfl

/-- Substitutes that agree in their types are merged to one type. -/
lemma sameType_mergeSubstitutes {substitutes : List PartKey}
    {resolve resolve' : PartKey → Except Error (Option Entry)}
    (h : ∀ substitute, SameType (resolve substitute) (resolve' substitute)) :
    SameType (mergeSubstitutes part substitutes resolve)
      (mergeSubstitutes part substitutes resolve') := by
  intro found found' hfound hfound'
  obtain ⟨types, htypes, hhead⟩ :=
    typeOf?_of_mergeSubstitutes (mergeSubstitutes_of_substituteOutcome hfound)
  obtain ⟨types', htypes', hhead'⟩ :=
    typeOf?_of_mergeSubstitutes (mergeSubstitutes_of_substituteOutcome hfound')
  have hsame : types = types' := by
    refine Outcome.eq_of_forall₂ ?_ htypes htypes'
    rintro substitute _ _ ⟨own, hown, rfl⟩ ⟨own', hown', rfl⟩
    exact h substitute own own' hown hown'
  rw [hhead, hhead', hsame]

/-- **A part is resolved under one topology**, for whichever selection and whether strict or not. -/
theorem resolveWithin_sameType {s : ActiveSet} (hs : s.Built) (catalogue : Catalogue)
    (strict strict' : Bool) (pol pol' : PolSelection) (hint : Option String) (allowed : Nat)
    (key : PartKey) :
    SameType ((⟨catalogue, s, strict⟩ : Resolver).resolveWithin pol hint allowed key)
      ((⟨catalogue, s, strict'⟩ : Resolver).resolveWithin pol' hint allowed key) := by
  refine resolveWithin_related (fun e _ => sameType_error e) (fun part hookupType => ?_) ?_
    allowed key
  · intro found found' h h'
    rw [typeOf?_of_resolvePhysical (r := ⟨catalogue, s, strict⟩) hs h,
      typeOf?_of_resolvePhysical (r := ⟨catalogue, s, strict'⟩) hs h']
  · exact fun _ _ _ _ h => sameType_mergeSubstitutes h

/-- Two entries that a part is resolved to are of one hookup type. -/
lemma hookupType_eq_of_resolvePart {s : ActiveSet} (hs : s.Built) {catalogue : Catalogue}
    {strict strict' : Bool} {pol' : PolSelection} {entry' : Entry}
    (h : (⟨catalogue, s, strict⟩ : Resolver).resolvePart key pol hint = .ok (some entry))
    (h' : (⟨catalogue, s, strict'⟩ : Resolver).resolvePart key pol' hint = .ok (some entry')) :
    entry.topology.hookupType = entry'.topology.hookupType := by
  have hsame : SameType _ _ :=
    resolveWithin_sameType hs catalogue strict strict' pol pol' hint maxRedirectDepth key
  exact Option.some.inj
    (hsame _ _ (substituteOutcome_eq_ok.2 (.inl h)) (substituteOutcome_eq_ok.2 (.inl h')))

end Resolver

/-! ## The main statement -/

namespace Service

variable {s : Service} {folder : Folder} {request : Request} {previous : Option QueryContext}
  {dossier : Dossier} {instant : GpsTime} {cache : HookupCache}

/-- An answer without a context is that of the cache, so the query allows it. -/
lemma cachedAnswer?_of_resolve (h : s.resolve folder request previous = .ok ⟨dossier, none⟩) :
    s.cachedAnswer? folder request = some dossier := by
  cases huse : request.useCache with
  | true => exact (resolve_eq_ok_iff huse previous).1 h
  | false =>
      rw [resolve, huse] at h
      exact absurd h resolveFresh_ne_ok

/-- What the cache answers is selected from what stands in its file, for the hookup type of the
cache. -/
lemma select_of_resolve (hread : HookupCache.read folder s.settings.path = .ok cache)
    (h : s.resolve folder request previous = .ok ⟨dossier, none⟩) :
    dossier = cache.select request.names request.exact request.pol ∧
      cache.hookupType = request.hookupType := by
  obtain ⟨cache', version, modified, hread', -, -, -, hfresh, hselect⟩ :=
    cachedAnswer?_eq_some_iff.1 (cachedAnswer?_of_resolve h)
  rw [hread, Except.ok.injEq] at hread'
  subst hread'
  exact ⟨hselect.symm, (HookupCache.staleness?_eq_none_iff.1 hfresh).1⟩

/-- **Entries from a cache list all labels of their topology.**  Take a cache that was built, any
folder in which it is read back, and any query that is answered from it, for whatever selection and
after whatever changes of the store.  Every entry of the answer lists all labels of its topology,
and so it lists exactly those that were asked for only if these are all.  A fresh resolution of the
same part, on the set that the cache was built from or one with the same parts and connections and
whether strict or not, gives an entry under the same topology that lists exactly those that were
asked for. -/
theorem cached_labels (hcache : s.buildCache instant = .ok cache)
    (hread : HookupCache.read folder s.settings.path = .ok cache) (later : RecordSource)
    (h : ({ s with source := later } : Service).resolve folder request previous =
      .ok ⟨dossier, none⟩)
    {key : String} {picked : Entry} (hpicked : dossier.get? key = some picked) :
    picked.Lists s.catalogue .all ∧
    (picked.Lists s.catalogue request.pol ↔
      ∀ label ∈ picked.topology.polarizations, request.pol.selects label = true) ∧
    ∀ built active strict entry, ActiveSet.load s.source instant = .ok built →
      built.Agrees active →
      (s.resolver active strict).resolvePart ⟨key⟩ request.pol request.hookupType =
        .ok (some entry) →
      entry.Lists s.catalogue request.pol ∧
      entry.topology.hookupType = picked.topology.hookupType ∧
      entry.topology.polarizations =
        picked.topology.polarizations.filter request.pol.selects := by
  obtain ⟨rfl, htype⟩ := select_of_resolve (s := { s with source := later }) hread h
  obtain ⟨built, hload⟩ := exists_load_of_buildCache hcache
  obtain ⟨part, whole, -, rfl, hwhole, rfl⟩ := exists_of_get?_select hload hcache hpicked
  -- narrowing changes the chains, not the topology
  have hall : (request.pol.narrow whole).Lists s.catalogue .all := by
    rw [Entry.Lists, Entry.topology_narrow]
    exact Resolver.lists_of_resolveWithin hwhole
  refine ⟨hall, hall.lists_iff, fun built' active strict entry hload' hagrees hrun => ?_⟩
  rw [hload, Except.ok.injEq] at hload'
  subst hload'
  rw [← htype, (fields_of_buildCache hcache).2.2.1] at hrun
  rw [resolver, Resolver.resolvePart, ← Resolver.resolveWithin_congr s.catalogue strict hagrees]
    at hrun
  have hlists : entry.Lists s.catalogue request.pol := Resolver.lists_of_resolveWithin hrun
  have htypes : entry.topology.hookupType = (request.pol.narrow whole).topology.hookupType := by
    rw [Entry.topology_narrow]
    exact Resolver.hookupType_eq_of_resolvePart (ActiveSet.built_of_load hload) hrun hwhole
  exact ⟨hlists, htypes, hall.eq_filter hlists htypes⟩

/-- A query for the east polarization of the dish's station. -/
def eastQuery : Request := ⟨["HH1"], true, .only "e", ⟨20⟩, none, true, false⟩

/-- After a rebuild the query is answered from the cache, with an entry that lists both labels. -/
lemma exists_answer_dish : ∃ written record cache picked,
    dish.writeCache .empty ⟨0, 0⟩ ⟨10⟩ "" = (written, .ok record) ∧
    dish.buildCache ⟨10⟩ = .ok cache ∧
    HookupCache.read written dish.settings.path = .ok cache ∧
    dish.resolve written eastQuery none = .ok ⟨cache.select ["HH1"] true (.only "e"), none⟩ ∧
    (cache.select ["HH1"] true (.only "e")).get? "HH1:A" = some picked ∧
    picked.topology = ⟨"parts_hera", ["e", "n"]⟩ := by
  have hwritten : (dish.writeCache .empty ⟨0, 0⟩ ⟨10⟩ "").2.isOk = true := by decide +kernel
  obtain ⟨record, hrecord⟩ := Outcome.exists_of_isOk hwritten
  have hwrite : dish.writeCache .empty ⟨0, 0⟩ ⟨10⟩ "" = (_, .ok record) := Prod.ext rfl hrecord
  have hplaces : Place.ofPath dish.settings.path ≠ Place.ofPath dish.settings.auditPath := by
    decide +kernel
  have hcovers : ∀ name ∈ eastQuery.names, ∃ station ∈ dish.settings.stations,
      Text.beginsWith (canonicalName name) (canonicalName station) = true := by
    decide +kernel
  have hbuilt : (dish.buildCache ⟨10⟩).toOption.any (fun cache =>
      ((cache.select ["HH1"] true (.only "e")).get? "HH1:A").any fun picked =>
        decide (picked.topology = ⟨"parts_hera", ["e", "n"]⟩)) = true := by
    decide +kernel
  obtain ⟨cache, hcache, hpicked⟩ := Outcome.exists_of_any hbuilt
  obtain ⟨picked, hget, htopology⟩ := (Option.any_eq_true _ _).1 hpicked
  -- what is read back and what answers is the cache that was built
  obtain ⟨stored, hstored, hread, -⟩ := read_of_writeCache hplaces hwrite
  obtain ⟨asked, hasked, hcached⟩ :=
    cachedAnswer?_of_writeCache hplaces hwrite hcovers rfl rfl nofun
  rw [hcache, Except.ok.injEq] at hstored hasked
  subst hstored hasked
  exact ⟨_, record, cache, picked, hwrite, hcache, hread,
    resolve_of_cachedAnswer? rfl hcached none, hget, of_decide_eq_true htopology⟩

/-- The station is resolved afresh under the topology of its entry in the cache, with the first of
the two labels that this one lists. -/
theorem cached_labels_dish : ∃ written record answer picked built entry,
    dish.writeCache .empty ⟨0, 0⟩ ⟨10⟩ "" = (written, .ok record) ∧
    dish.resolve written eastQuery none = .ok ⟨answer, none⟩ ∧
    answer.get? "HH1:A" = some picked ∧ picked.Lists .hera .all ∧
    picked.topology.polarizations = ["e", "n"] ∧
    ActiveSet.load dish.source ⟨10⟩ = .ok built ∧
    (dish.resolver built true).resolvePart ⟨"HH1:A"⟩ (.only "e") none = .ok (some entry) ∧
    entry.topology.hookupType = picked.topology.hookupType ∧
    entry.topology.polarizations = ["e"] := by
  obtain ⟨written, record, cache, picked, hwrite, hcache, hread, hanswer, hpicked, htopology⟩ :=
    exists_answer_dish
  have hset : (ActiveSet.load dish.source ⟨10⟩).toOption.any (fun built =>
      ((dish.resolver built true).resolvePart ⟨"HH1:A"⟩ (.only "e") none).toOption.any
        Option.isSome) = true := by
    decide +kernel
  obtain ⟨built, hload, hrun⟩ := Outcome.exists_of_any hset
  obtain ⟨found, hrun, hfound⟩ := Outcome.exists_of_any hrun
  obtain ⟨entry, rfl⟩ := Option.isSome_iff_exists.1 hfound
  obtain ⟨hall, -, hfresh⟩ := cached_labels hcache hread dish.source hanswer hpicked
  obtain ⟨-, htype, hlabels⟩ := hfresh built built true entry hload ⟨rfl, rfl⟩ hrun
  refine ⟨written, record, _, picked, built, entry, hwrite, hanswer, hpicked, hall,
    by rw [htopology], hload, hrun, htype, ?_⟩
  rw [hlabels, htopology]
  decide +kernel

/-- A query for one polarization is answered from a new cache with an entry that lists both, and
without the cache with an entry that lists the one. -/
theorem cached_labels_unasked : ∃ written record answer picked fresh context entry,
    dish.writeCache .empty ⟨0, 0⟩ ⟨10⟩ "" = (written, .ok record) ∧
    dish.resolve written { eastQuery with useCache := true } none = .ok ⟨answer, none⟩ ∧
    answer.get? "HH1:A" = some picked ∧ ¬ picked.Lists .hera eastQuery.pol ∧
    dish.resolve written { eastQuery with useCache := false } none = .ok ⟨fresh, context⟩ ∧
    fresh.get? "HH1:A" = some entry ∧ entry.Lists .hera eastQuery.pol := by
  obtain ⟨written, record, cache, picked, hwrite, -, -, hanswer, hpicked, htopology⟩ :=
    exists_answer_dish
  have hfresh : (dish.resolveFresh eastQuery none).toOption.any (fun resolved =>
      (resolved.dossier.get? "HH1:A").any fun entry =>
        decide (entry.topology = ⟨"parts_hera", ["e"]⟩)) = true := by
    decide +kernel
  obtain ⟨resolved, hrun, hentry⟩ := Outcome.exists_of_any hfresh
  obtain ⟨entry, hget, hentry⟩ := (Option.any_eq_true _ _).1 hentry
  have ht : Catalogue.hera.topology "parts_hera" = .ok Catalogue.heraTopology := by decide +kernel
  have hlabels : Catalogue.heraTopology.polarizations.filter eastQuery.pol.selects = ["e"] := by
    decide +kernel
  refine ⟨written, record, _, picked, resolved.dossier, resolved.context, entry, hwrite, hanswer,
    hpicked, ?_, hrun, hget, Catalogue.heraTopology, ?_, ?_⟩
  · rintro ⟨t, ht', hlists⟩
    rw [htopology, ht, Except.ok.injEq] at ht'
    subst ht'
    rw [htopology, hlabels] at hlists
    cases hlists
  · rw [of_decide_eq_true hentry]
    exact ht
  · rw [of_decide_eq_true hentry, hlabels]

end Service

end Hookup
