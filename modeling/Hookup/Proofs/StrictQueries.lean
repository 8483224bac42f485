import Hookup.Proofs.CacheUse

/-!
# Strict queries and the cache

A strict query fails where the hookup of a part is ambiguous, instead of ending the chain there.
Caches are resolved without being strict, and a query that the cache answers is not resolved.

* **`resolve_strict`** — so a strict query stays strict exactly as long as the cache does not
  answer; after a rebuild it does answer all queries that it covers.
* `strict_query_answered` — a query that fails for an ambiguous port, and is answered once there is
  a cache.
-/

namespace Hookup

namespace Service

/-- After a rebuild the cache answers what it covers, if the version is no obstacle. -/
lemma cachedAnswer?_of_writeCache {s : Service} {folder written : Folder} {now : CivilTime}
    {instant : GpsTime} {message : String} {record : AuditRecord} {request : Request}
    {version : Option StoreVersion}
    (hplaces : Place.ofPath s.settings.path ≠ Place.ofPath s.settings.auditPath)
    (hwrite : s.writeCache folder now instant message = (written, .ok record))
    (hcovers : ∀ name ∈ request.names, ∃ station ∈ s.settings.stations,
      Text.beginsWith (canonicalName name) (canonicalName station) = true)
    (htype : request.hookupType = s.settings.hookupType)
    (hversion : s.source.latestVersion = .ok version)
    (htimes : ∀ last, version = some last → last.updated ≤ .ofCivil now ∧
      last.updated ≤ instant ∧ last.updated < request.instant) :
    ∃ cache, s.buildCache instant = .ok cache ∧ s.cachedAnswer? written request =
      some (cache.select request.names request.exact request.pol) := by
  obtain ⟨cache, hbuild, hread, hmodified⟩ := read_of_writeCache hplaces hwrite
  obtain ⟨-, hbuilt, hcachedType, hstations⟩ := fields_of_buildCache hbuild
  refine ⟨cache, hbuild, cachedAnswer?_eq_some_iff.2 ⟨cache, version, _, hread, ?_, hversion,
    hmodified, HookupCache.staleness?_eq_none_iff.2 ⟨hcachedType.trans htype.symm, ?_⟩, rfl⟩⟩
  · rw [HookupCache.covers, hstations, List.all_eq_true]
    exact fun name hname => List.any_eq_true.2 (hcovers name hname)
  · rw [hbuilt]
    exact htimes

/-- **A strict query is strict only where the cache does not answer.**  Take a query that may use
the cache and would fail for an ambiguous port without it, as only strict ones do.  It fails in the
same way, or it is answered like the same query without being strict.  The latter is what happens
after every rebuild from the same records, for names that the cache covers: the answer is selected
from what was resolved without being strict. -/
theorem resolve_strict {s : Service} {request : Request} {previous : Option QueryContext}
    {part : PartKey} {pol : String} {direction : Direction} {candidates : List String}
    (huse : request.useCache = true)
    (hfails : ∀ folder, s.resolve folder { request with useCache := false } previous =
      .error (.ambiguousPort part pol direction candidates)) :
    (∀ folder,
      s.resolve folder request previous = .error (.ambiguousPort part pol direction candidates) ∨
      ∃ dossier, s.resolve folder request previous = .ok ⟨dossier, none⟩ ∧
        s.resolve folder { request with strict := false } previous = .ok ⟨dossier, none⟩) ∧
    ∀ folder written now instant message record version,
      Place.ofPath s.settings.path ≠ Place.ofPath s.settings.auditPath →
      s.writeCache folder now instant message = (written, .ok record) →
      (∀ name ∈ request.names, ∃ station ∈ s.settings.stations,
        Text.beginsWith (canonicalName name) (canonicalName station) = true) →
      request.hookupType = s.settings.hookupType →
      s.source.latestVersion = .ok version →
      (∀ last, version = some last → last.updated ≤ .ofCivil now ∧ last.updated ≤ instant ∧
        last.updated < request.instant) →
      ∃ cache, s.buildCache instant = .ok cache ∧ s.resolve written request previous =
        .ok ⟨cache.select request.names request.exact request.pol, none⟩ := by
  constructor
  · intro folder
    cases hcached : s.cachedAnswer? folder request with
    | none =>
        refine .inl ?_
        rw [resolve_of_cachedAnswer?_eq_none huse hcached, ← hfails folder, resolve_withoutCache]
    | some dossier =>
        -- what the cache answers does not depend on the flag
        let lenient := { request with strict := false }
        have huse' : lenient.useCache = true := huse
        have hcached' : s.cachedAnswer? folder lenient = some dossier := hcached
        exact .inr ⟨dossier, resolve_of_cachedAnswer? huse hcached previous,
          resolve_of_cachedAnswer? huse' hcached' previous⟩
  · intro folder written now instant message record version hplaces hwrite hcovers htype hversion
      htimes
    obtain ⟨cache, hbuild, hcached⟩ :=
      cachedAnswer?_of_writeCache hplaces hwrite hcovers htype hversion htimes
    exact ⟨cache, hbuild, resolve_of_cachedAnswer? huse hcached previous⟩

/-- A source whose signal goes through a splitter to two sinks. -/
def splitterRecords : Records where
  parts := [⟨"SRC", "A", "source", none, default⟩, ⟨"SPL", "A", "splitter", none, default⟩,
    ⟨"SINK1", "A", "sink", none, default⟩, ⟨"SINK2", "A", "sink", none, default⟩]
  connections := [⟨⟨"SRC", "A", "out"⟩, ⟨"SPL", "A", "in"⟩, default⟩,
    ⟨⟨"SPL", "A", "a"⟩, ⟨"SINK1", "A", "in"⟩, default⟩,
    ⟨⟨"SPL", "A", "b"⟩, ⟨"SINK2", "A", "in"⟩, default⟩]
  notes := []
  statuses := []
  locations := []

/-- The kind of signal path that this is. -/
def splitterTopology : Topology where
  polarizations := ["e", "n"]
  partTypes := [⟨"source", [], ["out"]⟩, ⟨"splitter", ["in"], ["a", "b"]⟩, ⟨"sink", ["in"], []⟩]
  redirects := .empty
  singlePol := .empty
  completePaths := []

/-- A service on these records, which keeps a cache of the source. -/
def splitter : Service where
  source := Journal.source ⟨splitterRecords, [], []⟩
  catalogue := ⟨[], .ofList [("splitters", splitterTopology)]⟩
  settings := { CacheSettings.standard with stations := ["SRC"] }

/-- A strict query for the source. -/
def strictQuery : Request := ⟨["SRC"], false, .all, ⟨100⟩, none, true, true⟩

/-- The splitter is ambiguous, for it has no port by the name of the one that the signal comes in
by, nor one that begins like a polarization. -/
lemma splitter_fails (folder : Folder) :
    splitter.resolve folder { strictQuery with useCache := false } none =
      .error (.ambiguousPort ⟨"SPL:A"⟩ "e" .down ["a", "b"]) := by
  have hdossier : Resolved.dossier <$> splitter.resolveFresh strictQuery none =
      .error (.ambiguousPort ⟨"SPL:A"⟩ "e" .down ["a", "b"]) := by
    decide +kernel
  exact Outcome.map_eq_error.1 hdossier

lemma exists_splitter_writeCache : ∃ written record,
    splitter.writeCache .empty ⟨0, 0⟩ ⟨100⟩ "" = (written, .ok record) := by
  have hwrite : (splitter.writeCache .empty ⟨0, 0⟩ ⟨100⟩ "").2.isOk = true := by decide +kernel
  obtain ⟨record, hrecord⟩ := Outcome.exists_of_isOk hwrite
  exact ⟨_, record, Prod.ext rfl hrecord⟩

/-- The strict query for the source goes on failing without the cache, and is answered from what a
rebuild has left. -/
theorem resolve_strict_splitter : ∃ written record cache,
    splitter.writeCache .empty ⟨0, 0⟩ ⟨100⟩ "" = (written, .ok record) ∧
    splitter.resolve .empty strictQuery none =
      .error (.ambiguousPort ⟨"SPL:A"⟩ "e" .down ["a", "b"]) ∧
    splitter.buildCache ⟨100⟩ = .ok cache ∧
    splitter.resolve written strictQuery none = .ok ⟨cache.select ["SRC"] false .all, none⟩ := by
  obtain ⟨written, record, hwrite⟩ := exists_splitter_writeCache
  have huse : strictQuery.useCache = true := rfl
  obtain ⟨hfails, hanswers⟩ := resolve_strict huse splitter_fails
  obtain ⟨cache, hbuild, hanswer⟩ := hanswers .empty written ⟨0, 0⟩ ⟨100⟩ "" record none
    (by decide +kernel) hwrite (by decide +kernel) rfl rfl nofun
  refine ⟨written, record, cache, hwrite, ?_, hbuild, hanswer⟩
  rcases hfails .empty with herror | ⟨dossier, hdossier, -⟩
  · exact herror
  · have hnone : splitter.cachedAnswer? .empty strictQuery = none := by decide +kernel
    rw [resolve_eq_ok_iff huse, hnone] at hdossier
    cases hdossier

/-- A strict query that fails for an ambiguous port is answered all the same once a cache has been
written from the same records: with chains that end at the splitter. -/
theorem strict_query_answered : strictQuery.strict = true ∧ ∃ written record dossier,
    splitter.writeCache .empty ⟨0, 0⟩ ⟨100⟩ "" = (written, .ok record) ∧
    splitter.resolve written { strictQuery with useCache := false } none =
      .error (.ambiguousPort ⟨"SPL:A"⟩ "e" .down ["a", "b"]) ∧
    splitter.resolve written { strictQuery with useCache := true } none = .ok ⟨dossier, none⟩ := by
  obtain ⟨written, record, hwrite⟩ := exists_splitter_writeCache
  have hcovers : ∀ name ∈ strictQuery.names, ∃ station ∈ splitter.settings.stations,
      Text.beginsWith (canonicalName name) (canonicalName station) = true := by
    decide +kernel
  obtain ⟨cache, -, hcached⟩ :=
    cachedAnswer?_of_writeCache (by decide +kernel) hwrite hcovers rfl rfl nofun
  exact ⟨rfl, written, record, _, hwrite, splitter_fails written,
    resolve_of_cachedAnswer? rfl hcached none⟩

end Service

end Hookup
