import Hookup.Catalogue.Hera
import Hookup.Proofs.CacheFile
import Hookup.Proofs.Outcome
import Hookup.Proofs.StoreWrites
import Hookup.Service
import Mathlib.Data.Option.Basic

/-!
# When a cache answers

A query may be answered from a cache that was made long ago, from a store that has been written to
since and from a file that anything may have happened to.

* `forall_latestVersion_iff` — the version that a store reports stands for all of its changes, in
  whatever order they were recorded.
* `cachedAnswer?_eq_some_iff`, `resolve_eq_ok_iff` — what makes the cache answer, and that nothing
  else gives an answer without a context.
* `read_of_writeCache` — what a rebuild leaves behind.
* `mem_changes_run` — a store forgets no change.
* **`cache_answers_iff`** — over whole runs, the cache answers exactly if it is readable, covers the
  query and is not older than any change; else the query is answered as if there were no cache.
-/

namespace Hookup

/-! ## The last change -/

namespace Store

/-- The times of the changes that a store knows of. -/
def changes (s : Store) : List GpsTime := s.versions.map (·.updated)

/-- The later of two versions is one of them, and neither is later. -/
lemma exists_laterVersion (a b : StoreVersion) : ∃ later ∈ [a, b],
    laterVersion (some a) b = some later ∧
      ∀ version ∈ [a, b], version.updated ≤ later.updated := by
  rw [laterVersion]
  split_ifs with hle
  · exact ⟨b, by simp, rfl, by simpa using ⟨hle, Int.le_refl _⟩⟩
  · exact ⟨a, by simp, rfl, by simpa using ⟨Int.le_refl _, Int.le_of_lt (Int.not_le.1 hle)⟩⟩

/-- The latest of some versions is one of them, and none is later. -/
lemma exists_foldl_laterVersion (versions : List StoreVersion) : ∀ first : StoreVersion,
    ∃ last ∈ first :: versions, versions.foldl laterVersion (some first) = some last ∧
      ∀ version ∈ first :: versions, version.updated ≤ last.updated := by
  induction versions with
  | nil => exact fun first => ⟨first, by simp, rfl, by simp [GpsTime.le_def]⟩
  | cons next rest ih =>
      -- the later of the first two takes their place
      intro first
      obtain ⟨later, hlater, hstep, hle⟩ := exists_laterVersion first next
      obtain ⟨last, hlast, hrest, hle'⟩ := ih later
      have hbefore : later.updated ≤ last.updated := hle' later List.mem_cons_self
      refine ⟨last, ?_, by rw [List.foldl_cons, hstep, hrest], fun version hversion => ?_⟩
      · grind
      · rw [List.mem_cons, List.mem_cons] at hversion
        rcases hversion with hversion | hversion | hversion
        · exact Int.le_trans (hle version (by simp [hversion])) hbefore
        · exact Int.le_trans (hle version (by simp [hversion])) hbefore
        · exact hle' version (List.mem_cons_of_mem _ hversion)

/-- What holds at the last change and, with a time, at all earlier ones holds at all changes. -/
lemma forall_latestVersion_iff (s : Store) {P : GpsTime → Prop}
    (hP : ∀ t t', t' ≤ t → P t → P t') :
    (∀ last, s.latestVersion = some last → P last.updated) ↔ ∀ t ∈ s.changes, P t := by
  rw [latestVersion, changes]
  cases s.versions with
  | nil => simp
  | cons first rest =>
      obtain ⟨last, hmem, hlast, hle⟩ := exists_foldl_laterVersion rest first
      have hfold : (first :: rest).foldl laterVersion none = some last := hlast
      rw [hfold]
      constructor
      · intro h t ht
        obtain ⟨version, hversion, rfl⟩ := List.mem_map.1 ht
        exact hP _ _ (hle version hversion) (h last rfl)
      · intro h last' hlast'
        rw [← Option.some.inj hlast']
        exact h _ (List.mem_map_of_mem hmem)

/-- A write adds the time that it records, if any, to the changes. -/
lemma mem_changes_after {s : Store} {w : StoreWrite} {t : GpsTime} :
    t ∈ (s.after w).changes ↔ t ∈ s.changes ∨ ∃ version, w = .recordVersion version ∧
      version.updated = t := by
  cases w with
  | recordVersion version =>
      simp only [after, changes, recordVersion, List.map_append, List.mem_append, List.mem_map,
        List.mem_filter, List.mem_singleton, bne_iff_ne]
      grind
  | _ => simp [after, changes]

end Store

/-! ## The answer of the cache -/

namespace HookupCache

open Json

/-- A cache is not stale if the hookup type is the same, and the last change, if there was one, came
before the query and no later than the cache and its file. -/
lemma staleness?_eq_none_iff {cache : HookupCache} {instant modified : GpsTime}
    {hookupType : Option String} {version : Option StoreVersion} :
    cache.staleness? instant hookupType version modified = none ↔
      cache.hookupType = hookupType ∧ ∀ last, version = some last →
        last.updated ≤ modified ∧ last.updated ≤ cache.builtFor ∧ last.updated < instant := by
  rw [staleness?.eq_def]
  split_ifs with htype
  · simp [Ne.symm htype]
  · rw [not_not] at htype
    cases version with
    | none => simp [htype]
    | some last =>
        simp only [htype, true_and, Option.some.injEq, forall_eq']
        simp only [GpsTime.le_def, GpsTime.lt_def]
        split_ifs <;> simp <;> omega

end HookupCache

namespace Service

variable {s : Service} {folder : Folder} {request : Request} {dossier : Dossier}

/-- The cache answers if it can be read, covers all names and is not stale. -/
lemma cachedAnswer?_eq_some_iff : s.cachedAnswer? folder request = some dossier ↔
    ∃ cache version modified, HookupCache.read folder s.settings.path = .ok cache ∧
      cache.covers request.names = true ∧ s.source.latestVersion = .ok version ∧
      folder.modified s.settings.path = .ok modified ∧
      cache.staleness? request.instant request.hookupType version modified = none ∧
      cache.select request.names request.exact request.pol = dossier := by
  simp only [cachedAnswer?, Option.bind_eq_bind, Option.bind_eq_some_iff,
    Outcome.toOption_eq_some_iff, Option.guard_eq_some', Option.pure_def, Option.some.injEq,
    Option.isNone_iff_eq_none, exists_const]
  constructor
  · rintro ⟨cache, hread, hcovers, version, hversion, modified, hmodified, hfresh, hselect⟩
    exact ⟨cache, version, modified, hread, hcovers, hversion, hmodified, hfresh, hselect⟩
  · rintro ⟨cache, version, modified, hread, hcovers, hversion, hmodified, hfresh, hselect⟩
    exact ⟨cache, hread, hcovers, version, hversion, modified, hmodified, hfresh, hselect⟩

lemma resolveFresh_ne_ok {previous : Option QueryContext} :
    s.resolveFresh request previous ≠ .ok ⟨dossier, none⟩ := by
  intro h
  obtain ⟨context, -, h⟩ := Outcome.bind_eq_ok.1 h
  obtain ⟨dossier, -, h⟩ := Outcome.bind_eq_ok.1 h
  cases h

lemma resolve_withoutCache (previous : Option QueryContext) :
    s.resolve folder { request with useCache := false } previous =
      s.resolveFresh request previous := rfl

lemma resolve_of_cachedAnswer? (huse : request.useCache = true)
    (h : s.cachedAnswer? folder request = some dossier) (previous : Option QueryContext) :
    s.resolve folder request previous = .ok ⟨dossier, none⟩ := by
  rw [resolve, if_pos huse, h]
  rfl

lemma resolve_of_cachedAnswer?_eq_none (huse : request.useCache = true)
    (h : s.cachedAnswer? folder request = none) (previous : Option QueryContext) :
    s.resolve folder request previous = s.resolveFresh request previous := by
  rw [resolve, if_pos huse, h]

/-- An answer without a context is that of the cache. -/
lemma resolve_eq_ok_iff (huse : request.useCache = true) (previous : Option QueryContext) :
    s.resolve folder request previous = .ok ⟨dossier, none⟩ ↔
      s.cachedAnswer? folder request = some dossier := by
  constructor
  · intro h
    cases hcached : s.cachedAnswer? folder request with
    | none =>
        rw [resolve_of_cachedAnswer?_eq_none huse hcached] at h
        exact absurd h resolveFresh_ne_ok
    | some cached =>
        rw [resolve_of_cachedAnswer? huse hcached] at h
        cases h
        rfl
  · exact fun h => resolve_of_cachedAnswer? huse h previous

/-! ## Rebuilds -/

variable {cache : HookupCache} {now : CivilTime} {instant : GpsTime} {message : String}

/-- A cache is built in the current format, for the instant and the settings of the service. -/
lemma fields_of_buildCache (h : s.buildCache instant = .ok cache) :
    cache.formatVersion = cacheFormatVersion ∧ cache.builtFor = instant ∧
      cache.hookupType = s.settings.hookupType ∧ cache.stations = s.settings.stations := by
  obtain ⟨context, -, h⟩ := Outcome.bind_eq_ok.1 h
  obtain ⟨dossier, -, h⟩ := Outcome.bind_eq_ok.1 h
  cases h
  exact ⟨rfl, rfl, rfl, rfl⟩

variable {written : Folder} {record : AuditRecord}

/-- A cache is stored by two writes, of itself and of the line of its record. -/
lemma storeCache_eq_ok : s.storeCache folder now cache message = (written, .ok record) ↔
    ∃ first, cache.write folder s.settings.path now = .ok first ∧
      record = .ofCache cache now message ∧
      first.appendText s.settings.auditPath now record.line = .ok written := by
  rw [storeCache]
  constructor
  · intro h
    split at h
    · cases h
    · next first hfirst =>
        simp only at h
        split at h
        · cases h
        · next hlogged =>
            cases h
            exact ⟨first, hfirst, rfl, hlogged⟩
  · rintro ⟨first, hfirst, rfl, hlogged⟩
    have happend : (AuditRecord.ofCache cache now message).append first s.settings.auditPath now =
        .ok written := hlogged
    rw [hfirst]
    simp only [happend]
    rfl

/-- A cache that is stored stands in its file, if the log is kept in another one. -/
lemma file?_of_storeCache
    (hplaces : Place.ofPath s.settings.path ≠ Place.ofPath s.settings.auditPath)
    (h : s.storeCache folder now cache message = (written, .ok record)) :
    written.file? s.settings.path = some ⟨.text cache.text, now⟩ := by
  obtain ⟨first, hfirst, -, hlogged⟩ := storeCache_eq_ok.1 h
  exact Folder.file?_of_write_of_ne (Folder.followedBy_ne_folder _) hlogged hplaces
    (Folder.file?_of_writeText hfirst)

lemma writeCache_of_error {error : Error} (h : s.buildCache instant = .error error) :
    s.writeCache folder now instant message = (folder, .error error) := by
  rw [writeCache, h]
  rfl

lemma writeCache_of_ok (h : s.buildCache instant = .ok cache) :
    s.writeCache folder now instant message = s.storeCache folder now cache message := by
  rw [writeCache, h]

/-- A rebuild that succeeds leaves the cache in its file, if the log is kept in another one. -/
lemma file?_of_writeCache
    (hplaces : Place.ofPath s.settings.path ≠ Place.ofPath s.settings.auditPath)
    (h : s.writeCache folder now instant message = (written, .ok record)) :
    ∃ cache, s.buildCache instant = .ok cache ∧
      written.file? s.settings.path = some ⟨.text cache.text, now⟩ := by
  cases hbuild : s.buildCache instant with
  | error error =>
      rw [writeCache_of_error hbuild] at h
      cases h
  | ok cache =>
      rw [writeCache_of_ok hbuild] at h
      exact ⟨cache, rfl, file?_of_storeCache hplaces h⟩

/-- After a rebuild the cache is read back. -/
lemma read_of_writeCache
    (hplaces : Place.ofPath s.settings.path ≠ Place.ofPath s.settings.auditPath)
    (h : s.writeCache folder now instant message = (written, .ok record)) :
    ∃ cache, s.buildCache instant = .ok cache ∧
      HookupCache.read written s.settings.path = .ok cache ∧
      written.modified s.settings.path = .ok (.ofCivil now) := by
  obtain ⟨cache, hbuild, hfile⟩ := file?_of_writeCache hplaces h
  refine ⟨cache, hbuild, ?_, ?_⟩
  · rw [HookupCache.read_of_file? hfile, HookupCache.ofText_text,
      if_pos (fields_of_buildCache hbuild).1]
    rfl
  · rw [Folder.modified, hfile]
    rfl

end Service

/-! ## Runs -/

/-- A store that is written to, and the files that a cache is kept in. -/
structure Installation where
  rows : Store
  folder : Folder

namespace Installation

/-- What happens to an installation. -/
inductive Event where
  | write (w : StoreWrite)
  /-- Some service rebuilds its cache. -/
  | rebuild (service : Service) (now : CivilTime) (instant : GpsTime) (message : String)
  /-- The files change, in whatever way. -/
  | replace (folder : Folder)

/-- One event.  A write that is refused changes nothing. -/
def step (s : Installation) : Event → Installation
  | .write w => { s with rows := (s.rows.perform w).toOption.getD s.rows }
  | .rebuild service now instant message =>
    { s with folder := (service.writeCache s.folder now instant message).1 }
  | .replace folder => { s with folder }

/-- One event after the other. -/
def run (s : Installation) (events : List Event) : Installation := events.foldl step s

/-- The time of the change that an event records. -/
def Event.recorded? : Event → Option GpsTime
  | .write (.recordVersion version) => some version.updated
  | _ => none

/-- The times of all changes that were ever recorded. -/
def recorded (events : List Event) : List GpsTime := events.filterMap Event.recorded?

lemma mem_changes_step (s : Installation) (e : Event) (t : GpsTime) :
    t ∈ (s.step e).rows.changes ↔ t ∈ s.rows.changes ∨ e.recorded? = some t := by
  cases e with
  | write w =>
      rw [step]
      rcases s.rows.perform_cases w with ⟨error, herror, hrefuses⟩ | ⟨hok, -⟩
      · -- there is no reason to refuse that a version is recorded
        have hrecorded : Event.recorded? (.write w) = none := by
          cases hrefuses <;> rfl
        rw [herror, hrecorded]
        simp [Except.toOption]
      · rw [hok]
        show t ∈ (s.rows.after w).changes ↔ _
        rw [Store.mem_changes_after]
        cases w <;> simp [Event.recorded?]
  | _ => simp [step, Event.recorded?]

/-- **A store forgets no time of a change**, in whatever order they are recorded. -/
theorem mem_changes_run (events : List Event) : ∀ (s : Installation) (t : GpsTime),
    t ∈ (s.run events).rows.changes ↔ t ∈ s.rows.changes ∨ t ∈ recorded events := by
  induction events with
  | nil => simp [run, recorded]
  | cons e rest ih =>
      intro s t
      have hrun : s.run (e :: rest) = (s.step e).run rest := rfl
      rw [hrun, ih, mem_changes_step, or_assoc, recorded, recorded]
      simp [List.mem_filterMap]

/-- The last change, if there was any, came at a certain time exactly if all of them did. -/
lemma forall_latestVersion_run {folder : Folder} {events : List Event} {s : Installation}
    (hrun : run ⟨.empty, folder⟩ events = s) (modified builtFor instant : GpsTime) :
    (∀ last, s.rows.latestVersion = some last →
        last.updated ≤ modified ∧ last.updated ≤ builtFor ∧ last.updated < instant) ↔
      ∀ t ∈ recorded events, t ≤ modified ∧ t ≤ builtFor ∧ t < instant := by
  have hearlier : ∀ t t' : GpsTime, t' ≤ t → t ≤ modified ∧ t ≤ builtFor ∧ t < instant →
      t' ≤ modified ∧ t' ≤ builtFor ∧ t' < instant := by
    intro t t' hle h
    simp only [GpsTime.le_def, GpsTime.lt_def] at hle h ⊢
    omega
  have hchanges : ∀ t, t ∈ s.rows.changes ↔ t ∈ recorded events := by
    intro t
    rw [← hrun, mem_changes_run]
    simp [Store.changes, Store.empty]
  rw [s.rows.forall_latestVersion_iff hearlier]
  simp only [hchanges]

/-- **When a cache answers.**  Take a store that started without records, after any writes, rebuilds
of caches and other changes of the files, and a service on it whose reads may fail.  A query that
may use the cache is answered from it exactly if the file can be read as a cache of the current
format, the cache covers all names and has the hookup type of the query, the version of the store
can be read, and every change that was ever recorded came before the instant of the query, and no
later than the cache and its file.  The answer is then what the cache selects.  In all other cases
the outcome, whether answer or error, is that of the same query without the cache. -/
theorem cache_answers_iff {folder : Folder} {events : List Event} {s : Installation}
    (hrun : run ⟨.empty, folder⟩ events = s) (service : Service)
    (hsource : ∀ version, service.source.latestVersion = .ok version →
      version = s.rows.latestVersion)
    (request : Request) (huse : request.useCache = true) (previous : Option QueryContext) :
    (∀ dossier, service.resolve s.folder request previous = .ok ⟨dossier, none⟩ ↔
      ∃ cache modified,
        HookupCache.read s.folder service.settings.path = .ok cache ∧
        cache.formatVersion = cacheFormatVersion ∧
        s.folder.modified service.settings.path = .ok modified ∧
        cache.covers request.names = true ∧ cache.hookupType = request.hookupType ∧
        (∃ version, service.source.latestVersion = .ok version) ∧
        (∀ t ∈ recorded events, t ≤ modified ∧ t ≤ cache.builtFor ∧ t < request.instant) ∧
        dossier = cache.select request.names request.exact request.pol) ∧
    ((∀ dossier, service.resolve s.folder request previous ≠ .ok ⟨dossier, none⟩) →
      service.resolve s.folder request previous =
        service.resolve s.folder { request with useCache := false } previous) := by
  constructor
  · intro dossier
    rw [Service.resolve_eq_ok_iff huse, Service.cachedAnswer?_eq_some_iff]
    constructor
    · rintro ⟨cache, version, modified, hread, hcovers, hversion, hmodified, hfresh, rfl⟩
      obtain ⟨htype, hlast⟩ := HookupCache.staleness?_eq_none_iff.1 hfresh
      rw [hsource version hversion, forall_latestVersion_run hrun] at hlast
      exact ⟨cache, modified, hread, HookupCache.formatVersion_of_read hread, hmodified, hcovers,
        htype, ⟨version, hversion⟩, hlast, rfl⟩
    · rintro ⟨cache, modified, hread, -, hmodified, hcovers, htype, ⟨version, hversion⟩, hlast, rfl⟩
      rw [← forall_latestVersion_run hrun, ← hsource version hversion] at hlast
      exact ⟨cache, version, modified, hread, hcovers, hversion, hmodified,
        HookupCache.staleness?_eq_none_iff.2 ⟨htype, hlast⟩, rfl⟩
  · intro hfresh
    rw [Service.resolve_withoutCache]
    refine Service.resolve_of_cachedAnswer?_eq_none huse (Option.eq_none_iff_forall_ne_some.2 ?_) _
    exact fun dossier hcached => hfresh dossier ((Service.resolve_eq_ok_iff huse _).2 hcached)

/-- A service on a store, with the standard topologies and settings. -/
def service (rows : Store) : Service := ⟨rows.source, .hera, .standard⟩

/-- A station is entered, and changes are recorded. -/
def history (versions : List StoreVersion) : List Event :=
  .write (.addPart ⟨"hh1", "a", "station", none, default⟩) ::
    versions.map fun version => .write (.recordVersion version)

/-- The store after these changes. -/
def changed (versions : List StoreVersion) : Store := (run ⟨.empty, .empty⟩ (history versions)).rows

/-- That a cache is made of that store, as of second 200. -/
def rebuild (versions : List StoreVersion) : Event :=
  .rebuild (service (changed versions)) ⟨1000000000, 0⟩ ⟨200⟩ "all stations"

/-- A query for the station that may use the cache. -/
def query (instant : GpsTime) : Request := ⟨["hh1"], true, .all, instant, none, true, false⟩

/-- What a rebuild that succeeds has left, which is known without evaluating the text of the cache
or the time of its file. -/
lemma exists_cached {rows : Store} {now : CivilTime} {instant : GpsTime} {message : String}
    (h : ((service rows).writeCache .empty now instant message).2.isOk = true) :
    ∃ cache, (service rows).buildCache instant = .ok cache ∧
      HookupCache.read ((service rows).writeCache .empty now instant message).1
        "hookup_cache.json" = .ok cache ∧
      ((service rows).writeCache .empty now instant message).1.modified "hookup_cache.json" =
        .ok (.ofCivil now) ∧
      cache.formatVersion = cacheFormatVersion ∧ cache.builtFor = instant ∧
      cache.hookupType = none ∧ cache.covers ["hh1"] = true := by
  have hplaces : Place.ofPath "hookup_cache.json" ≠ Place.ofPath "hookup_cache.log" := by
    decide +kernel
  have hstation : ["HH", "HA", "HB"].any (fun station =>
      Text.beginsWith (canonicalName "hh1") (canonicalName station)) = true := by
    decide +kernel
  obtain ⟨record, hrecord⟩ := Outcome.exists_of_isOk h
  obtain ⟨cache, hbuild, hread, hmodified⟩ :=
    Service.read_of_writeCache hplaces (Prod.ext rfl hrecord)
  obtain ⟨hversion, hbuilt, htype, hstations⟩ := Service.fields_of_buildCache hbuild
  refine ⟨cache, hbuild, hread, hmodified, hversion, hbuilt, htype, ?_⟩
  rw [HookupCache.covers, hstations, List.all_cons, List.all_nil, Bool.and_true]
  exact hstation

/-- No instant comes before the first one that there is. -/
lemma first_le (t : GpsTime) : (⟨Int64.minValue⟩ : GpsTime) ≤ t := Int64.minValue_le_toInt t.seconds

/-- Two changes, of which the later one was recorded first. -/
def disordered : List StoreVersion := [⟨⟨100⟩, none⟩, ⟨⟨50⟩, some "a1"⟩]

/-- A change that came before any file could be written. -/
def ancient : List StoreVersion := [⟨⟨Int64.minValue⟩, none⟩]

/-- After changes until second 100 the cache answers for second 101 unless its file counts as older
than the last one, and does not answer for second 100.  After a change at the first instant that
there is it does answer, with the entry of the station. -/
theorem cache_answers_iff_station :
    ((∃ dossier, (service (changed disordered)).resolve
        (run ⟨.empty, .empty⟩ (history disordered ++ [rebuild disordered])).folder
        (query ⟨101⟩) none = .ok ⟨dossier, none⟩) ↔
      (⟨100⟩ : GpsTime) ≤ .ofCivil ⟨1000000000, 0⟩) ∧
    (service (changed disordered)).resolve
        (run ⟨.empty, .empty⟩ (history disordered ++ [rebuild disordered])).folder
        (query ⟨100⟩) none =
      (service (changed disordered)).resolve
        (run ⟨.empty, .empty⟩ (history disordered ++ [rebuild disordered])).folder
        { query ⟨100⟩ with useCache := false } none ∧
    ∃ dossier, (service (changed ancient)).resolve
        (run ⟨.empty, .empty⟩ (history ancient ++ [rebuild ancient])).folder
        (query ⟨101⟩) none = .ok ⟨dossier, none⟩ ∧ dossier.keys = ["HH1:A"] := by
  have hrun : ∀ versions, (run ⟨.empty, .empty⟩ (history versions)).folder = .empty →
      run ⟨.empty, .empty⟩ (history versions ++ [rebuild versions]) = ⟨changed versions,
        ((service (changed versions)).writeCache .empty ⟨1000000000, 0⟩ ⟨200⟩
          "all stations").1⟩ := by
    intro versions hfolder
    rw [run, List.foldl_append, List.foldl_cons, List.foldl_nil, rebuild, step, ← run, hfolder,
      changed]
  have hrecorded : recorded (history disordered ++ [rebuild disordered]) = [⟨100⟩, ⟨50⟩] := rfl
  have hsource : ∀ rows version, (service rows).source.latestVersion = .ok version →
      version = rows.latestVersion := fun _ _ h => (Except.ok.inj h).symm
  refine ⟨?_, ?_, ?_⟩
  · rw [hrun disordered rfl]
    have hwrite : ((service (changed disordered)).writeCache .empty ⟨1000000000, 0⟩ ⟨200⟩
        "all stations").2.isOk = true := by
      decide +kernel
    obtain ⟨cache, -, hread, hmodified, hversion, hbuilt, htype, hcovers⟩ := exists_cached hwrite
    obtain ⟨hanswers, -⟩ := cache_answers_iff (hrun disordered rfl) (service (changed disordered))
      (hsource _) (query ⟨101⟩) rfl none
    constructor
    · rintro ⟨dossier, hdossier⟩
      obtain ⟨_, modified, -, -, hmodified', -, -, -, htimes, -⟩ := (hanswers dossier).1 hdossier
      obtain rfl := Except.ok.inj (hmodified.symm.trans hmodified')
      exact (htimes ⟨100⟩ (hrecorded ▸ List.mem_cons_self)).1
    · intro hfile
      refine ⟨_, (hanswers _).2 ⟨cache, _, hread, hversion, hmodified, hcovers, htype, ⟨_, rfl⟩,
        fun t ht => ?_, rfl⟩⟩
      have hle : t ≤ ⟨100⟩ := by
        rw [hrecorded] at ht
        rcases List.mem_pair.1 ht with rfl | rfl <;> decide
      rw [hbuilt]
      exact ⟨Int.le_trans hle hfile, Int.le_trans hle (by decide),
        Int.lt_of_le_of_lt hle (by decide)⟩
  · obtain ⟨hanswers, hfresh⟩ := cache_answers_iff (hrun disordered rfl)
      (service (changed disordered)) (hsource _) (query ⟨100⟩) rfl none
    rw [hrun disordered rfl]
    refine hfresh fun dossier hdossier => ?_
    obtain ⟨_, _, -, -, -, -, -, -, htimes, -⟩ := (hanswers dossier).1 hdossier
    exact absurd (htimes ⟨100⟩ (hrecorded ▸ List.mem_cons_self)).2.2 (by decide)
  · have hwrite : ((service (changed ancient)).writeCache .empty ⟨1000000000, 0⟩ ⟨200⟩
        "all stations").2.isOk = true := by
      decide +kernel
    have hselect : ((service (changed ancient)).buildCache ⟨200⟩).toOption.any (fun cache =>
        (cache.select ["hh1"] true .all).keys == ["HH1:A"]) = true := by
      decide +kernel
    obtain ⟨cache, hbuild, hread, hmodified, hversion, hbuilt, htype, hcovers⟩ :=
      exists_cached hwrite
    obtain ⟨built, hbuild', hkeys⟩ := Outcome.exists_of_any hselect
    obtain rfl : cache = built := Except.ok.inj (hbuild.symm.trans hbuild')
    obtain ⟨hanswers, -⟩ := cache_answers_iff (hrun ancient rfl) (service (changed ancient))
      (hsource _) (query ⟨101⟩) rfl none
    rw [hrun ancient rfl]
    refine ⟨_, (hanswers _).2 ⟨cache, _, hread, hversion, hmodified, hcovers, htype, ⟨_, rfl⟩,
      fun t ht => ?_, rfl⟩, beq_iff_eq.1 hkeys⟩
    have hfirst : t = ⟨Int64.minValue⟩ := List.mem_singleton.1 ht
    rw [hfirst]
    exact ⟨first_le _, first_le _, by decide⟩

end Installation

end Hookup
