import Hookup.Proofs.AuditLog
import Hookup.Proofs.CacheUse

/-!
# What rebuilds leave behind

A rebuild resolves everything before it writes, so one that fails leaves the cache and the log as
they are, and one that succeeds replaces the cache and adds a line to the log.

* `Service.outcome_of_writeCache` — if the files can be written, it is for the build alone whether
  a rebuild succeeds.
* `Service.left_of_storeCache_error` — if they cannot, all that may be new are folders, and the cache
  if only the log was in the way.
* `Installation.Kept` — that the files are those of the rebuilds that have succeeded so far: the
  last cache, and the log of all records.  `Kept.step` and `Kept.run` keep it up.
* **`Installation.rebuilds_keep_files`** — over whole runs, a rebuild that fails changes no file,
  the cache file holds the last cache that was built, and the log has a line for every rebuild that
  succeeded, in order, from which its record is read back.
-/

namespace Hookup

/-! ## One rebuild -/

namespace Service

variable {s : Service} {folder : Folder} {now : CivilTime} {instant : GpsTime} {message : String}
  {cache : HookupCache}

/-- What is to be recorded about a rebuild: what was asked for, and how many entries it gave. -/
def recordOf (s : Service) (now : CivilTime) (instant : GpsTime) (message : String)
    (cache : HookupCache) : AuditRecord where
  recorded := now
  builtFor := instant
  hookupType := s.settings.hookupType
  stations := s.settings.stations
  entries := .ofNat cache.entries.size
  message

lemma ofCache_eq_recordOf (h : s.buildCache instant = .ok cache) :
    AuditRecord.ofCache cache now message = s.recordOf now instant message cache := by
  obtain ⟨-, hbuilt, htype, hstations⟩ := fields_of_buildCache h
  rw [AuditRecord.ofCache, recordOf, hbuilt, htype, hstations]

/-- A rebuild that can write its files succeeds exactly if the cache can be built, and then gives
its record. -/
lemma outcome_of_writeCache
    (h : ∀ cache, s.buildCache instant = .ok cache →
      (s.storeCache folder now cache message).2.isOk = true) :
    (s.writeCache folder now instant message).2 =
      (s.buildCache instant).map (s.recordOf now instant message) := by
  cases hbuild : s.buildCache instant with
  | error error =>
      rw [writeCache_of_error hbuild]
      rfl
  | ok cache =>
      obtain ⟨record, hrecord⟩ := Outcome.exists_of_isOk (h cache hbuild)
      obtain ⟨-, -, hrecorded, -⟩ := storeCache_eq_ok.1 (Prod.ext rfl hrecord)
      rw [writeCache_of_ok hbuild, hrecord, hrecorded, ofCache_eq_recordOf hbuild]
      rfl

/-- **What a rebuild leaves behind that cannot write its files**: if it is the cache that cannot be
written, no more than new folders; if it is the log, the new cache and such folders. -/
theorem left_of_storeCache_error {written : Folder} {error : Error}
    (h : s.storeCache folder now cache message = (written, .error error)) :
    (folder.Extends written ∧ ∀ p, folder.Vacant p → written.Vacant p) ∨
      ∃ first, cache.write folder s.settings.path now = .ok first ∧
        (first.Extends written ∧ ∀ p, first.Vacant p → written.Vacant p) ∧
        written.file? s.settings.path = some ⟨.text cache.text, now⟩ := by
  rw [storeCache] at h
  split at h
  · cases h
    exact .inl ⟨folder.extends_makeRoom _ _, fun p hp => hp.makeRoom _ _⟩
  · next first hfirst =>
      simp only at h
      split at h
      · cases h
        have hextends := first.extends_makeRoom s.settings.auditPath now
        exact .inr ⟨first, hfirst, ⟨hextends, fun p hp => hp.makeRoom _ _⟩,
          hextends.file? (Folder.file?_of_writeText hfirst)⟩
      · cases h

end Service

namespace Installation

/-! ## Runs of rebuilds -/

/-- Whether an event leaves the files alone, or rebuilds the cache at a path with its log at another
one, at a time of the calendar. -/
def Event.KeepsTo (path auditPath : String) : Event → Prop
  | .write _ => True
  | .rebuild service now _ _ =>
    service.settings.path = path ∧ service.settings.auditPath = auditPath ∧ now.IsValid
  | .replace _ => False

instance (path auditPath : String) (e : Event) : Decidable (e.KeepsTo path auditPath) :=
  match e with
  | .write _ => inferInstanceAs (Decidable True)
  | .rebuild service now _ _ => inferInstanceAs (Decidable (service.settings.path = path ∧
      service.settings.auditPath = auditPath ∧ now.IsValid))
  | .replace _ => inferInstanceAs (Decidable False)

/-- What a rebuild stores, if it can build its cache: the cache, and the record of it. -/
def Event.built? : Event → Option (HookupCache × AuditRecord)
  | .rebuild service now instant message =>
    (service.buildCache instant).toOption.map fun cache =>
      (cache, service.recordOf now instant message cache)
  | _ => none

/-- What the rebuilds of a run store, one after the other. -/
def built (events : List Event) : List (HookupCache × AuditRecord) :=
  events.filterMap Event.built?

/-- Whether an event can write its files, if it is a rebuild that has something to store. -/
def canWrite (s : Installation) : Event → Bool
  | .rebuild service now instant message =>
    (service.buildCache instant).toOption.all fun cache =>
      (service.storeCache s.folder now cache message).2.isOk
  | _ => true

def canWriteAll (s : Installation) : List Event → Bool
  | [] => true
  | e :: rest => s.canWrite e && (s.step e).canWriteAll rest

lemma run_append (s : Installation) (events later : List Event) :
    s.run (events ++ later) = (s.run events).run later :=
  List.foldl_append

lemma canWriteAll_append {s : Installation} {later : List Event} : ∀ {events : List Event},
    s.canWriteAll (events ++ later) = true ↔
      s.canWriteAll events = true ∧ (s.run events).canWriteAll later = true := by
  intro events
  induction events generalizing s with
  | nil => simp [canWriteAll, run]
  | cons e rest ih =>
      have hrun : s.run (e :: rest) = (s.step e).run rest := rfl
      rw [List.cons_append, canWriteAll, canWriteAll, Bool.and_eq_true, Bool.and_eq_true, ih, hrun,
        and_assoc]

/-- Whether the files at two paths are what some rebuilds have left: nothing if there were none,
else the last cache and the log of all records. -/
structure Kept (path auditPath : String) (folder : Folder)
    (done : List (HookupCache × AuditRecord)) : Prop where
  new : done = [] → folder = .empty
  cache : ∀ last ∈ done.getLast?, ∃ time, folder.file? path = some ⟨.text last.1.text, time⟩
  log : done ≠ [] → ∃ time,
    folder.file? auditPath = some ⟨.text (AuditRecord.log (done.map (·.2))), time⟩

namespace Kept

variable {path auditPath : String} {folder written : Folder}
  {done : List (HookupCache × AuditRecord)} {service : Service} {now : CivilTime}
  {cache : HookupCache} {message : String} {record : AuditRecord}

lemma empty (path auditPath : String) : Kept path auditPath .empty [] :=
  ⟨fun _ => rfl, fun _ h => (nomatch h), fun h => absurd rfl h⟩

/-- **A cache that is stored takes the place of the last one, and its record comes after the
others.** -/
lemma storeCache (hplaces : Place.ofPath path ≠ Place.ofPath auditPath)
    (h : Kept path auditPath folder done) (hpath : service.settings.path = path)
    (hauditPath : service.settings.auditPath = auditPath)
    (hstore : service.storeCache folder now cache message = (written, .ok record)) :
    Kept path auditPath written (done ++ [(cache, record)]) := by
  subst hpath hauditPath
  obtain ⟨first, hfirst, -, hlogged⟩ := Service.storeCache_eq_ok.1 hstore
  refine ⟨fun hnil => ?_, fun last hlast => ⟨now, ?_⟩, fun _ => ⟨now, ?_⟩⟩
  · simp at hnil
  · rw [List.getLast?_concat, Option.mem_some_iff] at hlast
    rw [← hlast]
    exact Service.file?_of_storeCache hplaces hstore
  · rw [List.map_append, List.map_singleton, AuditRecord.log_concat]
    by_cases hdone : done = []
    · -- the first line goes into a new file
      have hwrite : Folder.empty.write service.settings.path now (fun _ => .text cache.text) =
          .ok first := h.new hdone ▸ hfirst
      have hvacant : first.Vacant (Place.ofPath service.settings.auditPath) :=
        (Folder.vacant_empty _).of_write_of_ne hwrite (Ne.symm hplaces)
      rw [Folder.file?_of_appendText_of_vacant hvacant hlogged, hdone]
      simp [AuditRecord.log]
    · obtain ⟨time, hlog⟩ := h.log hdone
      exact Folder.file?_of_appendText (Folder.file?_of_write_of_ne (Folder.text_ne_folder _)
        hfirst (Ne.symm hplaces) hlog) hlogged

/-- **What one event does to the files**: nothing, unless it is a rebuild that has something to
store. -/
lemma step {s : Installation} {e : Event} (hplaces : Place.ofPath path ≠ Place.ofPath auditPath)
    (h : Kept path auditPath s.folder done) (he : e.KeepsTo path auditPath)
    (hwrite : s.canWrite e = true) :
    Kept path auditPath (s.step e).folder (done ++ e.built?.toList) := by
  cases e with
  | write w =>
      show Kept path auditPath s.folder (done ++ [])
      rw [List.append_nil]
      exact h
  | replace folder => cases he
  | rebuild service now instant message =>
      obtain ⟨hpath, hauditPath, -⟩ := he
      rw [Installation.step, Event.built?]
      cases hbuild : service.buildCache instant with
      | error error =>
          rw [Service.writeCache_of_error hbuild]
          simpa [Except.toOption] using h
      | ok cache =>
          rw [canWrite, hbuild] at hwrite
          obtain ⟨record, hrecord⟩ := Outcome.exists_of_isOk hwrite
          have hstore : service.storeCache s.folder now cache message =
              ((service.storeCache s.folder now cache message).1, .ok record) :=
            Prod.ext rfl hrecord
          obtain ⟨-, -, hrecorded, -⟩ := Service.storeCache_eq_ok.1 hstore
          rw [Service.writeCache_of_ok hbuild]
          rw [Service.ofCache_eq_recordOf hbuild] at hrecorded
          show Kept path auditPath (service.storeCache s.folder now cache message).1
            (done ++ [(cache, service.recordOf now instant message cache)])
          rw [← hrecorded]
          exact h.storeCache hplaces hpath hauditPath hstore

/-- **What a run does to the files**, by induction on the events. -/
lemma run (hplaces : Place.ofPath path ≠ Place.ofPath auditPath) {events : List Event} :
    ∀ {s : Installation} {done : List (HookupCache × AuditRecord)},
      Kept path auditPath s.folder done → (∀ e ∈ events, e.KeepsTo path auditPath) →
      s.canWriteAll events = true →
      Kept path auditPath (s.run events).folder (done ++ built events) := by
  induction events with
  | nil =>
      intro s done h _ _
      simpa [built, Installation.run] using h
  | cons e rest ih =>
      intro s done h hevents hwrites
      obtain ⟨he, hrest⟩ := List.forall_mem_cons.1 hevents
      rw [canWriteAll, Bool.and_eq_true] at hwrites
      have hfinal := ih (h.step hplaces he hwrites.1) hrest hwrites.2
      have hbuilt : built (e :: rest) = e.built?.toList ++ built rest := by
        rw [built, built, List.filterMap_cons]
        cases e.built? <;> rfl
      rw [hbuilt, ← List.append_assoc]
      exact hfinal

end Kept

/-! ## The files after a run -/

lemma canWrite_rebuild {s : Installation} {service : Service} {now : CivilTime} {instant : GpsTime}
    {message : String} (h : s.canWrite (.rebuild service now instant message) = true) :
    (service.writeCache s.folder now instant message).2 =
      (service.buildCache instant).map (service.recordOf now instant message) := by
  refine Service.outcome_of_writeCache fun cache hbuild => ?_
  rw [canWrite, hbuild] at h
  exact h

lemma folder_step_of_error {s : Installation} {service : Service} {now : CivilTime}
    {instant : GpsTime} {message : String} {error : Error}
    (h : service.buildCache instant = .error error) :
    (s.step (.rebuild service now instant message)).folder = s.folder := by
  rw [step, Service.writeCache_of_error h]

lemma formatVersion_of_built? {e : Event} {stored : HookupCache × AuditRecord}
    (h : e.built? = some stored) : stored.1.formatVersion = cacheFormatVersion := by
  cases e with
  | rebuild service now instant message =>
      obtain ⟨cache, hcache, rfl⟩ := Option.map_eq_some_iff.1 h
      exact (Service.fields_of_buildCache (Outcome.toOption_eq_some_iff.1 hcache)).1
  | _ => cases h

/-- The log of a run is cut into lines, from each of which its record is read back. -/
lemma exists_lines {path auditPath : String} {events : List Event}
    (hevents : ∀ e ∈ events, e.KeepsTo path auditPath) : ∃ lines,
    Text.pieces '\n' (AuditRecord.log ((built events).map (·.2))) = lines ++ [""] ∧
      List.Forall₂ (fun line call => (Json.parse? line).bind AuditRecord.ofJson? = some call.2)
        lines (built events) := by
  refine ⟨_, AuditRecord.pieces_log _, ?_⟩
  rw [List.map_map, List.forall₂_map_left_iff, List.forall₂_same]
  intro call hcall
  obtain ⟨e, he, hbuilt⟩ := List.mem_filterMap.1 hcall
  cases e with
  | rebuild service now instant message =>
      obtain ⟨cache, -, rfl⟩ := Option.map_eq_some_iff.1 hbuilt
      exact AuditRecord.read_compact (hevents _ he).2.2
  | _ => cases hbuilt

/-- **A rebuild that fails leaves the cache and its log intact.**  Start without files, and take any
writes to the store and any rebuilds of a cache at one path with its log at another, by services
whose reads and resolutions may fail in whatever way.  If the files can be written whenever there is
something to store, then a rebuild succeeds exactly if its cache can be built, and gives the record
of what was asked for with the number of entries; one that fails changes no file.  Afterwards there
are no files if no rebuild has succeeded.  Else the last cache that was built is read from the one
path, and the text at the other one is cut into a line for each rebuild that has succeeded, in
order, from which its record is read back. -/
theorem rebuilds_keep_files {path auditPath : String}
    (hplaces : Place.ofPath path ≠ Place.ofPath auditPath) {events : List Event}
    (hevents : ∀ e ∈ events, e.KeepsTo path auditPath)
    (hwrites : canWriteAll ⟨.empty, .empty⟩ events = true) :
    (∀ before service now instant message after,
      events = before ++ .rebuild service now instant message :: after →
      (service.writeCache (run ⟨.empty, .empty⟩ before).folder now instant message).2 =
        (service.buildCache instant).map (service.recordOf now instant message) ∧
      ∀ error, (service.writeCache (run ⟨.empty, .empty⟩ before).folder now instant message).2 =
          .error error →
        (run ⟨.empty, .empty⟩ (before ++ [.rebuild service now instant message])).folder =
          (run ⟨.empty, .empty⟩ before).folder) ∧
    (built events = [] → (run ⟨.empty, .empty⟩ events).folder = .empty) ∧
    ∀ last ∈ (built events).getLast?,
      HookupCache.read (run ⟨.empty, .empty⟩ events).folder path = .ok last.1 ∧
      ∃ log lines, (run ⟨.empty, .empty⟩ events).folder.readText auditPath = .ok log ∧
        Text.pieces '\n' log = lines ++ [""] ∧
        List.Forall₂ (fun line call => (Json.parse? line).bind AuditRecord.ofJson? = some call.2)
          lines (built events) := by
  have hkept : Kept path auditPath (run ⟨.empty, .empty⟩ events).folder (built events) :=
    (Kept.empty path auditPath).run hplaces hevents hwrites
  refine ⟨?_, hkept.new, ?_⟩
  · rintro before service now instant message after rfl
    rw [canWriteAll_append, canWriteAll, Bool.and_eq_true] at hwrites
    have houtcome := canWrite_rebuild hwrites.2.1
    refine ⟨houtcome, fun error herror => ?_⟩
    -- it cannot be for the files that it has failed
    rw [houtcome] at herror
    have hbuild : service.buildCache instant = .error error := Outcome.map_eq_error.1 herror
    rw [run_append]
    exact folder_step_of_error hbuild
  · intro last hlast
    obtain ⟨e, -, hbuilt⟩ := List.mem_filterMap.1 (List.mem_of_getLast? hlast)
    obtain ⟨time, hcache⟩ := hkept.cache last hlast
    obtain ⟨time', hlog⟩ := hkept.log fun hnil => by simp [hnil] at hlast
    obtain ⟨lines, hlines, hrecords⟩ := exists_lines hevents
    refine ⟨?_, _, lines, ?_, hlines, hrecords⟩
    · rw [HookupCache.read_of_file? hcache, HookupCache.ofText_text,
        if_pos (formatVersion_of_built? hbuilt)]
      rfl
    · rw [Folder.readText, hlog]
      rfl

/-- A service for a hookup type that no topology has. -/
def unknownType : Service :=
  { service (changed disordered) with settings := { CacheSettings.standard with hookupType := some "none" } }

/-- A service that cannot read the parts of its store. -/
def unreadable : Service :=
  { service (changed disordered) with
    source := { (changed disordered).source with
      activeParts := fun _ => .error (.refused "read") } }

/-- Two rebuilds that succeed, with messages of several lines, and one that fails before each. -/
def rebuilds : List Event := history disordered ++ [
  .rebuild unknownType ⟨1000000000, 0⟩ ⟨200⟩ "",
  .rebuild (service (changed disordered)) ⟨1000000000, 0⟩ ⟨200⟩ "first\nrun",
  .rebuild unreadable ⟨1000000001, 0⟩ ⟨201⟩ "",
  .rebuild (service (changed disordered)) ⟨1000000001, 1⟩ ⟨201⟩ "\"second\"\x00\r\n"]

/-- The rebuilds that fail leave the files as they are, the cache of the last one is read back, and
so are both messages, from one line each. -/
theorem rebuilds_keep_files_station :
    (run ⟨.empty, .empty⟩ (rebuilds.take 4)).folder =
      (run ⟨.empty, .empty⟩ (rebuilds.take 3)).folder ∧
    (run ⟨.empty, .empty⟩ (rebuilds.take 6)).folder =
      (run ⟨.empty, .empty⟩ (rebuilds.take 5)).folder ∧
    ∃ cache log lines,
      HookupCache.read (run ⟨.empty, .empty⟩ rebuilds).folder "hookup_cache.json" = .ok cache ∧
      cache.builtFor = ⟨201⟩ ∧
      (run ⟨.empty, .empty⟩ rebuilds).folder.readText "hookup_cache.log" = .ok log ∧
      Text.pieces '\n' log = lines ++ [""] ∧
      lines.map (fun line => ((Json.parse? line).bind AuditRecord.ofJson?).map (·.message)) =
        [some "first\nrun", some "\"second\"\x00\r\n"] := by
  have hplaces : Place.ofPath "hookup_cache.json" ≠ Place.ofPath "hookup_cache.log" := by
    decide +kernel
  have hevents : ∀ e ∈ rebuilds, e.KeepsTo "hookup_cache.json" "hookup_cache.log" := by
    decide +kernel
  have hwrites : canWriteAll ⟨.empty, .empty⟩ rebuilds = true := by decide +kernel
  have hunknown : (unknownType.writeCache (run ⟨.empty, .empty⟩ (history disordered)).folder
      ⟨1000000000, 0⟩ ⟨200⟩ "").2.isOk = false := by
    decide +kernel
  have hunreadable : (unreadable.writeCache (run ⟨.empty, .empty⟩ (rebuilds.take 5)).folder
      ⟨1000000001, 0⟩ ⟨201⟩ "").2.isOk = false := by
    decide +kernel
  have hlast : (built rebuilds).getLast?.map (·.1.builtFor) = some ⟨201⟩ := by decide +kernel
  have hmessages : (built rebuilds).map (some ·.2.message) =
      [some "first\nrun", some "\"second\"\x00\r\n"] := by
    decide +kernel
  obtain ⟨error, herror⟩ := Outcome.exists_of_isOk_eq_false hunknown
  obtain ⟨error', herror'⟩ := Outcome.exists_of_isOk_eq_false hunreadable
  obtain ⟨last, hlast, hbuiltFor⟩ := Option.map_eq_some_iff.1 hlast
  obtain ⟨hfails, -, hkept⟩ := rebuilds_keep_files hplaces hevents hwrites
  obtain ⟨hread, log, lines, hlog, hpieces, hlines⟩ := hkept last hlast
  refine ⟨(hfails (history disordered) _ _ _ _ _ rfl).2 error herror,
    (hfails (rebuilds.take 5) _ _ _ _ _ rfl).2 error' herror', last.1, log, lines, hread,
    hbuiltFor, hlog, hpieces, ?_⟩
  rw [← hmessages, ← List.forall₂_eq_eq_eq, List.forall₂_map_left_iff, List.forall₂_map_right_iff]
  exact hlines.imp fun line call hline => by rw [hline, Option.map_some]

end Installation

end Hookup
