import Hookup.Cache.AuditLog
import Hookup.Overlap
import Hookup.Resolver

/-!
# The hookup service

What operators and scripts call: queries, which may be answered from a cache, rebuilding that cache,
asking for its state, and the check of the whole history for overlaps.

A query falls back on a fresh resolution whenever its cache is missing, unreadable or stale or does
not cover a name, and so never fails because of the cache (`Service.resolve`).  A rebuild writes
nothing before every part is resolved (`Service.writeCache`).
-/

namespace Hookup

/-- Where the cache is kept and what is resolved into it. -/
structure CacheSettings where
  path : String
  auditPath : String
  /-- What the part numbers of the cached stations begin with. -/
  stations : List String
  hookupType : Option String
deriving DecidableEq

/-- The settings that hold unless others are given. -/
def CacheSettings.standard : CacheSettings :=
  ⟨"hookup_cache.json", "hookup_cache.log", ["HH", "HA", "HB"], none⟩

/-- A query for hookups. -/
structure Request where
  names : List String
  exact : Bool
  pol : PolSelection
  instant : GpsTime
  hookupType : Option String
  useCache : Bool
  strict : Bool
deriving DecidableEq

/-- The answer to a query. -/
structure Resolved where
  dossier : Dossier
  /-- The context of a fresh resolution; none when the cache answered. -/
  context : Option QueryContext

/-- The state of the cache. -/
inductive CacheStatus where
  | missing
  | unreadable (reason : String)
  | loaded (builtFor : GpsTime) (hookupType : Option String) (stations : List String)
      (entries : Nat) (stale : Option Staleness)

/-- The overlaps in the history of a store. -/
structure OverlapReport where
  parts : List PartOverlap
  connections : List PortOverlap
deriving DecidableEq

/-- Whether there are no overlaps. -/
def OverlapReport.isClean (r : OverlapReport) : Bool := r.parts.isEmpty && r.connections.isEmpty

/-- Records to resolve against, the topologies, and the settings of the cache. -/
structure Service where
  source : RecordSource
  catalogue : Catalogue
  settings : CacheSettings

namespace Service

/-! ## Queries -/

/-- The resolver for an active set. -/
def resolver (s : Service) (active : ActiveSet) (strict : Bool) : Resolver :=
  ⟨s.catalogue, active, strict⟩

/-- The answer of the cache, if it may answer. -/
def cachedAnswer? (s : Service) (folder : Folder) (request : Request) : Option Dossier := do
  let cache ← (HookupCache.read folder s.settings.path).toOption
  guard (cache.covers request.names)
  let version ← s.source.latestVersion.toOption
  let modified ← (folder.modified s.settings.path).toOption
  guard (cache.staleness? request.instant request.hookupType version modified).isNone
  pure (cache.select request.names request.exact request.pol)

/-- The answer of a fresh resolution, with the active set of an earlier context if that serves. -/
def resolveFresh (s : Service) (request : Request) (previous : Option QueryContext) :
    Except Error Resolved := do
  let context ← QueryContext.prepare s.source request.instant previous
  let dossier ← (s.resolver context.active request.strict).resolveNames request.names
    request.exact request.pol request.hookupType
  pure ⟨dossier, some context⟩

/-- Answer a query: from the cache if that is asked for and possible, else freshly. -/
def resolve (s : Service) (folder : Folder) (request : Request)
    (previous : Option QueryContext) : Except Error Resolved :=
  match if request.useCache then s.cachedAnswer? folder request else none with
  | some dossier => pure ⟨dossier, none⟩
  | none => s.resolveFresh request previous

/-! ## The cache -/

/-- The cache as of an instant, resolved but not written. -/
def buildCache (s : Service) (instant : GpsTime) : Except Error HookupCache := do
  let context ← QueryContext.prepare s.source instant none
  let dossier ← (s.resolver context.active false).resolveNames s.settings.stations false .all
    s.settings.hookupType
  pure {
    formatVersion := cacheFormatVersion
    builtFor := instant
    hookupType := s.settings.hookupType
    stations := s.settings.stations
    entries := dossier
    partTypes := .ofList (context.active.parts.values.map fun part => (part.hpn, part.partType)) }

/-- Write a cache and record it in the log.  The folder that results comes with the outcome, since
the cache stays when the log cannot be written, and so do the folders that were made for either. -/
def storeCache (s : Service) (folder : Folder) (now : CivilTime) (cache : HookupCache)
    (message : String) : Folder × Except Error AuditRecord :=
  match cache.write folder s.settings.path now with
  | .error e => ((folder.makeRoom s.settings.path now).1, throw e)
  | .ok written =>
    let record := AuditRecord.ofCache cache now message
    match record.append written s.settings.auditPath now with
    | .error e => ((written.makeRoom s.settings.auditPath now).1, throw e)
    | .ok logged => (logged, pure record)

/-- Rebuild the cache as of an instant. -/
def writeCache (s : Service) (folder : Folder) (now : CivilTime) (instant : GpsTime)
    (message : String) : Folder × Except Error AuditRecord :=
  match s.buildCache instant with
  | .error e => (folder, throw e)
  | .ok cache => s.storeCache folder now cache message

/-- The state of the cache, for queries at an instant. -/
def cacheStatus (s : Service) (folder : Folder) (instant : GpsTime) :
    Except Error CacheStatus := do
  if !folder.holds s.settings.path then return .missing
  match HookupCache.read folder s.settings.path with
  | .error e => return .unreadable e.message
  | .ok cache =>
    let version ← fromStore s.source.latestVersion
    let modified ← folder.modified s.settings.path
    return .loaded cache.builtFor cache.hookupType cache.stations cache.entries.size
      (cache.staleness? instant s.settings.hookupType version modified)

/-! ## The check -/

/-- The overlaps in the whole history. -/
def check (s : Service) : Except Error OverlapReport := do
  let parts ← fromStore s.source.listParts
  let connections ← fromStore s.source.listConnections
  pure ⟨overlappingParts parts, overlappingConnections connections⟩

end Service

end Hookup
