import Hookup.CommandLine
import Hookup.Report
import Hookup.Store.Address

/-!
# Running a command

A command is run on a folder, at an instant, and leaves a folder behind; what it prints and how it
ends is its `Outcome`.  Settings are loaded first, then the store is opened (and created if it is
not there), then the topologies are read and validated; each of these may end the command.

A command that changes the store or writes the cache puts them back into the folder.
-/

namespace Hookup

/-- How a command ends: what it has printed, and why it failed if it did. -/
structure Outcome where
  printed : String
  failure : Option Failure
deriving DecidableEq

namespace Outcome

/-- A success that printed a text. -/
def success (printed : String) : Outcome := ⟨printed, none⟩

/-- A failure that printed nothing. -/
def failed (failure : Failure) : Outcome := ⟨"", some failure⟩

/-- The exit code. -/
def code (o : Outcome) : UInt32 := if o.failure.isSome then 1 else 0

end Outcome

/-- An error of the domain as the reason for a failure. -/
def Failure.ofError (context : String) (e : Error) : Failure := ⟨context, [e.message]⟩

/-! ## Texts -/

/-- The civil time of an instant in brackets; nothing outside the calendar. -/
def civilMark (t : GpsTime) : String :=
  match t.toCivil? with
  | none => ""
  | some civil => " (" ++ civil.label ++ ")"

/-- The lines about a cache that could be read. -/
def loadedLines (path : String) (builtFor : GpsTime) (hookupType : Option String)
    (stations : List String) (entries : Nat) (stale : Option Staleness) : String :=
  path ++ ": " ++ toString entries ++ " entries built at GPS " ++ builtFor.text ++
    civilMark builtFor ++ "\n" ++
  "  stations:    " ++ ", ".intercalate stations ++ "\n" ++
  "  hookup type: " ++ hookupType.getD "any" ++ "\n" ++
  match stale with
  | some reason => "  stale:       " ++ reason.text ++ "\n"
  | none => "  current\n"

/-- The lines about the state of a cache. -/
def CacheStatus.lines (path : String) : CacheStatus → String
  | missing => path ++ ": no cache file\n"
  | unreadable reason => path ++ ": unreadable (" ++ reason ++ ")\n"
  | loaded builtFor hookupType stations entries stale =>
    loadedLines path builtFor hookupType stations entries stale

/-- The line about two records for one part number. -/
def PartOverlap.line (o : PartOverlap) : String :=
  "part " ++ o.hpn ++ " overlaps: rev " ++ o.first.rev ++ " from " ++ o.first.life.start.text ++
    " and rev " ++ o.second.rev ++ " from " ++ o.second.life.start.text ++ "\n"

/-- The line about two connections that hold one port. -/
def PortOverlap.line (o : PortOverlap) : String :=
  o.part.text ++ " port " ++ Text.quoted o.port ++ " (" ++ o.side.text ++ " side) held by " ++
    o.first.text ++ " and " ++ o.second.text ++ "\n"

/-- The lines about all overlaps. -/
def OverlapReport.lines (r : OverlapReport) : String :=
  String.join (r.parts.map PartOverlap.line) ++ String.join (r.connections.map PortOverlap.line)

/-- How many overlaps there are. -/
def OverlapReport.summary (r : OverlapReport) : String :=
  toString r.parts.length ++ " part and " ++ toString r.connections.length ++
    " port overlaps found"

/-- The line about a cache that has been written. -/
def AuditRecord.writtenLine (r : AuditRecord) (path : String) : String :=
  "wrote " ++ toString r.entries.toNat ++ " entries at GPS " ++ r.builtFor.text ++
    civilMark r.builtFor ++ " to " ++ path ++ "\n"

/-! ## Stores -/

/-- The store that a path names, and the folder with it. -/
def openStore (folder : Folder) (path : String) (now : CivilTime) :
    Except Failure (Folder × Store) :=
  match folder.openStore? path now with
  | some opened => pure opened
  | none => throw ⟨"failed to open store at " ++ Text.quoted path, []⟩

/-! ## Commands -/

/-- The query that is asked for. -/
def HookupQuery.request (query : HookupQuery) (present : GpsTime) : Request where
  names := query.names
  exact := query.exact
  pol := query.pol
  instant := query.date.resolve present
  hookupType := query.hookupType
  useCache := query.useCache
  strict := query.strict

/-- The answer to a query as it is printed. -/
def Resolved.print (resolved : Resolved) (json : Bool) : String :=
  if json then resolved.dossier.toJson.pretty ++ "\n"
  else dossierListing resolved.dossier (resolved.context.map (·.active))

namespace Service

/-- Answer a query. -/
def runHookup (s : Service) (folder : Folder) (present : GpsTime) (query : HookupQuery) :
    Outcome :=
  match s.resolve folder (query.request present) none with
  | .error e => .failed (.ofError "hookup resolution failed" e)
  | .ok resolved => .success (resolved.print query.json)

/-- Rebuild the cache. -/
def runWriteCache (s : Service) (folder : Folder) (now : CivilTime) (message : String) :
    Folder × Outcome :=
  match s.writeCache folder now (.ofCivil now) message with
  | (folder, .error e) => (folder, .failed (.ofError "failed to rebuild hookup cache" e))
  | (folder, .ok record) => (folder, .success (record.writtenLine s.settings.path))

/-- Tell the state of the cache. -/
def runCacheStatus (s : Service) (folder : Folder) (present : GpsTime) : Outcome :=
  match s.cacheStatus folder present with
  | .error e => .failed ⟨e.message, []⟩
  | .ok status => .success (status.lines s.settings.path)

/-- Check the history for overlaps, each of which is listed and fails the check. -/
def runCheck (s : Service) : Outcome :=
  match s.check with
  | .error e => .failed (.ofError "store check failed" e)
  | .ok report =>
    if report.isClean then .success "no overlaps found\n"
    else ⟨report.lines, some ⟨report.summary, []⟩⟩

end Service

/-- Run a command on a store that is open, under settings that are loaded. -/
def Command.run (command : Command) (settings : Settings) (catalogue : Catalogue) (store : Store)
    (folder : Folder) (now : CivilTime) : Folder × Outcome :=
  let service : Service := ⟨store.source, catalogue, settings.cache⟩
  let present := GpsTime.ofCivil now
  match command with
  | .hookup query => (folder, service.runHookup folder present query)
  | .writeCache message => service.runWriteCache folder now message
  | .cacheStatus => (folder, service.runCacheStatus folder present)
  | .check => (folder, service.runCheck)
  | .recordVersion gitHash =>
    (folder.saveStore settings.store now (store.recordVersion ⟨present, gitHash⟩), .success "")

/-- The validated topologies that the settings name. -/
def Settings.catalogue (s : Settings) (folder : Folder) : Except Failure Catalogue := do
  (← s.readCatalogue folder).validate.mapError (.ofError "invalid topology definition")

/-- Run a command with everything that comes before it. -/
def Invocation.run (invocation : Invocation) (environment : Environment) (folder : Folder)
    (now : CivilTime) : Folder × Outcome :=
  match Settings.load folder invocation.settings environment with
  | .error failure => (folder, .failed failure)
  | .ok settings =>
    match openStore folder settings.store now with
    | .error failure => (folder, .failed failure)
    | .ok (folder, store) =>
      match settings.catalogue folder with
      | .error failure => (folder, .failed failure)
      | .ok catalogue => invocation.command.run settings catalogue store folder now

end Hookup
