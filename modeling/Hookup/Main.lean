import Hookup.Json.Stores
import Hookup.Program
import Std.Time.DateTime.Timestamp

/-!
# The program

Gathers the words of the command line, the environment, the present and the files that the settings
name, runs the command on them, and writes back what it has changed.  Stores are kept as JSON files.
The time of the last record in the audit log serves as the time of the cache file.
-/

open Hookup

namespace Hookup.Main

/-- How the program is used. -/
def usage : String :=
  "usage: hera-cm [-c FILE] hookup NAMES... [--pol P] [--date D] [--exact] [--hookup-type T]\n" ++
  "                         [--use-cache] [--strict] [--json]\n" ++
  "       hera-cm [-c FILE] cache write [--message M]\n" ++
  "       hera-cm [-c FILE] cache status\n" ++
  "       hera-cm [-c FILE] check\n" ++
  "       hera-cm [-c FILE] version [--git-hash H]\n"

/-- The variables that are looked at. -/
def variableNames : List String :=
  ["HOME", "HERA_CM_STORE_PATH", "HERA_CM_SYSDEF_PATH", "HERA_CM_CACHE_PATH",
    "HERA_CM_CACHE_LOG_PATH", "HERA_CM_HOOKUP_LIST", "HERA_CM_HOOKUP_TYPE"]

/-- The variables that are set. -/
def environment : IO Environment :=
  variableNames.filterMapM fun name => do
    return (← IO.getEnv name).map (name, ·)

/-- The present. -/
def present : IO CivilTime := do
  let now ← Std.Time.Timestamp.now
  return ⟨now.toSecondsSinceUnixEpoch.val, (now.toNanosecondsSinceUnixEpoch.val % 1000000000).toNat⟩

/-- What a file contains, if it can be read. -/
def contentOf? (path : String) : IO (Option FileContent) := do
  try
    let bytes ← IO.FS.readBinFile path
    return some ((String.fromUTF8? bytes).elim .binary .text)
  catch _ =>
    return none

/-- Whether a path is a folder. -/
def isFolder (path : String) : IO Bool := do
  try
    discard (IO.FS.realPath (path ++ "/."))
    return true
  catch _ =>
    return false

/-- A folder with what is on the way to a path and at it. -/
def withPath (folder : Folder) (path : String) (modified : CivilTime) : IO Folder := do
  let mut folder := folder
  let names := Text.pieces '/' path
  for length in List.range names.length do
    let upper := "/".intercalate (names.take (length + 1))
    if ← isFolder upper then
      folder := folder.withFolderAt (.ofPath upper) modified
  match ← contentOf? path with
  | some content => return folder.put path ⟨content, modified⟩
  | none => return folder

/-- A folder with the files that the path of a settings file may mean. -/
def withSettingsFiles (folder : Folder) (path : String) (modified : CivilTime) : IO Folder := do
  let mut folder ← withPath folder path modified
  if let some name := pathToName? path then
    for (ending, _) in SettingsFormat.endings do
      folder ← withPath folder (name ++ "." ++ ending) modified
  return folder

/-- The content of a store file. -/
def storeContent : FileContent → FileContent
  | .text s =>
    match Store.ofText? s with
    | some store => .store store
    | none => .text s
  | content => content

/-- The path of the file that a store is kept in. -/
def storeFile? (path : String) : Option String :=
  match StoreAddress.ofPath? path with
  | some (.file path _) => some ("/".intercalate (Place.ofPath path))
  | _ => none

/-- A folder with the store that the settings name. -/
def withStore (folder : Folder) (path : String) (modified : CivilTime) : IO Folder := do
  match storeFile? path with
  | none => return folder
  | some path =>
    let folder ← withPath folder path modified
    match folder.file? path with
    | some file => return folder.put path { file with content := storeContent file.content }
    | none => return folder

/-- The files that the settings name. -/
def gather (folder : Folder) (settings : Settings) (now : CivilTime) : IO Folder := do
  let mut folder ← withPath folder settings.cache.auditPath now
  let log := (folder.readText settings.cache.auditPath).toOption.getD ""
  let built := (AuditRecord.lastRecorded? log).getD now
  folder ← withPath folder settings.cache.path built
  if let some path := settings.topologies then
    folder ← withPath folder path now
  withStore folder settings.store now

/-- The text of what is kept in a file. -/
def contentText? : FileContent → Option String
  | .text s => some s
  | .store store => some store.text
  | _ => none

/-- Make the folders that are new. -/
def makeBack (before after : Folder) : IO Unit := do
  for place in after.files.keys do
    if after.isFolderAt place && !before.isFolderAt place then
      IO.FS.createDirAll ("/".intercalate place)

/-- Write a file back if it has changed. -/
def writeBack (before after : Folder) (path : String) : IO Unit := do
  let old := (before.file? path).bind fun file => contentText? file.content
  let new := (after.file? path).bind fun file => contentText? file.content
  if let some s := new then
    if old ≠ new then
      IO.FS.writeFile path s

/-- Print how a command has ended. -/
def report (outcome : Outcome) : IO UInt32 := do
  IO.print outcome.printed
  if let some failure := outcome.failure then
    IO.eprintln ("Error: " ++ failure.context)
    unless failure.causes.isEmpty do
      IO.eprintln "\nCaused by:"
      for cause in failure.causes do
        IO.eprintln ("    " ++ cause)
  return outcome.code

/-- Run a command. -/
def run (invocation : Invocation) : IO UInt32 := do
  let now ← present
  let environment ← environment
  let folder ← withSettingsFiles .empty invocation.settings now
  match Settings.load folder invocation.settings environment with
  | .error failure => report (.failed failure)
  | .ok settings =>
    let before ← gather folder settings now
    let (after, outcome) := invocation.run environment before now
    makeBack before after
    for path in (storeFile? settings.store).toList ++
        [settings.cache.path, settings.cache.auditPath] do
      writeBack before after path
    report outcome

end Hookup.Main

/-- The program. -/
def main (words : List String) : IO UInt32 := do
  match Invocation.ofWords words with
  | .run invocation => Hookup.Main.run invocation
  | .programVersion =>
    IO.println "hera-cm 0.1.0"
    return 0
  | .usage =>
    IO.print Hookup.Main.usage
    return 0
  | .misuse =>
    IO.eprint Hookup.Main.usage
    return 2
