import Hookup.Catalogue.Hera
import Hookup.Json.Topologies
import Hookup.Service
import Hookup.Settings.File
import Hookup.Settings.Tree

/-!
# Settings

Where the store, the topologies and the cache are found.  Settings come in layers: what holds unless
something else is said, then a settings file, then variables of the environment, whose names begin
with `HERA_CM_`.  A path that begins with `~/` leads into the home directory.

A value of the environment is read as a truth value or a number if it looks like one, and the list
of stations is split at commas otherwise.  Numbers and truth values then serve as texts.
-/

namespace Hookup

/-- Why a program ends: what was being done, and the reasons. -/
structure Failure where
  context : String
  causes : List String
deriving DecidableEq

/-- Variables of the environment. -/
abbrev Environment := List (String × String)

/-- Where things are found. -/
structure Settings where
  store : String
  /-- The file with the topologies; those of the HERA array without one. -/
  topologies : Option String
  cache : CacheSettings
deriving DecidableEq

namespace Settings

/-- The settings that hold unless others are given. -/
def standard : Settings := ⟨"hera_cm.sqlite", none, .standard⟩

/-! ## Layers -/

/-- What the names of variables begin with that are settings. -/
def variableStart : String := "hera_cm_"

/-- The name of the setting that is a list. -/
def stationsName : String := "hookup_list"

/-- The value of a variable for a setting. -/
def variableValue (name value : String) : SettingValue :=
  let word := Text.lower value
  if word = "true" then .boolean true
  else if word = "false" then .boolean false
  else
    match SettingValue.readInt? value <|> (Decimal.read? value).map .float with
    | some number => number
    | none =>
      if name = stationsName then .list ((Text.pieces ',' value).map .text) else .text value

/-- The settings that the environment makes. -/
def ofEnvironment (environment : Environment) : SettingValue.Members :=
  environment.filterMap fun (variableName, value) =>
    let variableName := Text.lower variableName
    if Text.beginsWith variableName variableStart then
      let name := String.ofList (variableName.toList.drop variableStart.length)
      some (name, variableValue name value)
    else none

/-- What all layers make together, the lowest first. -/
def layered (layers : List SettingValue.Members) : SettingValue.Members :=
  layers.foldl SettingValue.enterAll []

/-! ## Values -/

/-- The setting of a name, or what holds without it. -/
def settingOr? {α : Type} (members : SettingValue.Members) (name : String) (standard : α)
    (read : SettingValue → Option α) : Option α :=
  match members.lookup name with
  | none => some standard
  | some value => read value

/-- The settings that a table makes. -/
def ofMembers? (members : SettingValue.Members) : Option Settings := do
  let text (name standard : String) := settingOr? members name standard SettingValue.text?
  let optional (name : String) := settingOr? members name none SettingValue.perhapsText?
  pure {
    store := ← text "store_path" standard.store
    topologies := ← optional "sysdef_path"
    cache := {
      path := ← text "cache_path" standard.cache.path
      auditPath := ← text "cache_log_path" standard.cache.auditPath
      stations := ← settingOr? members stationsName standard.cache.stations SettingValue.texts?
      hookupType := ← optional "hookup_type" } }

/-! ## Home directories -/

/-- A path below a folder; an absolute one stays. -/
def joinPath (folder path : String) : String :=
  if Text.beginsWith path "/" then path
  else if folder.isEmpty || Text.endsWith folder "/" then folder ++ path
  else folder ++ "/" ++ path

/-- A path with its home directory, if it begins with a tilde and there is one. -/
def expandHome (environment : Environment) (path : String) : String :=
  match path.toList, environment.lookup "HOME" with
  | '~' :: '/' :: rest, some home => joinPath home (.ofList rest)
  | _, _ => path

/-- The settings with home directories in all paths. -/
def withHome (environment : Environment) (s : Settings) : Settings where
  store := expandHome environment s.store
  topologies := s.topologies.map (expandHome environment)
  cache := { s.cache with
    path := expandHome environment s.cache.path
    auditPath := expandHome environment s.cache.auditPath }

/-! ## Loading -/

/-- The members of the settings file at a path; none without a file. -/
def fileMembers (folder : Folder) (path : String) : Except Failure SettingValue.Members :=
  match folder.settingsFile? path with
  | none => pure []
  | some (format, content) =>
    match format.members? content with
    | some members => pure members
    | none => throw ⟨"failed to read config file", []⟩

/-- The settings of a file and the environment. -/
def load (folder : Folder) (path : String) (environment : Environment) :
    Except Failure Settings := do
  let members ← fileMembers folder path
  match ofMembers? (layered [members, ofEnvironment environment]) with
  | some settings => pure (settings.withHome environment)
  | none => throw ⟨"failed to deserialise CliConfig", []⟩

end Settings

/-! ## Topology files -/

/-- The catalogue that a topology file writes. -/
def Catalogue.ofToml? (s : String) : Option Catalogue :=
  (Toml.parse? s).bind fun toml => read? .toml toml.toJson

/-- The catalogue of a topology file. -/
def Catalogue.read (folder : Folder) (path : String) : Except Failure Catalogue :=
  match folder.readText path with
  | .error _ => throw ⟨"reading topology file " ++ path, []⟩
  | .ok s =>
    match ofToml? s with
    | none => throw ⟨"parsing topology file " ++ path, []⟩
    | some catalogue => pure catalogue

/-- The catalogue that the settings name, not yet validated. -/
def Settings.readCatalogue (s : Settings) (folder : Folder) : Except Failure Catalogue :=
  match s.topologies with
  | none => pure .hera
  | some path => Catalogue.read folder path

end Hookup
