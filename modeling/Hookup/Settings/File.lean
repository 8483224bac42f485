import Hookup.Folder
import Hookup.Settings.Ini
import Hookup.Settings.Relaxed
import Hookup.Settings.Ron
import Hookup.Settings.Yaml
import Hookup.Toml.Reader

/-!
# Settings files

A settings file is written in one of several formats, of which the ending of its name tells which.
The path to it may leave the ending off.  No file, and a file with another ending, make no settings
(`Folder.settingsFile?`); a file that cannot be understood is an error.
-/

namespace Hookup

/-- The formats of settings files. -/
inductive SettingsFormat where
  | toml
  | json
  | yaml
  | ini
  | ron
  | relaxedJson
deriving DecidableEq

namespace SettingsFormat

/-- The endings of names with their formats. -/
def endings : List (String × SettingsFormat) :=
  [("toml", toml), ("json", json), ("yaml", yaml), ("yml", yaml), ("ini", ini), ("ron", ron),
    ("json5", relaxedJson)]

/-- How deep arrays and objects may lie in each other in JSON. -/
def deepestJson : Nat := 127

/-- The value that a text writes in a format. -/
def value? (format : SettingsFormat) (s : String) : Option SettingValue :=
  match format with
  | toml => (Toml.parse? s).map .ofToml
  | json => (Json.parse? s).bind (SettingValue.ofJson? deepestJson)
  | yaml => SettingValue.ofYaml? s
  | ini => (SettingValue.ofIni? s).map .table
  | ron => SettingValue.ofRon? s
  | relaxedJson => SettingValue.ofRelaxedJson? s

/-- The table that a file writes in a format. -/
def members? (format : SettingsFormat) (content : FileContent) : Option SettingValue.Members := do
  let .text s := content | none
  let .table members ← format.value? (.ofList (Text.withoutMark s.toList)) | none
  pure members

/-- The ending of a name, which does not begin with its only point. -/
def endingOf? (name : String) : Option String := do
  let (before, ending) ← Text.splitLast '.' name
  if before.isEmpty then none else some ending

/-- The format of the file at a path, by the ending of its name. -/
def ofPath? (path : String) : Option SettingsFormat := do
  endings.lookup (← endingOf? ((Text.pieces '/' path).getLastD ""))

end SettingsFormat

/-- A path without what stays in place at its end; nothing if it then has no name at its end. -/
def pathToName? (path : String) : Option String :=
  let names := (Text.pieces '/' path).reverse.dropWhile fun name => name == "" || name == "."
  match names with
  | [] => none
  | name :: above => if name = ".." then none else some ("/".intercalate (name :: above).reverse)

namespace Folder

/-- The file at a path, if there is one other than a folder. -/
def contentAt? (folder : Folder) (path : String) : Option FileContent :=
  if folder.isFolder path then none else (folder.file? path).map File.content

/-- The settings file that a path means, with its format. -/
def settingsFile? (folder : Folder) (path : String) : Option (SettingsFormat × FileContent) :=
  match folder.contentAt? path with
  | some content => (SettingsFormat.ofPath? path).map (·, content)
  | none => do
    let name ← pathToName? path
    SettingsFormat.endings.findSome? fun (ending, format) =>
      (folder.contentAt? (name ++ "." ++ ending)).map (format, ·)

end Folder

end Hookup
