import Hookup.Cache
import Hookup.Folder
import Hookup.Json.Entries
import Hookup.Json.Printer
import Hookup.Json.Reader

/-!
# Cache files

A cache is kept as an indented JSON text.  Its reader looks at the format version before anything
else, so that a file of another version is reported as such whatever it looks like, and then admits
nothing that the printer does not write.
-/

namespace Hookup.HookupCache

open Json

/-! ## JSON -/

/-- The fields of a cache, which has no others. -/
def shape : Shape where
  fields := [("format_version", .required), ("at_date_gps", .required),
    ("hookup_type", .optional), ("hookup_list", .required), ("hookup_dict", .required),
    ("part_type_cache", .required)]
  closed := true

/-- A cache as a record. -/
def toJson (cache : HookupCache) : Json :=
  .record [("format_version", .int cache.formatVersion.toNat),
    ("at_date_gps", cache.builtFor.toJson),
    ("hookup_type", .ofOption .text cache.hookupType),
    ("hookup_list", .ofList .text cache.stations),
    ("hookup_dict", cache.entries.toJson),
    ("part_type_cache", .ofMap .text cache.partTypes)]

/-- Read a format version. -/
def versionOf? (json : Json) : Option UInt32 :=
  (asNatUpTo? 0xffffffff json).map .ofNat

/-- Read a cache. -/
def ofJson? (json : Json) : Option HookupCache := do
  let [some version, some builtFor, some hookupType, some stations, some entries,
    some partTypes] ← shape.slots? json | none
  pure {
    formatVersion := ← versionOf? version
    builtFor := ← GpsTime.ofJson? builtFor
    hookupType := ← asOption? asText? hookupType
    stations := ← asList? asText? stations
    entries := ← asMap? Entry.ofJson? entries
    partTypes := ← asMap? asText? partTypes }

/-! ## Texts -/

/-- The one field that is looked at before the format version is known. -/
def versionShape : Shape where
  fields := [("format_version", .optional)]
  closed := false

/-- The format version that a value names. -/
def namedVersion? (json : Json) : Option (Option UInt32) := do
  let [some version] ← versionShape.slots? json | none
  asOption? versionOf? version

/-- The text of a cache. -/
def text (cache : HookupCache) : String := cache.toJson.pretty

/-- Read a cache in the current format from a value. -/
def ofCurrentJson (json : Json) : Except CacheFault HookupCache :=
  match namedVersion? json with
  | none => throw .malformed
  | some none => throw .noVersion
  | some (some version) =>
    if version = cacheFormatVersion then
      match ofJson? json with
      | none => throw .malformed
      | some cache => pure cache
    else throw (.otherVersion version)

/-- Read a cache from its text. -/
def ofText (s : String) : Except CacheFault HookupCache :=
  match Json.parse? s with
  | none => throw .malformed
  | some json => ofCurrentJson json

/-! ## Files -/

/-- Read the cache at a path. -/
def read (folder : Folder) (path : String) : Except Error HookupCache := do
  (ofText (← folder.readText path)).mapError (.cacheFormat path)

/-- Write a cache to a path. -/
def write (cache : HookupCache) (folder : Folder) (path : String) (now : CivilTime) :
    Except Error Folder :=
  folder.writeText path now cache.text

end Hookup.HookupCache
