import Hookup.Cache.File
import Hookup.Time.Scan

/-!
# The audit log of caches

Every rebuild of a cache is recorded in a log, one line of compact JSON after the other.  As the
printer escapes line breaks, a message of any kind stays on its line.
-/

namespace Hookup

open Json

/-- One rebuild of a cache. -/
structure AuditRecord where
  recorded : CivilTime
  builtFor : GpsTime
  hookupType : Option String
  stations : List String
  entries : UInt64
  message : String
deriving DecidableEq

namespace AuditRecord

/-- The record of a cache that was just written. -/
def ofCache (cache : HookupCache) (now : CivilTime) (message : String) : AuditRecord where
  recorded := now
  builtFor := cache.builtFor
  hookupType := cache.hookupType
  stations := cache.stations
  entries := .ofNat cache.entries.size
  message

/-- The fields of a record. -/
def shape : Shape where
  fields := [("recorded_at", .required), ("at_date_gps", .required), ("hookup_type", .optional),
    ("hookup_list", .required), ("entries", .required), ("message", .required)]
  closed := false

/-- A rebuild as a record. -/
def toJson (r : AuditRecord) : Json :=
  .record [("recorded_at", .text r.recorded.stamp), ("at_date_gps", r.builtFor.toJson),
    ("hookup_type", .ofOption .text r.hookupType), ("hookup_list", .ofList .text r.stations),
    ("entries", .int r.entries.toNat), ("message", .text r.message)]

/-- Read an instant of civil time. -/
def instantOf? (json : Json) : Option CivilTime := (asText? json).bind Scan.spacedInstant.read?

/-- Read a count. -/
def countOf? (json : Json) : Option UInt64 :=
  (asNatUpTo? 0xffffffffffffffff json).map .ofNat

/-- Read a rebuild. -/
def ofJson? (json : Json) : Option AuditRecord := do
  let [some recorded, some builtFor, some hookupType, some stations, some entries,
    some message] ← shape.slots? json | none
  pure {
    recorded := ← instantOf? recorded
    builtFor := ← GpsTime.ofJson? builtFor
    hookupType := ← asOption? asText? hookupType
    stations := ← asList? asText? stations
    entries := ← countOf? entries
    message := ← asText? message }

/-- The line of a record. -/
def line (r : AuditRecord) : String := r.toJson.compact ++ "\n"

/-- Write a record at the end of the log at a path. -/
def append (r : AuditRecord) (folder : Folder) (path : String) (now : CivilTime) :
    Except Error Folder :=
  folder.appendText path now r.line

/-- Read a log, line by line. -/
def ofLog? (log : String) : Option (List AuditRecord) :=
  ((Text.pieces '\n' log).filter (· != "")).mapM fun line => (Json.parse? line).bind ofJson?

/-- When the last record of a log was made. -/
def lastRecorded? (log : String) : Option CivilTime := do
  let record ← (← ofLog? log).getLast?
  pure record.recorded

end AuditRecord

end Hookup
