import Hookup.Json.Printer
import Hookup.Json.Reader
import Hookup.Json.Records
import Hookup.Store

/-!
# Stores in JSON

A store is kept as one object with a list of rows for each table, in the order of entry.
-/

namespace Hookup.Store

open Json

/-- The tables of a store, which has no others. -/
def shape : Shape where
  fields := [("parts", .required), ("connections", .required), ("part_info", .required),
    ("apriori_antenna", .required), ("geo_location", .required), ("cm_version", .required)]
  closed := true

/-- A store as a record. -/
def toJson (s : Store) : Json :=
  .record [("parts", .ofList Part.toJson s.parts),
    ("connections", .ofList Connection.toJson s.connections),
    ("part_info", .ofList PartNote.toJson s.notes),
    ("apriori_antenna", .ofList AntennaStatus.toJson s.statuses),
    ("geo_location", .ofList Location.toJson s.locations),
    ("cm_version", .ofList StoreVersion.toJson s.versions)]

/-- Read a store. -/
def ofJson? (json : Json) : Option Store := do
  let [some parts, some connections, some notes, some statuses, some locations,
    some versions] ← shape.slots? json | none
  pure {
    parts := ← asList? Part.ofJson? parts
    connections := ← asList? Connection.ofJson? connections
    notes := ← asList? PartNote.ofJson? notes
    statuses := ← asList? AntennaStatus.ofJson? statuses
    locations := ← asList? Location.ofJson? locations
    versions := ← asList? StoreVersion.ofJson? versions }

/-- The text of a store. -/
def text (s : Store) : String := s.toJson.pretty ++ "\n"

/-- Read a store from its text. -/
def ofText? (s : String) : Option Store := (Json.parse? s).bind ofJson?

end Hookup.Store
