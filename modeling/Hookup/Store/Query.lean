import Hookup.RecordSource

/-!
# Tables and queries

The records of a kind are the rows of a table.  A row has named columns, some of which may be empty
(`Cell.null`).  A query takes the rows for which its condition is true and reads its columns by
position; a value that is not of the kind that is expected there makes the whole query fail.

Nothing is known about a comparison with an empty column, so conditions have three truth values, and
a row is taken only if the condition is known to be true (`Condition.selects`).
-/

namespace Hookup

/-! ## Rows -/

/-- What a column holds. -/
inductive Cell where
  | null
  | integer (n : Int64)
  | real (x : Float)
  | text (s : String)

namespace Cell

/-- An instant. -/
def ofTime (t : GpsTime) : Cell := .integer t.seconds

/-- A value that may be missing. -/
def ofOption {α : Type} (encode : α → Cell) : Option α → Cell
  | none => .null
  | some a => encode a

/-- Read a text. -/
def asText? : Cell → Option String
  | .text s => some s
  | _ => none

/-- Read a number, which may be a whole one. -/
def asReal? : Cell → Option Float
  | .real x => some x
  | .integer n => some n.toFloat
  | _ => none

/-- Read an instant. -/
def asTime? : Cell → Option GpsTime
  | .integer n => some ⟨n⟩
  | _ => none

/-- Read a value that may be missing. -/
def asOption? {α : Type} (read : Cell → Option α) : Cell → Option (Option α)
  | .null => some none
  | cell => (read cell).map some

end Cell

/-- The columns of a row. -/
abbrev Row := List (String × Cell)

/-! ## Conditions -/

/-- A condition on a row that depends on an instant. -/
inductive Condition where
  /-- The column holds no later instant. -/
  | atMost (column : String)
  /-- The column holds a later instant. -/
  | after (column : String)
  | isNull (column : String)
  | both (a b : Condition)
  | either (a b : Condition)

namespace Condition

/-- Whether two things hold, as far as that is known. -/
def conjunction : Option Bool → Option Bool → Option Bool
  | some true, some true => some true
  | some false, _ => some false
  | _, some false => some false
  | _, _ => none

/-- Whether one of two things holds, as far as that is known. -/
def disjunction : Option Bool → Option Bool → Option Bool
  | some false, some false => some false
  | some true, _ => some true
  | _, some true => some true
  | _, _ => none

/-- The instant in a column, if it holds one. -/
def time? (row : Row) (column : String) : Option GpsTime :=
  (row.lookup column).bind Cell.asTime?

/-- Whether a column is empty. -/
def isEmpty (row : Row) (column : String) : Bool :=
  match row.lookup column with
  | some .null => true
  | _ => false

/-- The truth value of a condition. -/
def value? (row : Row) (t : GpsTime) : Condition → Option Bool
  | .atMost column => (time? row column).map fun time => decide (time ≤ t)
  | .after column => (time? row column).map fun time => decide (t < time)
  | .isNull column => some (isEmpty row column)
  | .both a b => conjunction (a.value? row t) (b.value? row t)
  | .either a b => disjunction (a.value? row t) (b.value? row t)

/-- Whether a row is taken at an instant. -/
def selects (condition : Condition) (t : GpsTime) (row : Row) : Bool :=
  (condition.value? row t).getD false

/-- What has a lifetime is valid from its start on, and until its stop if it has one. -/
def active : Condition :=
  .both (.atMost "start_gpstime") (.either (.isNull "stop_gpstime") (.after "stop_gpstime"))

/-- Notes count from the time they were posted on. -/
def posted : Condition := .atMost "posting_gpstime"

/-- Locations count from the time they were entered on. -/
def created : Condition := .atMost "created_gpstime"

end Condition

/-! ## Queries -/

/-- A kind of records: the rows that they are kept as, and the columns that they are read from, in
the order in which they are read. -/
structure Table (α : Type) where
  row : α → Row
  columns : List String
  ofCells? : List Cell → Option α

namespace Table

variable {α : Type}

/-- The record of a row. -/
def read? (table : Table α) (row : Row) : Option α :=
  (table.columns.mapM fun column => row.lookup column).bind table.ofCells?

/-- The records of some rows; the operation that asks for them fails if one cannot be read. -/
def read (table : Table α) (operation : String) (rows : List Row) : Except StoreError (List α) :=
  match rows.mapM table.read? with
  | some records => pure records
  | none => throw (.refused operation)

/-- Query the records for all rows. -/
def list (table : Table α) (operation : String) (records : List α) :
    Except StoreError (List α) :=
  table.read operation (records.map table.row)

/-- Query the records for the rows that a condition selects. -/
def select (table : Table α) (operation : String) (condition : Condition) (t : GpsTime)
    (records : List α) : Except StoreError (List α) :=
  table.read operation ((records.map table.row).filter (condition.selects t))

end Table

/-! ## The tables -/

open Cell

/-- The table of parts. -/
def Part.table : Table Part where
  row part := [("hpn", .text part.hpn), ("hpn_rev", .text part.rev),
    ("hptype", .text part.partType),
    ("manufacturer_number", ofOption .text part.manufacturerNumber),
    ("start_gpstime", ofTime part.life.start), ("stop_gpstime", ofOption ofTime part.life.stop)]
  columns := ["hpn", "hpn_rev", "hptype", "manufacturer_number", "start_gpstime", "stop_gpstime"]
  ofCells?
    | [hpn, rev, partType, manufacturerNumber, start, stop] => do
      pure {
        hpn := ← asText? hpn
        rev := ← asText? rev
        partType := ← asText? partType
        manufacturerNumber := ← asOption? asText? manufacturerNumber
        life := ⟨← asTime? start, ← asOption? asTime? stop⟩ }
    | _ => none

/-- The table of connections. -/
def Connection.table : Table Connection where
  row c := [("upstream_part", .text c.up.hpn), ("up_part_rev", .text c.up.rev),
    ("upstream_output_port", .text c.up.port), ("downstream_part", .text c.down.hpn),
    ("down_part_rev", .text c.down.rev), ("downstream_input_port", .text c.down.port),
    ("start_gpstime", ofTime c.life.start), ("stop_gpstime", ofOption ofTime c.life.stop)]
  columns := ["upstream_part", "up_part_rev", "upstream_output_port", "downstream_part",
    "down_part_rev", "downstream_input_port", "start_gpstime", "stop_gpstime"]
  ofCells?
    | [upPart, upRev, upPort, downPart, downRev, downPort, start, stop] => do
      pure {
        up := ⟨← asText? upPart, ← asText? upRev, ← asText? upPort⟩
        down := ⟨← asText? downPart, ← asText? downRev, ← asText? downPort⟩
        life := ⟨← asTime? start, ← asOption? asTime? stop⟩ }
    | _ => none

/-- The table of notes, whose columns are not read in the order in which they stand. -/
def PartNote.table : Table PartNote where
  row note := [("hpn", .text note.hpn), ("hpn_rev", .text note.rev),
    ("posting_gpstime", ofTime note.posted), ("comment", .text note.comment),
    ("reference", ofOption .text note.reference)]
  columns := ["hpn", "hpn_rev", "comment", "posting_gpstime", "reference"]
  ofCells?
    | [hpn, rev, comment, posted, reference] => do
      pure {
        hpn := ← asText? hpn
        rev := ← asText? rev
        comment := ← asText? comment
        posted := ← asTime? posted
        reference := ← asOption? asText? reference }
    | _ => none

/-- The table of statuses. -/
def AntennaStatus.table : Table AntennaStatus where
  row status := [("antenna", .text status.antenna), ("status", .text status.status),
    ("start_gpstime", ofTime status.life.start),
    ("stop_gpstime", ofOption ofTime status.life.stop)]
  columns := ["antenna", "status", "start_gpstime", "stop_gpstime"]
  ofCells?
    | [antenna, status, start, stop] => do
      pure {
        antenna := ← asText? antenna
        status := ← asText? status
        life := ⟨← asTime? start, ← asOption? asTime? stop⟩ }
    | _ => none

/-- The table of locations. -/
def Location.table : Table Location where
  row location := [("station_name", .text location.station),
    ("station_type", .text location.kind), ("datum", .text location.datum),
    ("tile", .text location.tile), ("northing", .real location.northing),
    ("easting", .real location.easting), ("elevation", .real location.elevation),
    ("created_gpstime", ofTime location.created)]
  columns := ["station_name", "station_type", "datum", "tile", "northing", "easting", "elevation",
    "created_gpstime"]
  ofCells?
    | [station, kind, datum, tile, northing, easting, elevation, created] => do
      pure {
        station := ← asText? station
        kind := ← asText? kind
        datum := ← asText? datum
        tile := ← asText? tile
        northing := ← asReal? northing
        easting := ← asReal? easting
        elevation := ← asReal? elevation
        created := ← asTime? created }
    | _ => none

end Hookup
