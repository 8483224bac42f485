import Hookup.Annotation
import Hookup.Connection
import Hookup.Json.Float
import Hookup.Json.Record

/-!
# Records in JSON

The field names of parts, connections and annotations, and how they are read.  Connections admit no
other fields; the other records ignore them.
-/

namespace Hookup

open Json

/-! ## Times, keys and directions -/

/-- A time as a whole number of 64 bits. -/
def GpsTime.toJson (t : GpsTime) : Json := .int t.toInt

/-- Read a time. -/
def GpsTime.ofJson? (json : Json) : Option GpsTime :=
  (asInt? json).bind GpsTime.ofInt?

/-- A part key as its text. -/
def PartKey.toJson (key : PartKey) : Json := .text key.text

/-- Read a part key, in any spelling and as it stands. -/
def PartKey.ofJson? (json : Json) : Option PartKey := (asText? json).map PartKey.mk

/-- A direction as its word. -/
def Direction.toJson (d : Direction) : Json := .text d.text

/-- The direction of a word in lower case. -/
def Direction.ofWord? (word : String) : Option Direction :=
  if word = "up" then some .up else if word = "down" then some .down else none

/-- Read a direction: its word, or an object whose one member has the word for its name and adds
nothing to it. -/
def Direction.read? (dialect : Dialect) : Json → Option Direction
  | .string (some word) => ofWord? word
  | .object [(some word, value)] => if dialect.isBare value then ofWord? word else none
  | _ => none

/-- Read a direction in JSON. -/
def Direction.ofJson? : Json → Option Direction := read? .json

/-! ## Parts and connections -/

/-- The fields of a part. -/
def Part.shape : Shape where
  fields := [("hpn", .required), ("hpn_rev", .required), ("hptype", .required),
    ("manufacturer_number", .optional), ("start_gpstime", .required), ("stop_gpstime", .optional)]
  closed := false

/-- A part as a record. -/
def Part.toJson (part : Part) : Json :=
  .record [("hpn", .text part.hpn), ("hpn_rev", .text part.rev), ("hptype", .text part.partType),
    ("manufacturer_number", .ofOption .text part.manufacturerNumber),
    ("start_gpstime", part.life.start.toJson),
    ("stop_gpstime", .ofOption GpsTime.toJson part.life.stop)]

/-- Read a part. -/
def Part.ofJson? (json : Json) : Option Part := do
  let [some hpn, some rev, some partType, some manufacturer, some start, some stop] ←
    Part.shape.slots? json | none
  pure {
    hpn := ← asText? hpn
    rev := ← asText? rev
    partType := ← asText? partType
    manufacturerNumber := ← asOption? asText? manufacturer
    life := ⟨← GpsTime.ofJson? start, ← asOption? GpsTime.ofJson? stop⟩ }

/-- The fields of a connection, which has no others. -/
def Connection.shape : Shape where
  fields := [("upstream_part", .required), ("up_part_rev", .required),
    ("upstream_output_port", .required), ("downstream_part", .required),
    ("down_part_rev", .required), ("downstream_input_port", .required),
    ("start_gpstime", .required), ("stop_gpstime", .optional)]
  closed := true

/-- A connection as a record. -/
def Connection.toJson (c : Connection) : Json :=
  .record [("upstream_part", .text c.up.hpn), ("up_part_rev", .text c.up.rev),
    ("upstream_output_port", .text c.up.port),
    ("downstream_part", .text c.down.hpn), ("down_part_rev", .text c.down.rev),
    ("downstream_input_port", .text c.down.port),
    ("start_gpstime", c.life.start.toJson),
    ("stop_gpstime", .ofOption GpsTime.toJson c.life.stop)]

/-- Read a connection. -/
def Connection.ofJson? (json : Json) : Option Connection := do
  let [some upHpn, some upRev, some upPort, some downHpn, some downRev, some downPort,
    some start, some stop] ← Connection.shape.slots? json | none
  pure {
    up := ⟨← asText? upHpn, ← asText? upRev, ← asText? upPort⟩
    down := ⟨← asText? downHpn, ← asText? downRev, ← asText? downPort⟩
    life := ⟨← GpsTime.ofJson? start, ← asOption? GpsTime.ofJson? stop⟩ }

/-! ## Annotations -/

/-- The fields of a note. -/
def PartNote.shape : Shape where
  fields := [("hpn", .required), ("hpn_rev", .required), ("comment", .required),
    ("posting_gpstime", .required), ("reference", .optional)]
  closed := false

/-- A note as a record. -/
def PartNote.toJson (note : PartNote) : Json :=
  .record [("hpn", .text note.hpn), ("hpn_rev", .text note.rev), ("comment", .text note.comment),
    ("posting_gpstime", note.posted.toJson), ("reference", .ofOption .text note.reference)]

/-- Read a note. -/
def PartNote.ofJson? (json : Json) : Option PartNote := do
  let [some hpn, some rev, some comment, some posted, some reference] ←
    PartNote.shape.slots? json | none
  pure {
    hpn := ← asText? hpn
    rev := ← asText? rev
    comment := ← asText? comment
    posted := ← GpsTime.ofJson? posted
    reference := ← asOption? asText? reference }

/-- The fields of a status. -/
def AntennaStatus.shape : Shape where
  fields := [("antenna", .required), ("status", .required), ("start_gpstime", .required),
    ("stop_gpstime", .optional)]
  closed := false

/-- A status as a record. -/
def AntennaStatus.toJson (status : AntennaStatus) : Json :=
  .record [("antenna", .text status.antenna), ("status", .text status.status),
    ("start_gpstime", status.life.start.toJson),
    ("stop_gpstime", .ofOption GpsTime.toJson status.life.stop)]

/-- Read a status. -/
def AntennaStatus.ofJson? (json : Json) : Option AntennaStatus := do
  let [some antenna, some status, some start, some stop] ←
    AntennaStatus.shape.slots? json | none
  pure {
    antenna := ← asText? antenna
    status := ← asText? status
    life := ⟨← GpsTime.ofJson? start, ← asOption? GpsTime.ofJson? stop⟩ }

/-- A coordinate. -/
def coordinateJson (x : Float) : Json := .number (.ofFloat x)

/-- Read a coordinate, written in any way. -/
def coordinateOf? : Json → Option Float
  | .number n => n.toFloat?
  | _ => none

/-- The fields of a location. -/
def Location.shape : Shape where
  fields := [("station_name", .required), ("station_type", .required), ("datum", .required),
    ("tile", .required), ("northing", .required), ("easting", .required),
    ("elevation", .required), ("created_gpstime", .required)]
  closed := false

/-- A location as a record. -/
def Location.toJson (l : Location) : Json :=
  .record [("station_name", .text l.station), ("station_type", .text l.kind),
    ("datum", .text l.datum), ("tile", .text l.tile), ("northing", coordinateJson l.northing),
    ("easting", coordinateJson l.easting), ("elevation", coordinateJson l.elevation),
    ("created_gpstime", l.created.toJson)]

/-- Read a location. -/
def Location.ofJson? (json : Json) : Option Location := do
  let [some station, some kind, some datum, some tile, some northing, some easting,
    some elevation, some created] ← Location.shape.slots? json | none
  pure {
    station := ← asText? station
    kind := ← asText? kind
    datum := ← asText? datum
    tile := ← asText? tile
    northing := ← coordinateOf? northing
    easting := ← coordinateOf? easting
    elevation := ← coordinateOf? elevation
    created := ← GpsTime.ofJson? created }

/-- The fields of a version. -/
def StoreVersion.shape : Shape where
  fields := [("update_time", .required), ("git_hash", .optional)]
  closed := false

/-- A version as a record. -/
def StoreVersion.toJson (version : StoreVersion) : Json :=
  .record [("update_time", version.updated.toJson), ("git_hash", .ofOption .text version.gitHash)]

/-- Read a version. -/
def StoreVersion.ofJson? (json : Json) : Option StoreVersion := do
  let [some updated, some gitHash] ← StoreVersion.shape.slots? json | none
  pure ⟨← GpsTime.ofJson? updated, ← asOption? asText? gitHash⟩

end Hookup
