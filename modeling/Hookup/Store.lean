import Hookup.Store.Query

/-!
# The store

The store keeps every record that was ever entered, in the order of entry.  Nothing is deleted: a
part or connection that is taken out gets a stop time.  Names are kept in canonical form, and each
table has a primary key:

* parts by number and revision, connections by both terminals and their start;
* notes by part and posting time, statuses by antenna and start, locations by station;
* versions by their time, where a second one replaces the first.

A write either gives the changed store or an error, in which case nothing changed.  The reads are
queries of the tables (`Store.source`); those of an instant list rows by start, rows without a stop
before rows with one, then in the order of entry.
-/

namespace Hookup

/-- The rows of all tables in the order of entry. -/
structure Store where
  parts : List Part
  connections : List Connection
  notes : List PartNote
  statuses : List AntennaStatus
  locations : List Location
  versions : List StoreVersion
deriving Inhabited

namespace Store

/-- The store without records. -/
def empty : Store := ⟨[], [], [], [], [], []⟩

/-! ## Writes -/

/-- Whether two part records have one primary key. -/
def samePart (a b : Part) : Bool := a.hpn == b.hpn && a.rev == b.rev

/-- Whether two connections have one primary key. -/
def sameConnection (a b : Connection) : Bool :=
  a.up == b.up && a.down == b.down && a.life.start == b.life.start

/-- Enter a part. -/
def addPart (s : Store) (part : Part) : Except StoreError Store :=
  let part := part.canonical
  if s.parts.any (samePart part) then throw (.duplicatePart part.key)
  else pure { s with parts := s.parts ++ [part] }

/-- Whether a part has the number and revision that a key splits into. -/
def hasKey (key : PartKey) (part : Part) : Bool :=
  part.hpn == canonicalName key.split.1 && part.rev == canonicalName key.split.2

/-- Set the stop time of a lifetime, whatever it was. -/
def stopAt (t : GpsTime) (life : Lifetime) : Lifetime := { life with stop := some t }

/-- Set the stop time of a part. -/
def stopPart (s : Store) (key : PartKey) (t : GpsTime) : Except StoreError Store :=
  let stopped (part : Part) : Part :=
    if hasKey key part then { part with life := stopAt t part.life } else part
  if s.parts.any (hasKey key) then pure { s with parts := s.parts.map stopped }
  else throw (.notFound key.text)

/-- Enter a connection. -/
def addConnection (s : Store) (c : Connection) : Except StoreError Store :=
  let c := c.canonical
  if s.connections.any (sameConnection c) then throw .keyTaken
  else pure { s with connections := s.connections ++ [c] }

/-- Set the stop time of a connection. -/
def stopConnection (s : Store) (c : Connection) (t : GpsTime) : Except StoreError Store :=
  let c := c.canonical
  let stopped (row : Connection) : Connection :=
    if sameConnection c row then { row with life := stopAt t row.life } else row
  if s.connections.any (sameConnection c) then
    pure { s with connections := s.connections.map stopped }
  else throw (.notFound c.text)

/-- Enter a note. -/
def addNote (s : Store) (note : PartNote) : Except StoreError Store :=
  let note := { note with hpn := canonicalName note.hpn, rev := canonicalName note.rev }
  let taken := s.notes.any fun row =>
    row.hpn == note.hpn && row.rev == note.rev && row.posted == note.posted
  if taken then throw .keyTaken
  else pure { s with notes := s.notes ++ [note] }

/-- Enter a status. -/
def addStatus (s : Store) (status : AntennaStatus) : Except StoreError Store :=
  let status := { status with antenna := canonicalName status.antenna }
  let taken := s.statuses.any fun row =>
    row.antenna == status.antenna && row.life.start == status.life.start
  if taken then throw .keyTaken
  else pure { s with statuses := s.statuses ++ [status] }

/-- A coordinate as the store keeps it: its zero has no sign. -/
def coordinate (x : Float) : Float := if x == 0 then 0 else x

/-- Enter a location.  A coordinate that is not a number counts as missing. -/
def addLocation (s : Store) (location : Location) : Except StoreError Store :=
  let location := { location with
    station := canonicalName location.station
    northing := coordinate location.northing
    easting := coordinate location.easting
    elevation := coordinate location.elevation }
  let missing := [location.northing, location.easting, location.elevation].any Float.isNaN
  if missing || s.locations.any (·.station == location.station) then throw .keyTaken
  else pure { s with locations := s.locations ++ [location] }

/-- Enter a version, in place of one of the same time. -/
def recordVersion (s : Store) (version : StoreVersion) : Store :=
  { s with versions := s.versions.filter (·.updated != version.updated) ++ [version] }

/-! ## Reads -/

/-- Whether a row comes before another or neither comes before the other: by start, and then a row
without a stop first. -/
def rowOrder (a b : Lifetime) : Bool :=
  if a.start = b.start then
    match a.stop, b.stop with
    | none, _ => true
    | some _, none => false
    | some s, some t => decide (s ≤ t)
  else decide (a.start ≤ b.start)

/-- Rows in the order in which reads of an instant list them. -/
def inRowOrder {α : Type} (life : α → Lifetime) (rows : List α) : List α :=
  rows.mergeSort fun a b => rowOrder (life a) (life b)

/-- The parts in service. -/
def activeParts (s : Store) (t : GpsTime) : List Part :=
  inRowOrder Part.life (s.parts.filter (·.isActive t))

/-- The connections in place. -/
def activeConnections (s : Store) (t : GpsTime) : List Connection :=
  inRowOrder Connection.life (s.connections.filter (·.isActive t))

/-- The notes posted so far, in the order of posting. -/
def activeNotes (s : Store) (t : GpsTime) : List PartNote :=
  PartNote.inOrder (s.notes.filter fun note => decide (note.posted ≤ t))

/-- The statuses in force. -/
def activeStatuses (s : Store) (t : GpsTime) : List AntennaStatus :=
  inRowOrder AntennaStatus.life (s.statuses.filter (·.isActive t))

/-- The locations entered so far. -/
def activeLocations (s : Store) (t : GpsTime) : List Location :=
  s.locations.filter fun location => decide (location.created ≤ t)

/-- The later of two versions, the second of two of one time. -/
def laterVersion (a : Option StoreVersion) (b : StoreVersion) : Option StoreVersion :=
  match a with
  | none => some b
  | some a => if a.updated ≤ b.updated then some b else some a

/-- The version of the last change. -/
def latestVersion (s : Store) : Option StoreVersion := s.versions.foldl laterVersion none

/-- The texts and times that full listings of connections are ordered by. -/
def listingOrder (a b : Connection) : Bool :=
  ((compare a.up.hpn b.up.hpn).then <|
    (compare a.up.port b.up.port).then <|
    (compare a.life.start.toInt b.life.start.toInt).then <|
    (compare a.up.rev b.up.rev).then <|
    (compare a.down.hpn b.down.hpn).then <|
    (compare a.down.rev b.down.rev).then <|
    compare a.down.port b.down.port).isLE

/-- The texts that full listings of parts are ordered by. -/
def partOrder (a b : Part) : Bool := ((compare a.hpn b.hpn).then (compare a.rev b.rev)).isLE

/-- All parts, by number and revision. -/
def listParts (s : Store) : List Part := s.parts.mergeSort partOrder

/-- All connections, by the part and port at their upper end, then by start. -/
def listConnections (s : Store) : List Connection := s.connections.mergeSort listingOrder

/-- The store as a source of records, which queries its tables. -/
def source (s : Store) : RecordSource where
  activeParts t := inRowOrder Part.life <$> Part.table.select "active_parts" .active t s.parts
  activeConnections t := inRowOrder Connection.life <$>
    Connection.table.select "active_connections" .active t s.connections
  activeNotes t := PartNote.inOrder <$>
    PartNote.table.select "active_part_info" .posted t s.notes
  activeStatuses t := inRowOrder AntennaStatus.life <$>
    AntennaStatus.table.select "active_apriori" .active t s.statuses
  activeLocations t := Location.table.select "active_geo" .created t s.locations
  latestVersion := pure s.latestVersion
  listParts := (·.mergeSort partOrder) <$> Part.table.list "list_parts" s.parts
  listConnections := (·.mergeSort listingOrder) <$>
    Connection.table.list "list_connections" s.connections

end Store

/-! ## Journals -/

/-- A source that keeps all records as they come, checks nothing, and answers every read of an
instant with all of them, whatever the instant.  Chosen reads can be refused. -/
structure Journal where
  records : Records
  versions : List StoreVersion
  refused : List String
deriving Inhabited

namespace Journal

/-- A journal without records that refuses the named reads. -/
def refusing (refused : List String) : Journal := ⟨default, [], refused⟩

/-- A read by name, unless it is refused. -/
def reading {α : Type} (j : Journal) (name : String) (rows : α) : Except StoreError α :=
  if j.refused.contains name then throw (.refused name) else pure rows

/-- The journal as a source of records. -/
def source (j : Journal) : RecordSource where
  activeParts _ := j.reading "active_parts" j.records.parts
  activeConnections _ := j.reading "active_connections" j.records.connections
  activeNotes _ := j.reading "active_part_info" j.records.notes
  activeStatuses _ := j.reading "active_apriori" j.records.statuses
  activeLocations _ := j.reading "active_geo" j.records.locations
  latestVersion := j.reading "latest_version" (j.versions.foldl Store.laterVersion none)
  listParts := j.reading "list_parts" j.records.parts
  listConnections := j.reading "list_connections" j.records.connections

end Journal

end Hookup
