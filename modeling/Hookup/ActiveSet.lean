import Hookup.Annotation
import Hookup.Wiring

/-!
# Active sets

Everything that is valid at one instant: the parts in service, their wiring, the notes posted so
far, the statuses in force and the locations entered so far.  `ActiveSet.ofRecords` picks it out of
records of any time, brings parts and connections into canonical form, and fails only where two
active connections claim one port.

Of several records under one name the later one of the list stays, except for notes, of which all
are kept in the order of posting.
-/

namespace Hookup

/-- Records of a store, of any time. -/
structure Records where
  parts : List Part
  connections : List Connection
  notes : List PartNote
  statuses : List AntennaStatus
  locations : List Location
deriving Inhabited

/-- What is valid at one instant, ready to be looked up. -/
structure ActiveSet where
  /-- The instant that the set was built for. -/
  builtFor : GpsTime
  parts : KeyMap PartKey Part
  wiring : Wiring
  notes : KeyMap PartKey (List PartNote)
  statuses : KeyMap String AntennaStatus
  locations : KeyMap String Location

/-- Notes in the order of posting; notes of one time keep their order. -/
def PartNote.inOrder (notes : List PartNote) : List PartNote :=
  notes.mergeSort fun a b => decide (a.posted ≤ b.posted)

namespace ActiveSet

/-- The parts in service, by key. -/
def activeParts (instant : GpsTime) (parts : List Part) : KeyMap PartKey Part :=
  let active := (parts.filter (·.isActive instant)).map Part.canonical
  .ofList (active.map fun part => (part.key, part))

/-- The connections in place, in canonical form and in the order of the list. -/
def activeConnections (instant : GpsTime) (connections : List Connection) : List Connection :=
  (connections.filter (·.isActive instant)).map Connection.canonical

/-- The notes posted so far, by part. -/
def postedNotes (instant : GpsTime) (notes : List PartNote) : KeyMap PartKey (List PartNote) :=
  (KeyMap.group PartNote.key (notes.filter fun note => decide (note.posted ≤ instant))).mapValues
    PartNote.inOrder

/-- The set of what is valid at an instant. -/
def ofRecords (instant : GpsTime) (records : Records) : Except Error ActiveSet := do
  let wiring ← Wiring.ofConnections (activeConnections instant records.connections)
  pure {
    builtFor := instant
    parts := activeParts instant records.parts
    wiring
    notes := postedNotes instant records.notes
    statuses := .ofList ((records.statuses.filter (·.isActive instant)).map fun status =>
      (canonicalName status.antenna, status))
    locations := .ofList ((records.locations.filter fun location =>
        decide (location.created ≤ instant)).map fun location =>
      (canonicalName location.station, location)) }

/-! ## Look-ups -/

/-- The part of a key, if it is in service. -/
def part? (s : ActiveSet) (key : PartKey) : Option Part := s.parts.get? key

/-- The notes on a part in the order of posting. -/
def notesOn (s : ActiveSet) (key : PartKey) : List PartNote := (s.notes.get? key).getD []

/-- The status declared for an antenna. -/
def status? (s : ActiveSet) (antenna : String) : Option AntennaStatus :=
  s.statuses.get? (canonicalName antenna)

/-- The location of a station. -/
def location? (s : ActiveSet) (station : String) : Option Location :=
  s.locations.get? (canonicalName station)

end ActiveSet

/-- Whether a part number begins with one of the names, or is one of them when `exact`. -/
def hpnMatches (names : List String) (exact : Bool) (hpn : String) : Bool :=
  let hpn := canonicalName hpn
  names.any fun name => if exact then hpn == name else Text.beginsWith hpn name

/-- The parts in service whose part number matches a name in any spelling, in the order of keys. -/
def ActiveSet.partsMatching (s : ActiveSet) (names : List String) (exact : Bool) : List Part :=
  s.parts.values.filter fun part => hpnMatches (names.map canonicalName) exact part.hpn

end Hookup
