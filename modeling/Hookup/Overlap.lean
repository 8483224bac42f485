import Hookup.Connection
import Hookup.KeyMap

/-!
# Overlapping records

Resolution takes for granted that at any instant there is at most one record per part, and one
connection per port and side.  Over the full history of a store, `overlappingParts` and
`overlappingConnections` list the pairs of records that break this: records for one part number,
in any revision, or for one port of one part on one side, of which each starts before the other
stops.

Pairs are listed by the name they are about, and the record that starts first comes first.
-/

namespace Hookup

/-- Two records for one part number that overlap. -/
structure PartOverlap where
  hpn : String
  first : Part
  second : Part
deriving DecidableEq

/-- Two connections that hold one port at once; `side` is the end that the port is on. -/
structure PortOverlap where
  part : PartKey
  port : String
  side : Direction
  first : Connection
  second : Connection
deriving DecidableEq

/-- All pairs of a list, the earlier item first. -/
def pairs {α : Type} : List α → List (α × α)
  | [] => []
  | a :: rest => rest.map (a, ·) ++ pairs rest

/-- The overlapping pairs among records, which are put in the order of their starts first. -/
def overlappingPairs {α : Type} (life : α → Lifetime) (records : List α) : List (α × α) :=
  let ordered := records.mergeSort fun a b => decide ((life a).start ≤ (life b).start)
  (pairs ordered).filter fun pair => (life pair.1).overlaps (life pair.2)

/-- The overlapping records for one part number. -/
def overlappingParts (parts : List Part) : List PartOverlap :=
  (KeyMap.group (fun part => canonicalName part.hpn) parts).toList.flatMap fun (hpn, records) =>
    (overlappingPairs Part.life records).map fun (first, second) => ⟨hpn, first, second⟩

/-- A connection as the holder of one of its two ports. -/
structure PortClaim where
  part : PartKey
  port : String
  side : Direction
  connection : Connection
deriving DecidableEq

/-- The claims of a connection, that of its upper end first. -/
def PortClaim.ofConnection (c : Connection) : List PortClaim :=
  [Direction.up, .down].map fun side =>
    ⟨(c.terminal side).key, canonicalPort (c.terminal side).port, side, c⟩

/-- The overlaps among the claims of one port on one side. -/
def overlappingClaims (part : PartKey) (port : String) (side : Direction)
    (claims : List PortClaim) : List PortOverlap :=
  (overlappingPairs (·.connection.life) (claims.filter (·.side = side))).map
    fun (first, second) => ⟨part, port, side, first.connection, second.connection⟩

/-- The connections that overlap on a port, on either end. -/
def overlappingConnections (connections : List Connection) : List PortOverlap :=
  let byPart := KeyMap.group PortClaim.part (connections.flatMap PortClaim.ofConnection)
  byPart.toList.flatMap fun (part, ofPart) =>
    (KeyMap.group PortClaim.port ofPart).toList.flatMap fun (port, ofPort) =>
      [Direction.up, .down].flatMap fun side => overlappingClaims part port side ofPort

end Hookup
