import Hookup.Connection
import Hookup.KeyMap

/-!
# Topologies

A topology describes one kind of signal path: its part types in the order of the signal flow, the
ports of each, and the polarizations that are carried side by side.

A port carries the first polarization that shares its initial letter (`Topology.portPol?`); a port
without such a polarization carries all of them.  `Topology.portsCarrying` lists the ports by which
a signal of one polarization may enter or leave a part.
-/

namespace Hookup

/-- A part type with its input ports, where the signal arrives, and its output ports. -/
structure PartType where
  name : String
  inputs : List String
  outputs : List String
deriving DecidableEq, Inhabited

/-- A list without the later occurrences of what it holds already. -/
def firstOccurrences : List String → List String
  | [] => []
  | s :: rest => s :: (firstOccurrences rest).filter (· != s)

/-- All ports of a type, input ports first. -/
def PartType.ports (type : PartType) : List String :=
  firstOccurrences (type.inputs ++ type.outputs)

/-- One kind of signal path. -/
structure Topology where
  polarizations : List String
  /-- Part types, the one furthest up first. -/
  partTypes : List PartType
  /-- Part types that only stand for others, with the side on which those are attached. -/
  redirects : KeyMap String Direction
  /-- Part types whose part numbers end in the letter of their polarization. -/
  singlePol : KeyMap String Unit
  /-- Sequences of part types that make a complete hookup; with none given, all types in order. -/
  completePaths : List (List String)
deriving DecidableEq

/-- The initial of a label or port, in lower case if it is an ASCII letter. -/
def initial? (s : String) : Option Char := s.toList.head?.map Char.toLower

namespace Topology

/-- The type of a name. -/
def partType? (t : Topology) (name : String) : Option PartType :=
  t.partTypes.find? (·.name == name)

/-- Whether the topology has a part type. -/
def defines (t : Topology) (name : String) : Bool := (t.partType? name).isSome

/-- The ports of a part type; none for a type that is not defined. -/
def portsOf (t : Topology) (name : String) : List String :=
  ((t.partType? name).map PartType.ports).getD []

/-- The polarization that a port carries, if it carries a single one. -/
def portPol? (t : Topology) (port : String) : Option String :=
  match initial? port with
  | none => none
  | some letter => t.polarizations.find? fun pol => initial? pol == some letter

/-- Whether a signal of a polarization may pass a port. -/
def carries (t : Topology) (pol port : String) : Bool :=
  match t.portPol? port with
  | none => true
  | some own => initial? own == initial? pol

/-- The ports of a part type that a signal of a polarization may pass. -/
def portsCarrying (t : Topology) (pol partType : String) : List String :=
  (t.portsOf partType).filter (t.carries pol)

/-- The ports of a part type that carry a single polarization, each with it. -/
def polarizedPorts (t : Topology) (partType : String) : List (String × String) :=
  (t.portsOf partType).filterMap fun port => (t.portPol? port).map (·, port)

/-- The first port of a part type. -/
def firstPort? (t : Topology) (partType : String) : Option String := (t.portsOf partType).head?

/-- All part types in order. -/
def fullPath (t : Topology) : List String := t.partTypes.map (·.name)

/-- The sequences of part types that make a complete hookup. -/
def patterns (t : Topology) : List (List String) :=
  if t.completePaths.isEmpty then [t.fullPath] else t.completePaths

/-- The complete sequence that a sequence of part types is. -/
def matchingPattern? (t : Topology) (types : List String) : Option (List String) :=
  t.patterns.find? (· == types)

/-- The side on which the substitutes of a part type are attached, if it stands for others. -/
def redirectSide? (t : Topology) (partType : String) : Option Direction := t.redirects.get? partType

/-- Whether the part numbers of a type end in the letter of their polarization. -/
def isSinglePol (t : Topology) (partType : String) : Bool := t.singlePol.contains partType

/-- The topology with polarizations and ports in canonical form. -/
def canonical (t : Topology) : Topology :=
  { t with
    polarizations := t.polarizations.map canonicalPort
    partTypes := t.partTypes.map fun type =>
      { type with
        inputs := type.inputs.map canonicalPort
        outputs := type.outputs.map canonicalPort } }

end Topology

end Hookup
