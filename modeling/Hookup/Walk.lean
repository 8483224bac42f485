import Hookup.ActiveSet
import Hookup.Entry
import Hookup.Topology

/-!
# Walks along the signal path

A walk leaves a part in one direction, hop after hop, for one polarization.  At each part it chooses
among the wired ports that may carry the polarization (`candidates`, `pickPort`), follows the
connection there, and goes on from the port at which it arrives.  It ends where no port can be
chosen or where the part at the far end is not in service.

No walk is endless: leaving a part twice by the same port is an error, and so is a chain longer than
there are connections.  The second bound is what the recursion of `walkWithin` counts down.

`follow` joins the walk up, turned round, with the walk down.
-/

namespace Hookup

/-- What a walk is made on: the set of one instant, the topology, and whether a choice between ports
that cannot be decided is an error. -/
structure Terrain where
  active : ActiveSet
  topology : Topology
  strict : Bool

/-- A part on a walk: the port at which the walk came to it, or starts from. -/
structure Stance where
  part : Part
  port : String

namespace Terrain

/-! ## One hop -/

/-- The ports of a part by which a walk may leave it: those that carry the polarization and are
wired on that side. -/
def candidates (w : Terrain) (direction : Direction) (pol : String) (part : Part) : List String :=
  (w.topology.portsCarrying pol part.partType).filter fun port =>
    (w.active.wiring.connectionAt? direction.opposite part.key port).isSome

/-- Whether the last letter of a part number is the initial of a polarization. -/
def namedFor (part : Part) (pol : String) : Bool :=
  match part.hpn.toList.getLast?, pol.toList.head? with
  | some last, some letter => Text.sameLetter last letter
  | _, _ => false

/-- The first port that begins with the initial of a polarization, exactly as written. -/
def withInitial? (pol : String) (ports : List String) : Option String :=
  match pol.toList.head? with
  | none => none
  | some letter => ports.find? fun port => port.toList.head? == some letter

/-- Choose among candidates.  A part named for its polarization is left by the first; a single
candidate needs no choice; then the port of arrival is preferred, and then the initial of the
polarization. -/
def pickPort (w : Terrain) (direction : Direction) (pol : String) (stance : Stance)
    (ports : List String) : Except Error (Option String) :=
  match ports with
  | [] => pure none
  | first :: others =>
    if w.topology.isSinglePol stance.part.partType && namedFor stance.part pol then
      pure (some first)
    else if others.isEmpty then pure (some first)
    else if ports.contains stance.port then pure (some stance.port)
    else
      match withInitial? pol ports with
      | some port => pure (some port)
      | none =>
        if w.strict then throw (.ambiguousPort stance.part.key pol direction ports)
        else pure none

/-- The port and connection by which a walk leaves a part, if one can be chosen. -/
def nextHop (w : Terrain) (direction : Direction) (pol : String) (stance : Stance) :
    Except Error (Option (String × Connection)) := do
  let picked ← w.pickPort direction pol stance (w.candidates direction pol stance.part)
  pure (picked.bind fun port =>
    (w.active.wiring.connectionAt? direction.opposite stance.part.key port).map (port, ·))

/-! ## Many hops -/

/-- A walk on from a stance, having left the parts and ports in `left` already. -/
def walkWithin (w : Terrain) (cap : Nat) (direction : Direction) (pol : String) (stance : Stance)
    (left : List (PartKey × String)) : Except Error (List Connection) := do
  match ← w.nextHop direction pol stance with
  | none => pure []
  | some (port, c) =>
    if _h : cap ≤ left.length ∨ (stance.part.key, port) ∈ left then
      throw (.topologyCycle stance.part.key port direction)
    else
      match w.active.part? (c.terminal direction).key with
      | none => pure []
      | some next =>
        let rest ← walkWithin w cap direction pol ⟨next, (c.terminal direction).port⟩
          ((stance.part.key, port) :: left)
        pure (c :: rest)
termination_by cap - left.length
decreasing_by
  simp only [not_or, Nat.not_le] at _h
  simp only [List.length_cons]
  omega

/-- The connections met in one direction from a stance, the nearest first. -/
def walk (w : Terrain) (direction : Direction) (pol : String) (stance : Stance) :
    Except Error (List Connection) :=
  w.walkWithin (w.active.wiring.count + 1) direction pol stance []

/-- The whole chain through a part, the connection furthest up first. -/
def follow (w : Terrain) (pol : String) (stance : Stance) : Except Error (List Connection) := do
  let above ← w.walk .up pol stance
  let below ← w.walk .down pol stance
  pure (above.reverse ++ below)

/-! ## Where walks start -/

/-- Whether a port of a part is wired on either side. -/
def isWired (w : Terrain) (part : Part) (port : String) : Bool :=
  [Direction.up, .down].any fun side =>
    (w.active.wiring.connectionAt? side part.key port).isSome

/-- The ports from which a polarization is looked for: the ports of the type that carry it alone,
or the first port of a type without such ports. -/
def declaredPorts (t : Topology) (partType pol : String) : List String :=
  let polarized := t.polarizedPorts partType
  if polarized.isEmpty then [(t.firstPort? partType).getD ""]
  else (polarized.filter (·.1 == pol)).map (·.2)

/-- A start of a walk under its hookup key. -/
structure Start where
  key : String
  pol : String
  port : String
deriving DecidableEq

/-- The starts for one polarization: the wired ports, or all declared ones if none is wired. -/
def startsFor (w : Terrain) (part : Part) (pol : String) : List Start :=
  let declared := declaredPorts w.topology part.partType pol
  let inUse := declared.filter (w.isWired part)
  (if inUse.isEmpty then declared else inUse).map fun port =>
    ⟨hookupKey pol port (declared.length == 1), pol, port⟩

/-- The starts of all walks on a part. -/
def starts (w : Terrain) (part : Part) (pols : List String) : List Start :=
  pols.flatMap (w.startsFor part)

/-- The part types along a chain; that of the part itself for a chain without connections. -/
def typesAlong (w : Terrain) (part : Part) (chain : List Connection) : List String :=
  let typeOf (key : PartKey) : String := ((w.active.part? key).map (·.partType)).getD ""
  match chain with
  | [] => [part.partType]
  | first :: _ => typeOf first.up.key :: chain.map fun c => typeOf c.down.key

end Terrain

end Hookup
