import Hookup.Error
import Hookup.KeyMap

/-!
# Wiring

The connections of one instant, indexed from both ends: by the part and output port at the upper
end, and by the part and input port at the lower end.  A port of a part holds one connection on
each side, so adding a second one fails with the two that meet.

`Wiring.ofConnections` adds connection after connection; the first that meets an earlier one decides
the error, its upper end first.
-/

namespace Hookup

/-- The connections of one part on one side, by its ports. -/
abbrev PortMap := KeyMap String Connection

/-- The connections at one side of all parts. -/
abbrev PortIndex := KeyMap PartKey PortMap

/-- Connections indexed from both ends. -/
structure Wiring where
  /-- Connections by the part and port at their upper end. -/
  up : PortIndex
  /-- Connections by the part and port at their lower end. -/
  down : PortIndex
  count : Nat
deriving DecidableEq

/-- Put a connection under its terminal on a side, unless that port is taken. -/
def PortIndex.claim (index : PortIndex) (side : Direction) (c : Connection) :
    Except Error PortIndex :=
  let own := c.terminal side
  let ports := (index.get? own.key).getD .empty
  match ports.get? own.port with
  | some existing => throw (.duplicateConnection own.key own.port side existing c)
  | none => pure (index.insert own.key (ports.insert own.port c))

namespace Wiring

/-- No connections. -/
def empty : Wiring := ⟨.empty, .empty, 0⟩

/-- Add a connection at both of its ends. -/
def add (w : Wiring) (c : Connection) : Except Error Wiring := do
  let up ← w.up.claim .up c
  let down ← w.down.claim .down c
  pure ⟨up, down, w.count + 1⟩

/-- The wiring of a list of connections. -/
def ofConnections (connections : List Connection) : Except Error Wiring :=
  connections.foldlM add empty

/-- The index of one side. -/
def index (w : Wiring) : Direction → PortIndex
  | .up => w.up
  | .down => w.down

/-- The connections that have a part at their end on a side, by that part's port. -/
def portsAt? (w : Wiring) (side : Direction) (key : PartKey) : Option PortMap :=
  (w.index side).get? key

/-- The connection that has a port of a part at its end on a side. -/
def connectionAt? (w : Wiring) (side : Direction) (key : PartKey) (port : String) :
    Option Connection :=
  (w.portsAt? side key).bind (·.get? port)

/-- The parts attached to a part in a direction, ascending and without repetition. -/
def neighbours (w : Wiring) (key : PartKey) (direction : Direction) : List PartKey :=
  match w.portsAt? direction.opposite key with
  | none => []
  | some ports =>
    (KeyMap.ofList (ports.values.map fun c => ((c.terminal direction).key, ()))).keys

end Wiring

end Hookup
