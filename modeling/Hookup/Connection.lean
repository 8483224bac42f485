import Hookup.Part

/-!
# Connections

A connection joins an output port of one part to an input port of another, for some time.  Both ends
are `Terminal`s; which of them is meant is said by a `Direction`, the way one looks or walks along
the signal path.
-/

namespace Hookup

/-! ## Directions -/

/-- A direction along the signal path: towards the source of the signal, or away from it. -/
inductive Direction where
  | up
  | down
deriving DecidableEq, Inhabited

namespace Direction

/-- The other direction. -/
def opposite : Direction → Direction
  | up => down
  | down => up

/-- The word for a direction. -/
def text : Direction → String
  | up => "up"
  | down => "down"

/-- The direction that a word names, in upper or lower case. -/
def ofText? (s : String) : Option Direction :=
  if Text.equalsIgnoringCase s "up" then some up
  else if Text.equalsIgnoringCase s "down" then some down
  else none

@[simp] theorem opposite_opposite (d : Direction) : d.opposite.opposite = d := by cases d <;> rfl

instance {Q : Direction → Prop} [DecidablePred Q] : Decidable (∀ side, Q side) :=
  decidable_of_iff (Q .up ∧ Q .down) ⟨fun h side => side.casesOn h.1 h.2, fun h => ⟨h .up, h .down⟩⟩

end Direction

/-! ## Connections -/

/-- One end of a connection: a port of a part. -/
structure Terminal where
  hpn : String
  rev : String
  port : String
deriving DecidableEq, Inhabited

namespace Terminal

/-- The part that the port belongs to. -/
def key (t : Terminal) : PartKey := .ofNames t.hpn t.rev

/-- The terminal with all names in canonical form. -/
def canonical (t : Terminal) : Terminal :=
  ⟨canonicalName t.hpn, canonicalName t.rev, canonicalPort t.port⟩

/-- The terminal as messages show it. -/
def text (t : Terminal) : String := t.hpn ++ ":" ++ t.rev ++ "<" ++ t.port ++ ">"

end Terminal

/-- A link by which the signal goes down: from an output port of the part at its upper end to an
input port of the part at its lower end. -/
structure Connection where
  up : Terminal
  down : Terminal
  life : Lifetime
deriving DecidableEq, Inhabited

namespace Connection

/-- The end of a connection on one side. -/
def terminal (c : Connection) : Direction → Terminal
  | .up => c.up
  | .down => c.down

/-- Whether the connection is in place. -/
def isActive (c : Connection) (t : GpsTime) : Bool := c.life.contains t

/-- The connection with all names in canonical form. -/
def canonical (c : Connection) : Connection :=
  { c with up := c.up.canonical, down := c.down.canonical }

/-- The connection as messages show it. -/
def text (c : Connection) : String :=
  c.up.text ++ " -> " ++ c.down.text ++ " @" ++ c.life.start.text

end Connection

end Hookup
