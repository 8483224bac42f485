import Hookup.Error
import Hookup.Topology

/-!
# The catalogue of topologies

A `Catalogue` holds the topologies by name; the name of a topology is also called a hookup type.
It decides which topology governs a part (`Catalogue.hookupType?`): the one that was asked for, else
the first in the checking order that defines the type of the part.

`Catalogue.classify` then says how the hookup of a part is found: by walking from the part, or by
way of the parts that it stands for.
-/

namespace Hookup

/-- Topologies by name, with the order in which they are tried; no order means by name. -/
structure Catalogue where
  checkingOrder : List String
  topologies : KeyMap String Topology
deriving DecidableEq

/-- How the hookup of a part is found under a hookup type. -/
inductive PartRole where
  /-- By walking from the part. -/
  | physical (hookupType : String)
  /-- By way of the parts attached to it on a side. -/
  | redirect (hookupType : String) (via : Direction)
deriving DecidableEq

namespace Catalogue

/-- Fail for a catalogue without topologies. -/
def ensureConfigured (c : Catalogue) : Except Error Unit :=
  if c.topologies.isEmpty then throw .noTopology else pure ()

/-- The topology of a name. -/
def topology (c : Catalogue) (name : String) : Except Error Topology :=
  match c.topologies.get? name with
  | some t => pure t
  | none => throw (.unknownHookupType name)

/-- The names of the topologies in the order in which they are tried. -/
def tried (c : Catalogue) : List String :=
  if c.checkingOrder.isEmpty then c.topologies.keys else c.checkingOrder

/-- Whether a topology is in the catalogue and defines a part type. -/
def governs (c : Catalogue) (partType name : String) : Bool :=
  (c.topologies.get? name).any (·.defines partType)

/-- The topology that governs a part type.  A known hint always wins. -/
def hookupType? (c : Catalogue) (partType : String) (hint : Option String) :
    Except Error (Option String) := do
  c.ensureConfigured
  match hint with
  | some hint =>
    let _ ← c.topology hint
    pure (some hint)
  | none => pure (c.tried.find? (c.governs partType))

/-- How the hookup of a part is found. -/
def classify (c : Catalogue) (part : Part) (hint : Option String) : Except Error PartRole := do
  match ← c.hookupType? part.partType hint with
  | none => throw (.unknownPartType part.key part.partType)
  | some hookupType =>
    let t ← c.topology hookupType
    if t.defines part.partType then
      match t.redirectSide? part.partType with
      | some via => pure (.redirect hookupType via)
      | none => pure (.physical hookupType)
    else
      throw (.unknownPartType part.key part.partType)

/-- The first name of a list that is no topology. -/
def unknownName? (c : Catalogue) (names : List String) : Option String :=
  names.find? fun name => !c.topologies.contains name

/-- The catalogue with all ports in canonical form, if it has topologies and its checking order
names no others. -/
def validate (c : Catalogue) : Except Error Catalogue := do
  c.ensureConfigured
  match c.unknownName? c.checkingOrder with
  | some name => throw (.unknownHookupType name)
  | none => pure { c with topologies := c.topologies.mapValues Topology.canonical }

end Catalogue

end Hookup
