import Hookup.Json.Value
import Hookup.KeyMap

/-!
# Reading records from JSON

`Shape` says what a record looks like: its fields in order, which of them may be missing, and
whether others are tolerated.  `Shape.slots?` matches a value against it and gives one slot per
field, in the order of the shape; the record is then read from the slots.  All rules about fields
are here:

* a field stands once at most, and a member without a readable name is an error;
* a missing `optional` field counts as `null`, a missing `defaulted` one leaves its slot empty;
* members with other names are an error in a `closed` shape and ignored in an open one;
* a record may also be an array of its fields, of which only `defaulted` ones at the end may be
  left off.

Scalars, lists and maps have one reader each, below.
-/

namespace Hookup.Json

/-- What it means that a field is missing. -/
inductive Presence where
  | required
  | optional
  | defaulted
deriving DecidableEq

/-- The fields of a record in order, and whether there may be no others. -/
structure Shape where
  fields : List (String × Presence)
  closed : Bool

/-- The slot of a field that is missing from an object. -/
def Presence.missing? : Presence → Option (Option Json)
  | .required => none
  | .optional => some (some .null)
  | .defaulted => some none

/-- The values that the members of a name hold. -/
def membersNamed (name : String) (members : List (Option String × Json)) : List Json :=
  (members.filter fun member => member.1 = some name).map (·.2)

/-- The slot of one field of an object. -/
def fieldSlot? (members : List (Option String × Json)) (field : String × Presence) :
    Option (Option Json) :=
  match membersNamed field.1 members with
  | [] => field.2.missing?
  | [value] => some (some value)
  | _ => none

/-- Whether a member may stand in an object of the shape. -/
def Shape.allows (shape : Shape) (name : Option String) : Bool :=
  match name with
  | none => false
  | some name => !shape.closed || shape.fields.any (·.1 == name)

/-- The slots of fields that are given by position. -/
def positionSlots? : List (String × Presence) → List Json → Option (List (Option Json))
  | [], [] => some []
  | [], _ :: _ => none
  | (_, .defaulted) :: fields, [] => (positionSlots? fields []).map (none :: ·)
  | _ :: _, [] => none
  | _ :: fields, item :: items => (positionSlots? fields items).map (some item :: ·)

/-- One slot per field, empty where a default is to stand; nothing when the value does not have the
shape. -/
def Shape.slots? (shape : Shape) : Json → Option (List (Option Json))
  | .object members =>
    if members.all (shape.allows ·.1) then shape.fields.mapM (fieldSlot? members) else none
  | .array items => positionSlots? shape.fields items
  | _ => none

/-! ## Dialects -/

/-- What the languages in which records are written do not agree on. -/
structure Dialect where
  /-- Whether an array that stands for a record may go on after its fields. -/
  surplus : Bool
  /-- Whether a value beside the name of a choice adds nothing to it. -/
  isBare : Json → Bool

/-- The rules for records in JSON: nothing in addition, and `null` beside the name of a choice. -/
def Dialect.json : Dialect where
  surplus := false
  isBare
    | .null => true
    | _ => false

/-- The rules for records in TOML, which has no `null`: an empty array or table takes its place. -/
def Dialect.toml : Dialect where
  surplus := true
  isBare
    | .array [] => true
    | .object [] => true
    | _ => false

/-- The slots of a record in a dialect. -/
def Dialect.slots? (dialect : Dialect) (shape : Shape) : Json → Option (List (Option Json))
  | .array items =>
    shape.slots? (.array (if dialect.surplus then items.take shape.fields.length else items))
  | json => shape.slots? json

/-! ## Scalars, lists and maps -/

/-- A text. -/
def asText? : Json → Option String
  | .string text => text
  | _ => none

/-- A truth value. -/
def asBool? : Json → Option Bool
  | .bool value => some value
  | _ => none

/-- A whole number. -/
def asInt? : Json → Option Int
  | .number n => n.toInt?
  | _ => none

/-- A natural number up to a highest one. -/
def asNatUpTo? (highest : Nat) (json : Json) : Option Nat := do
  let value ← asInt? json
  if 0 ≤ value ∧ value ≤ highest then pure value.toNat else none

/-- A value that may be `null`. -/
def asOption? {α : Type} (read : Json → Option α) : Json → Option (Option α)
  | .null => some none
  | json => (read json).map some

/-- A list. -/
def asList? {α : Type} (read : Json → Option α) : Json → Option (List α)
  | .array items => items.mapM read
  | _ => none

/-- A map by name; of several members with one name the last stays, but all are read. -/
def asMap? {α : Type} (read : Json → Option α) : Json → Option (KeyMap String α)
  | .object members => do
    let entries ← members.mapM fun (name, value) => do pure (← name, ← read value)
    pure (.ofList entries)
  | _ => none

/-- A set of texts, as a list in which repetitions are ignored. -/
def asSet? : Json → Option (KeyMap String Unit)
  | json => do
    let items ← asList? asText? json
    pure (.ofList (items.map (·, ())))

/-- The value of a slot, or a default for an empty one. -/
def slotOr? {α : Type} (default : α) (read : Json → Option α) : Option Json → Option α
  | none => some default
  | some json => read json

/-- A map by name, in the order of the names. -/
def ofMap {α : Type} (encode : α → Json) (map : KeyMap String α) : Json :=
  .object (map.toList.map fun (name, value) => (some name, encode value))

/-- A list. -/
def ofList {α : Type} (encode : α → Json) (items : List α) : Json := .array (items.map encode)

/-- A set of texts, ascending. -/
def ofSet (set : KeyMap String Unit) : Json := ofList text set.keys

end Hookup.Json
