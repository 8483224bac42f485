import Hookup.Json.Float

/-!
# TOML values

Settings and topologies are written in TOML.  A `Toml` is a document while it is read and when it is
complete: `TableKind` tells by what a table came to be, which decides how later lines may add to it.

`Toml.toJson` forgets these differences, so that topologies are read from TOML by the rules by which
they are read from JSON.  No topology holds a date, which therefore becomes a string without a text.
-/

namespace Hookup

/-- How a table came to be. -/
inductive TableKind where
  /-- Written in braces, so that nothing can be added. -/
  | closed
  /-- Opened by a header of its own. -/
  | opened
  /-- Named on the way in the header of another one. -/
  | implied
  /-- Named on the way in a dotted key. -/
  | dotted
deriving DecidableEq

/-- A TOML value. -/
inductive Toml where
  | text (s : String)
  | integer (n : Int)
  | float (x : Float)
  | boolean (b : Bool)
  /-- A date, a time of day or both, as a text. -/
  | moment (s : String)
  | array (items : List Toml)
  | table (kind : TableKind) (members : List (String × Toml))
  /-- Tables under one repeated header, the latest first. -/
  | tables (members : List (List (String × Toml)))

namespace Toml

mutual

/-- A value as a JSON value. -/
def toJson : Toml → Json
  | text s => .text s
  | integer n => .int n
  | float x => .number (.ofFloat x)
  | boolean b => .bool b
  | moment _ => .string none
  | array items => .array (itemsToJson items)
  | table _ members => .object (membersToJson members)
  | tables members => .array (tablesToJson members).reverse

/-- Values as JSON values. -/
def itemsToJson : List Toml → List Json
  | [] => []
  | item :: rest => toJson item :: itemsToJson rest

/-- The members of a table as those of an object. -/
def membersToJson : List (String × Toml) → List (Option String × Json)
  | [] => []
  | (name, value) :: rest => (some name, toJson value) :: membersToJson rest

/-- Tables as objects. -/
def tablesToJson : List (List (String × Toml)) → List Json
  | [] => []
  | members :: rest => .object (membersToJson members) :: tablesToJson rest

end

end Toml

end Hookup
