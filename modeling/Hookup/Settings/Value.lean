import Hookup.Decimal.Reading
import Hookup.Json.Float
import Hookup.Toml.Value

/-!
# Values of settings

Settings come from files of several formats and from the environment.  All are brought to one form,
the `SettingValue`, in which a setting is read no matter where it comes from: a truth value or a
number serves as a text, but nothing else does (`SettingValue.text?`).

A name stands once in a table.  Where a file gives it twice, its last value holds (`distinct`).
-/

namespace Hookup

/-- What a setting can be. -/
inductive SettingValue where
  | nothing
  | boolean (b : Bool)
  | integer (n : Int)
  | float (x : Float)
  | text (s : String)
  | list (items : List SettingValue)
  | table (members : List (String × SettingValue))

namespace SettingValue

/-- The members of a table. -/
abbrev Members := List (String × SettingValue)

/-- Put a value under a name, in place of what is there. -/
def withMember (members : Members) (name : String) (value : SettingValue) : Members :=
  if members.any (·.1 == name) then
    members.map fun member => if member.1 = name then (name, value) else member
  else members ++ [(name, value)]

/-- Members of which each name stands once, with the last value it is given. -/
def distinct (members : Members) : Members :=
  members.foldl (fun before (name, value) => withMember before name value) []

/-! ## Numbers -/

/-- A whole number, if it fits 64 bits. -/
def ofInt? (n : Int) : Option SettingValue :=
  if -0x8000000000000000 ≤ n ∧ n < 0x8000000000000000 then some (.integer n) else none

/-- A whole number in decimal digits, perhaps with a sign, if it fits 64 bits. -/
def readInt? (s : String) : Option SettingValue :=
  let (negative, digits) := Decimal.takeSign s.toList
  if digits.isEmpty || !digits.all Char.isDigit then none
  else
    let magnitude : Int := Decimal.ofDigits (Decimal.digitValues digits)
    ofInt? (if negative then -magnitude else magnitude)

/-! ## Texts -/

/-- A value as a text. -/
def text? : SettingValue → Option String
  | text s => some s
  | integer n => some (toString n)
  | float x => some (Decimal.plain x)
  | boolean b => some (if b then "true" else "false")
  | _ => none

/-- A value as a text that may be missing. -/
def perhapsText? : SettingValue → Option (Option String)
  | nothing => some none
  | value => value.text?.map some

/-- A value as a list of texts. -/
def texts? : SettingValue → Option (List String)
  | list items => items.mapM text?
  | _ => none

/-! ## TOML -/

mutual

/-- A TOML value as the value of a setting. -/
def ofToml : Toml → SettingValue
  | .text s => text s
  | .integer n => integer n
  | .float x => float x
  | .boolean b => boolean b
  | .moment s => text s
  | .array items => list (ofTomlItems items)
  | .table _ members => table (ofTomlMembers members)
  | .tables members => list (ofTomlTables members).reverse

/-- TOML values as values of settings. -/
def ofTomlItems : List Toml → List SettingValue
  | [] => []
  | item :: rest => ofToml item :: ofTomlItems rest

/-- The members of a TOML table. -/
def ofTomlMembers : List (String × Toml) → Members
  | [] => []
  | (name, value) :: rest => (name, ofToml value) :: ofTomlMembers rest

/-- TOML tables. -/
def ofTomlTables : List (List (String × Toml)) → List SettingValue
  | [] => []
  | members :: rest => table (ofTomlMembers members) :: ofTomlTables rest

end

/-! ## JSON -/

/-- A JSON number: whole if it is written so and fits 64 bits. -/
def ofNumber? (n : JsonNumber) : Option SettingValue :=
  n.toInt?.bind ofInt? <|> n.toFloat?.map float

mutual

/-- A JSON value as the value of a setting, if arrays and objects lie in each other no deeper than
there is `room`. -/
def ofJson? (room : Nat) : Json → Option SettingValue
  | .null => some nothing
  | .bool b => some (boolean b)
  | .number n => ofNumber? n
  | .string s => s.map text
  | .array items => match room with
    | 0 => none
    | room + 1 => (ofJsonItems? room items).map list
  | .object members => match room with
    | 0 => none
    | room + 1 => (ofJsonMembers? room members).map fun members => table (distinct members)

/-- JSON values as values of settings. -/
def ofJsonItems? (room : Nat) : List Json → Option (List SettingValue)
  | [] => some []
  | item :: rest => do pure ((← ofJson? room item) :: (← ofJsonItems? room rest))

/-- The members of a JSON object. -/
def ofJsonMembers? (room : Nat) : List (Option String × Json) → Option Members
  | [] => some []
  | (name, value) :: rest => do
    pure ((← name, ← ofJson? room value) :: (← ofJsonMembers? room rest))

end

end SettingValue

end Hookup
