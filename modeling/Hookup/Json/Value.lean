/-!
# JSON values

A JSON text is read into a `Json` and records are read from that, so that what a text says and what
a record accepts are two questions.  To keep the second one open, nothing that a record might
object to is lost: members stay in the order of the text, with repetitions, and a number keeps
whether it was written with a fraction or an exponent.

A string holds no text (`none`) when an escape in it names half of a surrogate pair.  Such a string
is no error by itself, since it may stand where nobody reads it.
-/

namespace Hookup

/-- A number as it is written: `fraction` holds the digits after the point, empty without one. -/
structure JsonNumber where
  negative : Bool
  whole : Nat
  fraction : List Nat
  exponent : Option Int
deriving DecidableEq

/-- A JSON value, with the members of an object as they stand. -/
inductive Json where
  | null
  | bool (value : Bool)
  | number (value : JsonNumber)
  | string (text : Option String)
  | array (items : List Json)
  | object (members : List (Option String × Json))

namespace JsonNumber

/-- A whole number. -/
def ofInt (n : Int) : JsonNumber := ⟨decide (n < 0), n.natAbs, [], none⟩

/-- The value of a number written without fraction and exponent.  A zero with a minus sign counts
as written with a fraction. -/
def toInt? (n : JsonNumber) : Option Int :=
  if n.fraction.isEmpty && n.exponent.isNone then
    if n.negative then
      if n.whole = 0 then none else some (-(n.whole : Int))
    else
      some n.whole
  else
    none

end JsonNumber

namespace Json

/-- A string value. -/
def text (s : String) : Json := .string (some s)

/-- A whole number. -/
def int (n : Int) : Json := .number (.ofInt n)

/-- An object of named values. -/
def record (members : List (String × Json)) : Json :=
  .object (members.map fun (name, value) => (some name, value))

/-- A value that may be missing. -/
def ofOption {α : Type} (encode : α → Json) : Option α → Json
  | none => .null
  | some a => encode a

end Json

end Hookup
