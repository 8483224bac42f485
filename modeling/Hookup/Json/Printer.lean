import Hookup.Json.Value

/-!
# Writing JSON

One printer serves the compact form, in which the audit log is kept, and the indented form of the
cache file and of listings.  `Layout` says what differs between them: line breaks with two blanks
per level, and a blank after a colon.

In a string only the quote, the backslash and the control characters below U+0020 are escaped, so a
written value has no line break outside the indentation.
-/

namespace Hookup.Json

/-- How a value is laid out. -/
inductive Layout where
  | compact
  | indented
deriving DecidableEq

/-- A digit below sixteen. -/
def hexDigit (n : Nat) : Char := if n < 10 then Char.ofNat (48 + n) else Char.ofNat (87 + n)

/-- How a character of a string is written. -/
def escapeChar (c : Char) : List Char :=
  if c = '"' then ['\\', '"']
  else if c = '\\' then ['\\', '\\']
  else if c.toNat < 0x20 then
    if c = '\n' then ['\\', 'n']
    else if c = '\r' then ['\\', 'r']
    else if c = '\t' then ['\\', 't']
    else if c.toNat = 8 then ['\\', 'b']
    else if c.toNat = 12 then ['\\', 'f']
    else ['\\', 'u', '0', '0', hexDigit (c.toNat / 16), hexDigit (c.toNat % 16)]
  else [c]

/-- A string between quotes.  For a string without a text, half a surrogate pair stands for it. -/
def printText : Option String → List Char
  | some s => '"' :: (s.toList.flatMap escapeChar ++ ['"'])
  | none => ['"', '\\', 'u', 'd', '8', '0', '0', '"']

/-- A digit below ten. -/
def digitChar (n : Nat) : Char := Char.ofNat (48 + n)

/-- A number. -/
def printNumber (n : JsonNumber) : List Char :=
  (if n.negative then ['-'] else []) ++ Nat.toDigits 10 n.whole ++
  (if n.fraction.isEmpty then [] else '.' :: n.fraction.map digitChar) ++
  match n.exponent with
  | none => []
  | some e => 'e' :: ((if e < 0 then ['-'] else []) ++ Nat.toDigits 10 e.natAbs)

/-- The line break before an item at a depth. -/
def lineBreak (layout : Layout) (depth : Nat) : List Char :=
  match layout with
  | .compact => []
  | .indented => '\n' :: List.replicate (2 * depth) ' '

/-- What stands between the name and the value of a member. -/
def colon (layout : Layout) : List Char :=
  match layout with
  | .compact => [':']
  | .indented => [':', ' ']

mutual

/-- A value that stands at a depth. -/
def printAt (layout : Layout) (depth : Nat) : Json → List Char
  | .null => ['n', 'u', 'l', 'l']
  | .bool true => ['t', 'r', 'u', 'e']
  | .bool false => ['f', 'a', 'l', 's', 'e']
  | .number n => printNumber n
  | .string text => printText text
  | .array [] => ['[', ']']
  | .array (item :: rest) =>
    '[' :: lineBreak layout (depth + 1) ++ printAt layout (depth + 1) item ++
      printItems layout (depth + 1) rest ++ lineBreak layout depth ++ [']']
  | .object [] => ['\x7b', '\x7d']
  | .object ((name, value) :: rest) =>
    '\x7b' :: lineBreak layout (depth + 1) ++ printText name ++ colon layout ++
      printAt layout (depth + 1) value ++
      printMembers layout (depth + 1) rest ++ lineBreak layout depth ++ ['\x7d']

/-- The items after the first one. -/
def printItems (layout : Layout) (depth : Nat) : List Json → List Char
  | [] => []
  | item :: rest =>
    ',' :: lineBreak layout depth ++ printAt layout depth item ++ printItems layout depth rest

/-- The members after the first one. -/
def printMembers (layout : Layout) (depth : Nat) : List (Option String × Json) → List Char
  | [] => []
  | (name, value) :: rest =>
    ',' :: lineBreak layout depth ++ printText name ++ colon layout ++
      printAt layout depth value ++ printMembers layout depth rest

end

/-- A value on one line. -/
def compact (json : Json) : String := .ofList (printAt .compact 0 json)

/-- A value over several lines. -/
def pretty (json : Json) : String := .ofList (printAt .indented 0 json)

end Hookup.Json
