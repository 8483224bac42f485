import Hookup.Text.Basic

/-!
# Scanning texts

Dates and settings are read from the front of a text on.  A `Scan` takes a value off the front and
leaves the rest, or fails; `Scan.read?` reads a value that is the whole of a text.
-/

namespace Hookup

/-- The characters without a byte-order mark in front. -/
def Text.withoutMark : List Char → List Char
  | '\ufeff' :: rest => rest
  | cs => cs

/-- Take a value off the front of a text. -/
abbrev Scan := StateT (List Char) Option

namespace Scan

/-- The next character. -/
def peek : Scan (Option Char) := do return (← get).head?

/-- Take a character that passes a test. -/
def one (accepts : Char → Bool) : Scan Unit := do
  match ← get with
  | c :: rest => if accepts c then set rest else failure
  | [] => failure

/-- Take the blanks at the front, if any. -/
def blanks : Scan Unit := modify Text.dropBlanks

/-- Take as many digits as there are, from `least` to `most`, and give their value. -/
def digits (least : Nat) (most : Option Nat) : Scan Nat := do
  let cs ← get
  let taken := match most with
    | some most => (cs.take most).takeWhile Char.isDigit
    | none => cs.takeWhile Char.isDigit
  if taken.length < least then failure
  set (cs.drop taken.length)
  return taken.foldl (fun n c => 10 * n + (c.toNat - 48)) 0

/-- A number of exactly so many digits. -/
def exactly (length : Nat) : Scan Nat := digits length (some length)

/-- Succeed at the end of the text only. -/
def finish : Scan Unit := do
  if (← get).isEmpty then return () else failure

/-- The value that a whole text writes. -/
def read? {α : Type} (scan : Scan α) (s : String) : Option α := (scan.run s.toList).map (·.1)

end Scan

end Hookup
