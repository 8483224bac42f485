import Hookup.Decimal.Reading
import Hookup.Toml.Value

/-!
# TOML numbers and truth values

A value that is neither a text nor in brackets is a single word of letters, digits, signs and
points.  `Toml.ofWord?` says what it stands for: a truth value, a whole number in one of four bases,
or a floating-point number.  Underscores may stand between digits and nowhere else, and a decimal
number has no zeros in front.
-/

namespace Hookup.Toml

open Decimal

/-- Digits without the underscores between them. -/
def ungrouped? (isDigit : Char → Bool) : List Char → Option (List Char)
  | [] => none
  | [c] => if isDigit c then some [c] else none
  | c :: '_' :: rest => if isDigit c then (ungrouped? isDigit rest).map (c :: ·) else none
  | c :: rest => if isDigit c then (ungrouped? isDigit rest).map (c :: ·) else none

/-- The digits of a decimal number, which has no zeros in front. -/
def wholeDigits? (cs : List Char) : Option (List Char) :=
  (ungrouped? Char.isDigit cs).filter fun digits => digits.length = 1 || digits.head? != some '0'

/-- A whole number if it fits 64 bits. -/
def integer? (negative : Bool) (magnitude : Nat) : Option Toml :=
  let n : Int := if negative then -(magnitude : Int) else magnitude
  if -0x8000000000000000 ≤ n ∧ n < 0x8000000000000000 then some (.integer n) else none

/-- The value of a digit in a base up to sixteen. -/
def digitValue (c : Char) : Nat :=
  if c.isDigit then c.toNat - 48 else c.toLower.toNat - 87

/-- Whether a character is a digit in a base up to sixteen. -/
def isDigitIn (base : Nat) (c : Char) : Bool :=
  (c.isDigit || ('a' ≤ c.toLower && c.toLower ≤ 'f')) && digitValue c < base

/-- A whole number in a base, without a sign. -/
def based? (base : Nat) (cs : List Char) : Option Toml := do
  let digits ← ungrouped? (isDigitIn base) cs
  integer? false (digits.foldl (fun n c => base * n + digitValue c) 0)

/-- The digits of a fraction, none without a point, and what follows. -/
def fraction? : List Char → Option (List Char × List Char)
  | '.' :: rest => do
    let inGroups (c : Char) : Bool := c.isDigit || c == '_'
    pure (← ungrouped? Char.isDigit (rest.takeWhile inGroups), rest.dropWhile inGroups)
  | cs => some ([], cs)

/-- The power of ten that a number is shifted by, if it has one. -/
def shift? : List Char → Option (Option Int)
  | [] => some none
  | letter :: rest =>
    if letter = 'e' ∨ letter = 'E' then do
      let (negative, digits) := takeSign rest
      let magnitude : Int := ofDigits (digitValues (← ungrouped? Char.isDigit digits))
      pure (some (if negative then -magnitude else magnitude))
    else none

/-- A decimal number after its sign: whole unless it has a fraction or is shifted.  One that is too
large is refused, and one that is too small becomes infinite. -/
def decimal? (negative : Bool) (cs : List Char) : Option Toml := do
  let inGroups (c : Char) : Bool := c.isDigit || c == '_'
  let whole ← wholeDigits? (cs.takeWhile inGroups)
  let (fraction, rest) ← fraction? (cs.dropWhile inGroups)
  let shift ← shift? rest
  if fraction.isEmpty && shift.isNone then integer? negative (ofDigits (digitValues whole))
  else
    let x := nearest (digitValues (whole ++ fraction)) (shift.getD 0 - fraction.length)
    if x.isInf && !negative then none else pure (.float (if negative then -x else x))

/-- The value that a word stands for. -/
def ofWord? (word : List Char) : Option Toml :=
  match word with
  | ['t', 'r', 'u', 'e'] => some (.boolean true)
  | ['f', 'a', 'l', 's', 'e'] => some (.boolean false)
  | '0' :: 'x' :: digits => based? 16 digits
  | '0' :: 'o' :: digits => based? 8 digits
  | '0' :: 'b' :: digits => based? 2 digits
  | word =>
    match takeSign word with
    | (negative, ['i', 'n', 'f']) => some (.float (if negative then -1e308 * 10 else 1e308 * 10))
    | (_, ['n', 'a', 'n']) => some (.float (0 / 0))
    | (negative, body) => decimal? negative body

end Hookup.Toml
