/-!
# Reading decimals

The floating-point number nearest to a decimal one, and the ways in which settings write it.
-/

namespace Hookup.Decimal

/-- The values of digit characters. -/
def digitValues (cs : List Char) : List Nat := cs.map fun c => c.toNat - 48

/-- The number that a list of digits writes. -/
def ofDigits (digits : List Nat) : Nat := digits.foldl (fun n d => 10 * n + d) 0

/-- A number of `digits · 10 ^ exponent`; infinite when it is too large.  A number beyond
`10 ^ 400` or below `10 ^ -400` is decided without its power of ten. -/
def nearest (digits : List Nat) (exponent : Int) : Float :=
  let significand := ofDigits digits
  if significand = 0 then 0
  else if 400 < exponent then 1e308 * 10
  else if exponent + digits.length < -400 then 0
  else .ofScientific significand (exponent < 0) exponent.natAbs

/-- A sign at the front, and the characters after it. -/
def takeSign : List Char → Bool × List Char
  | '-' :: rest => (true, rest)
  | '+' :: rest => (false, rest)
  | cs => (false, cs)

/-- The exponent of a number: what follows its letter, with an optional sign. -/
def exponent? (cs : List Char) : Option Int :=
  let (negative, digits) := takeSign cs
  if digits.isEmpty || !digits.all Char.isDigit then none
  else
    let magnitude : Int := ofDigits (digitValues digits)
    some (if negative then -magnitude else magnitude)

/-- A number without a sign: digits with a point before, between or after them, and perhaps an
exponent. -/
def unsigned? (cs : List Char) : Option Float := do
  let whole := cs.takeWhile Char.isDigit
  let (fraction, rest) := match cs.dropWhile Char.isDigit with
    | '.' :: rest => (rest.takeWhile Char.isDigit, rest.dropWhile Char.isDigit)
    | rest => ([], rest)
  if whole.isEmpty && fraction.isEmpty then none
  let shift ← match rest with
    | [] => some 0
    | letter :: digits => if letter = 'e' ∨ letter = 'E' then exponent? digits else none
  some (nearest (digitValues (whole ++ fraction)) (shift - fraction.length))

/-- The words for numbers that are not finite. -/
def notFinite? (word : List Char) : Option Float :=
  let word := String.ofList (word.map Char.toLower)
  if word = "inf" ∨ word = "infinity" then some (1e308 * 10)
  else if word = "nan" then some (0 / 0)
  else none

/-- The floating-point number that a text writes. -/
def read? (s : String) : Option Float := do
  let (negative, body) := takeSign s.toList
  let magnitude ← notFinite? body <|> unsigned? body
  pure (if negative then -magnitude else magnitude)

end Hookup.Decimal
