/-!
# Binary numbers taken apart

Survey coordinates are 64-bit binary floating-point numbers.  To write one exactly, `Binary.parts?`
gives it as a sign, a whole mantissa and a power of two; everything after that is arithmetic on
natural numbers, with nothing rounded on the way.

A coordinate is listed with one decimal place.  `roundDiv` rounds a quotient to the nearest whole
number, a half to the even neighbour; `fixed` applies it to the exact binary value, so that what
looks like a half in decimal goes whichever way the stored number lies.  The sign is kept even when
all digits are zero.
-/

namespace Hookup

/-- The number `± mantissa · 2 ^ exponent`. -/
structure Binary where
  negative : Bool
  mantissa : Nat
  exponent : Int

namespace Binary

/-- The leading bit of a mantissa, which is not stored: `2 ^ 52`. -/
def hiddenBit : Nat := 0x10000000000000

/-- The parts of a finite number; nothing for an infinity or for what is no number. -/
def parts? (x : Float) : Option Binary :=
  let bits := x.toBits.toNat
  let field : Nat := bits / hiddenBit % 2048
  let fraction : Nat := bits % hiddenBit
  let negative := decide (bits / (2048 * hiddenBit) = 1)
  if field = 2047 then none
  else if field = 0 then some ⟨negative, fraction, -1074⟩
  else some ⟨negative, hiddenBit + fraction, (field : Int) - 1075⟩

/-- The magnitude as a fraction of natural numbers. -/
def fraction (b : Binary) : Nat × Nat :=
  (b.mantissa * Nat.pow 2 b.exponent.toNat, Nat.pow 2 (-b.exponent).toNat)

/-- The number with its fraction cut off. -/
def truncate (b : Binary) : Int :=
  let (num, den) := b.fraction
  let whole : Int := (num / den : Nat)
  if b.negative then -whole else whole

/-- The nearest whole number; a half goes away from zero. -/
def round (b : Binary) : Int :=
  let (num, den) := b.fraction
  let whole : Int := ((2 * num + den) / (2 * den) : Nat)
  if b.negative then -whole else whole

end Binary

namespace Decimal

/-! ## Fixed places -/

/-- A quotient rounded to the nearest whole number, a half to the even neighbour. -/
def roundDiv (num den : Nat) : Nat :=
  let quotient := num / den
  let rest := 2 * (num % den)
  if rest < den then quotient
  else if den < rest then quotient + 1
  else quotient + quotient % 2

/-- Decimal digits, with zeros in front up to a length. -/
def paddedDigits (length n : Nat) : List Char :=
  let digits := Nat.toDigits 10 n
  List.replicate (length - digits.length) '0' ++ digits

/-- A number with `places` digits after the point. -/
def fixed (places : Nat) (x : Float) : String :=
  match Binary.parts? x with
  | none => if x.isNaN then "NaN" else if x < 0 then "-inf" else "inf"
  | some b =>
    let (num, den) := b.fraction
    let digits := paddedDigits (places + 1) (roundDiv (num * Nat.pow 10 places) den)
    let whole := digits.take (digits.length - places)
    let after := digits.drop (digits.length - places)
    .ofList ((if b.negative then ['-'] else []) ++ whole ++
      (if places = 0 then [] else '.' :: after))

end Decimal

end Hookup
