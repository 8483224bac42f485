import Hookup.Decimal.Binary

/-!
# The fewest digits that read back

A stored coordinate is written with the fewest decimal digits from which the same binary number is
read again, and among those with the digits nearest to its value.  `shortest?` looks for them one
length after the other, up to the seventeen digits that always suffice.  For each length only the
two neighbours of the value on the grid of that length can lie in the interval of reals that round
to it, so only these are tried, in exact arithmetic.
-/

namespace Hookup.Decimal

/-- The number `± digits · 10 ^ exponent`, where `digits` is zero or does not end in a zero. -/
structure Shortest where
  negative : Bool
  digits : Nat
  exponent : Int

/-- A positive value with the interval of reals that round to it, over one denominator; the ends
belong to it when `closed`. -/
structure Interval where
  low : Nat
  value : Nat
  high : Nat
  den : Nat
  closed : Bool

/-- The interval of a binary number.  Below a power of two the neighbours lie half as close. -/
def Interval.ofBinary (b : Binary) : Interval :=
  let (num, den) := b.fraction
  let unit := Nat.pow 2 b.exponent.toNat
  let below := if b.mantissa = Binary.hiddenBit ∧ -1074 < b.exponent then unit else 2 * unit
  ⟨4 * num - below, 4 * num, 4 * num + 2 * unit, 4 * den, b.mantissa % 2 = 0⟩

/-- The exponent of the first decimal digit of a positive quotient. -/
def leadingPlace (num den : Nat) : Int :=
  if den ≤ num then
    ((Nat.toDigits 10 (num / den)).length : Int) - 1
  else
    match (List.range 400).find? fun places => decide (den ≤ num * Nat.pow 10 places) with
    | some places => -(places : Int)
    | none => 0

/-- The nearer neighbour on the grid of multiples of `10 ^ place`, of those inside the interval. -/
def Interval.gridPoint? (i : Interval) (place : Int) : Option Nat :=
  let scale := Nat.pow 10 (-place).toNat
  let unit := i.den * Nat.pow 10 place.toNat
  let inside (n : Nat) : Bool :=
    if i.closed then decide (i.low * scale ≤ n * unit) && decide (n * unit ≤ i.high * scale)
    else decide (i.low * scale < n * unit) && decide (n * unit < i.high * scale)
  let floor := i.value * scale / unit
  let rest := i.value * scale % unit
  match inside floor, inside (floor + 1) with
  | true, true =>
    let takesFloor := 2 * rest < unit ∨ (2 * rest = unit ∧ floor % 2 = 0)
    some (if takesFloor then floor else floor + 1)
  | true, false => some floor
  | false, true => some (floor + 1)
  | false, false => none

/-- Take the zeros off the end of a positive number, counting them into an exponent. -/
def dropZeros (digits : Nat) (exponent : Int) : Nat × Int :=
  if h : 0 < digits ∧ digits % 10 = 0 then dropZeros (digits / 10) (exponent + 1)
  else (digits, exponent)
termination_by digits
decreasing_by omega

/-- The fewest digits that read back as the same number; nothing for what is not finite. -/
def shortest? (x : Float) : Option Shortest :=
  (Binary.parts? x).map fun b =>
    if b.mantissa = 0 then ⟨b.negative, 0, 0⟩
    else
      let i := Interval.ofBinary b
      let lead := leadingPlace i.value i.den
      let found := (List.range 17).findSome? fun (n : Nat) =>
        (i.gridPoint? (lead - n)).map fun digits => (digits, lead - (n : Int))
      let (digits, exponent) := found.getD (0, 0)
      let (digits, exponent) := dropZeros digits exponent
      ⟨b.negative, digits, exponent⟩

/-- The number written without an exponent and, when whole, without a point. -/
def plain (x : Float) : String :=
  match shortest? x with
  | none => if x.isNaN then "NaN" else if x < 0 then "-inf" else "inf"
  | some s =>
    let digits := Nat.toDigits 10 s.digits
    let sign := if s.negative then ['-'] else []
    let body :=
      if 0 ≤ s.exponent then digits ++ List.replicate s.exponent.toNat '0'
      else
        let places := (-s.exponent).toNat
        let padded := List.replicate (places + 1 - digits.length) '0' ++ digits
        padded.take (padded.length - places) ++ '.' :: padded.drop (padded.length - places)
    .ofList (sign ++ body)

end Hookup.Decimal
