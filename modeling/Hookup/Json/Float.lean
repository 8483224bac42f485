import Hookup.Decimal.Shortest
import Hookup.Json.Value

/-!
# Floating-point numbers in JSON

Reading collects the digits of a number into a 64-bit significand and a power of ten, ignores the
digits that no longer fit, and then multiplies or divides once by the power; for the coordinates
that occur in practice this is the nearest floating-point number.  A number beyond the largest
finite one is refused.

Writing uses the fewest digits that read back, always with a point, in positional notation from
`1e-5` to below `1e16`.
-/

namespace Hookup.JsonNumber

/-- The first number that does not fit 64 bits. -/
def wordBound : Nat := 0x10000000000000000

/-- Digits gathered so far: a significand below `wordBound`, the power of ten it counts in, and
whether a digit has been left out. -/
structure Gathered where
  significand : Nat
  exponent : Int
  full : Bool

/-- The next digit before the point.  Once one does not fit, all others only scale. -/
def Gathered.pushWhole (g : Gathered) (digit : Nat) : Gathered :=
  if g.full then { g with exponent := g.exponent + 1 }
  else if wordBound ≤ g.significand * 10 + digit then
    { g with exponent := g.exponent + 1, full := true }
  else { g with significand := g.significand * 10 + digit }

/-- The next digit after the point; digits that do not fit have no effect. -/
def Gathered.pushFraction (g : Gathered) (digit : Nat) : Gathered :=
  if g.full then g
  else if wordBound ≤ g.significand * 10 + digit then { g with full := true }
  else { g with significand := g.significand * 10 + digit, exponent := g.exponent - 1 }

/-- The power of ten as a floating-point number. -/
def powerOfTen (n : Nat) : Float := Float.ofScientific 1 false n

/-- A floating-point number times a power of ten; nothing when it gets too large. -/
def scale? (x : Float) (exponent : Int) : Option Float :=
  if exponent < -308 then
    if x == 0 then some x else scale? (x / powerOfTen 308) (exponent + 308)
  else if exponent < 0 then some (x / powerOfTen exponent.natAbs)
  else if exponent ≤ 308 then
    let y := x * powerOfTen exponent.natAbs
    if y.isInf then none else some y
  else if x == 0 then some x
  else none
termination_by exponent.natAbs
decreasing_by omega

/-- The floating-point value of a number; nothing when it is too large. -/
def toFloat? (n : JsonNumber) : Option Float := do
  let digits := (Nat.toDigits 10 n.whole).map (fun c => c.toNat - 48)
  let whole := digits.foldl Gathered.pushWhole ⟨0, 0, false⟩
  let all := n.fraction.foldl Gathered.pushFraction { whole with full := false }
  let significand := (UInt64.ofNat all.significand).toFloat
  let magnitude ← match n.exponent with
    | none => if all.exponent = 0 then some significand else scale? significand all.exponent
    | some shift =>
      -- An exponent beyond 32 bits decides by its sign alone, and a zero stays a zero.
      if 0x80000000 ≤ shift.natAbs then
        if 0 < shift ∧ all.significand ≠ 0 then none else some 0
      else scale? significand (all.exponent + shift)
  pure (if n.negative then -magnitude else magnitude)

/-- The digits of a number, most significant first. -/
def digitsOf (n : Nat) : List Nat := (Nat.toDigits 10 n).map (fun c => c.toNat - 48)

/-- The number that a list of digits writes. -/
def ofDigits (digits : List Nat) : Nat := digits.foldl (fun n d => 10 * n + d) 0

/-- A finite floating-point number as it is written; zero for any other. -/
def ofFloat (x : Float) : JsonNumber :=
  match Decimal.shortest? x with
  | none => ⟨false, 0, [0], none⟩
  | some s =>
    let digits := digitsOf s.digits
    -- The place of the point, counted from the first digit.
    let point := (digits.length : Int) + s.exponent
    if s.digits = 0 then ⟨s.negative, 0, [0], none⟩
    else if 0 ≤ s.exponent ∧ point ≤ 16 then
      ⟨s.negative, s.digits * Nat.pow 10 s.exponent.toNat, [0], none⟩
    else if 0 < point ∧ point ≤ 16 then
      ⟨s.negative, ofDigits (digits.take point.toNat), digits.drop point.toNat, none⟩
    else if -5 < point ∧ point ≤ 0 then
      ⟨s.negative, 0, List.replicate (-point).toNat 0 ++ digits, none⟩
    else
      ⟨s.negative, ofDigits (digits.take 1), digits.drop 1, some (point - 1)⟩

end Hookup.JsonNumber
