/-!
# GPS time

Every record is dated in whole GPS seconds, counted from the first GPS midnight (6 January 1980) as
a 64-bit number.  GPS time has no leap seconds, so it orders events and measures distances without
a calendar; conversions from and to civil time are in `Hookup.Time.LeapSecond`.
-/

namespace Hookup

/-- Whole seconds since the GPS epoch. -/
structure GpsTime where
  seconds : Int64
deriving DecidableEq

namespace GpsTime

instance : Inhabited GpsTime := ⟨⟨0⟩⟩

/-- The instant so many seconds after the epoch; meant for numbers of 64 bits. -/
def ofInt (n : Int) : GpsTime := ⟨Int64.ofInt n⟩

/-- The number after the last one of 64 bits; its negation is the first one. -/
def bound : Int := 0x8000000000000000

/-- The instant so many seconds after the epoch, if the number has 64 bits. -/
def ofInt? (n : Int) : Option GpsTime := if -bound ≤ n ∧ n < bound then some (ofInt n) else none

/-- The seconds since the epoch as an unbounded number. -/
def toInt (t : GpsTime) : Int := t.seconds.toInt

instance : LE GpsTime := ⟨fun a b => a.toInt ≤ b.toInt⟩

instance : LT GpsTime := ⟨fun a b => a.toInt < b.toInt⟩

instance (a b : GpsTime) : Decidable (a ≤ b) := inferInstanceAs (Decidable (a.toInt ≤ b.toInt))

instance (a b : GpsTime) : Decidable (a < b) := inferInstanceAs (Decidable (a.toInt < b.toInt))

theorem le_def {a b : GpsTime} : a ≤ b ↔ a.toInt ≤ b.toInt := Iff.rfl

theorem lt_def {a b : GpsTime} : a < b ↔ a.toInt < b.toInt := Iff.rfl

/-- The distance of two instants in seconds, which always fits 64 unsigned bits. -/
def distance (a b : GpsTime) : Nat := (a.toInt - b.toInt).natAbs

/-- The seconds in decimal. -/
def text (t : GpsTime) : String := toString t.toInt

/-- The later of two instants. -/
def later (a b : GpsTime) : GpsTime := if a ≤ b then b else a

/-- The earlier of two instants. -/
def earlier (a b : GpsTime) : GpsTime := if b < a then b else a

end GpsTime

/-! ## Lifetimes -/

/-- When a record is valid: from its start on and, if it has a stop, until before that. -/
structure Lifetime where
  start : GpsTime
  stop : Option GpsTime
deriving DecidableEq

namespace Lifetime

instance : Inhabited Lifetime := ⟨⟨default, none⟩⟩

/-- Whether an instant lies in the lifetime. -/
def contains (life : Lifetime) (t : GpsTime) : Bool :=
  decide (life.start ≤ t) && life.stop.all fun stop => decide (t < stop)

/-- Whether each of two lifetimes starts before the other stops. -/
def overlaps (a b : Lifetime) : Bool :=
  a.stop.all (fun stop => decide (b.start < stop)) && b.stop.all fun stop => decide (a.start < stop)

end Lifetime

end Hookup
