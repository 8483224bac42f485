import Hookup.Error
import Hookup.Time.LeapSecond
import Hookup.Time.Scan

/-!
# Times as operators write them

A time is given as `now`, as GPS seconds, as a date with time and zone, as a date with a time of day
in UTC, or as a date alone.  The forms are tried in this order.  What `now` stands for is up to the
caller, so reading gives a `TimeText` and needs no clock.
-/

namespace Hookup

/-- A time as it was asked for. -/
inductive TimeText where
  | now
  | at (t : GpsTime)
deriving DecidableEq

namespace TimeText

/-- A decimal number with an optional sign, if it fits 64 bits. -/
def seconds? (cs : List Char) : Option GpsTime :=
  let (negative, digits) := match cs with
    | '-' :: rest => (true, rest)
    | '+' :: rest => (false, rest)
    | cs => (false, cs)
  if digits.isEmpty || !digits.all Char.isDigit then none
  else
    let magnitude : Int := (digits.foldl (fun n c => 10 * n + (c.toNat - 48)) 0 : Nat)
    GpsTime.ofInt? (if negative then -magnitude else magnitude)

/-- The instant of civil time that a text writes. -/
def civil? (s : String) : Option CivilTime :=
  Scan.strictInstant.read? s <|> Scan.lenientLocal.read? s <|> Scan.lenientDay.read? s

/-- Read a text that is already without white space around it. -/
def readTrimmed? (s : String) : Option TimeText :=
  if Text.equalsIgnoringCase s "now" then some .now
  else (TimeText.at <$> seconds? s.toList) <|> ((TimeText.at ∘ GpsTime.ofCivil) <$> civil? s)

/-- Read a text; white space around it does not count. -/
def read (s : String) : Except Error TimeText :=
  let s := Text.trim s
  match readTrimmed? s with
  | some t => pure t
  | none => throw (.invalidTime s)

/-- The time that is meant, given the present. -/
def resolve (present : GpsTime) : TimeText → GpsTime
  | .now => present
  | .at t => t

end TimeText

end Hookup
