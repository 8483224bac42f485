import Hookup.Decimal.Binary
import Hookup.Time.Calendar
import Hookup.Time.Gps

/-!
# Leap seconds

Civil time is held back by a leap second now and then, GPS time is not.  The table gives the lead of
atomic time over civil time from each adjustment on; GPS time is atomic time less a constant.

From civil to GPS time the lead is looked up by civil time and the result is rounded to a second,
with 64-bit floating-point numbers on the way (a fraction of a second that lies closer to a half
than they resolve counts as the half).  Back again the lead is looked up by atomic time, so it
changes already some seconds before the adjustment.
-/

namespace Hookup

/-- Adjustments of civil time: seconds since the start of 1900, and the lead of atomic time from
then on. -/
def leapSeconds : List (Int × Int) := [
  (2272060800, 10), (2287785600, 11), (2303683200, 12), (2335219200, 13), (2366755200, 14),
  (2398291200, 15), (2429913600, 16), (2461449600, 17), (2492985600, 18), (2524521600, 19),
  (2571782400, 20), (2603318400, 21), (2634854400, 22), (2698012800, 23), (2776982400, 24),
  (2840140800, 25), (2871676800, 26), (2918937600, 27), (2950473600, 28), (2982009600, 29),
  (3029443200, 30), (3076704000, 31), (3124137600, 32), (3345062400, 33), (3439756800, 34),
  (3550089600, 35), (3644697600, 36), (3692217600, 37)]

/-- The lead of atomic time at so many nanoseconds since the start of 1900. -/
def atomicLead (nanoseconds : Int) : Int :=
  match leapSeconds.reverse.find? fun entry => decide (entry.1 * 1000000000 ≤ nanoseconds) with
  | some (_, lead) => lead
  | none => 0

/-- Seconds from the start of 1900 to the start of 1970. -/
def epochOffset : Int := 2208988800

/-- Atomic seconds from the start of 1900 to the GPS epoch. -/
def gpsOffset : Int := 2524953619

/-- Nanoseconds as a floating-point number of seconds: whole centuries, whole seconds of the last
century and the rest are added up in this order. -/
def floatSeconds (nanoseconds : Int) : Float :=
  let century : Int := 3155760000
  let centuries := nanoseconds / (century * 1000000000)
  let rest := nanoseconds % (century * 1000000000)
  Float.ofInt centuries * Float.ofInt century + Float.ofInt (rest / 1000000000) +
    Float.ofInt (rest % 1000000000) * 1e-9

/-- The GPS second nearest to an instant of civil time, of which whole microseconds count. -/
def GpsTime.ofCivil (t : CivilTime) : GpsTime :=
  let seconds := Float.ofInt t.seconds + Float.ofNat (t.nanoseconds / 1000) * 1e-6
  let nanoseconds := ((Binary.parts? (seconds * 1e9)).map Binary.truncate).getD 0
  let civil := nanoseconds + epochOffset * 1000000000
  let atomic := civil + atomicLead civil * 1000000000
  let gps := floatSeconds (atomic - gpsOffset * 1000000000)
  .ofInt (((Binary.parts? gps).map Binary.round).getD 0)

/-- The second of civil time at a GPS time; nothing outside the calendar. -/
def GpsTime.toCivil? (t : GpsTime) : Option CivilTime :=
  let atomic := t.toInt + gpsOffset
  let seconds := atomic - atomicLead (atomic * 1000000000) - epochOffset
  if CivilTime.firstSecond ≤ seconds ∧ seconds ≤ CivilTime.lastSecond then some ⟨seconds, 0⟩
  else none

end Hookup
