import Hookup.Text.Case
import Hookup.Text.Scan
import Hookup.Time.Calendar

/-!
# Reading dates

The pieces of which written dates consist: digits, separators, and the date and the time of day made
of them, as `Scan`s.

Two manners of writing are read.  In the strict one every number has its fixed length.  In the
lenient one months, days and times may have one digit, blanks may stand before a number, and a year
may have a sign and then any number of digits.
-/

namespace Hookup

namespace Scan

/-- A number of one or two digits, perhaps after blanks. -/
def short : Scan Nat := do
  blanks
  digits 1 (some 2)

/-- A year of up to four digits, or of any length after a sign. -/
def year : Scan Int := do
  blanks
  match ← peek with
  | some '-' =>
    one (· == '-')
    return -((← digits 1 none : Nat) : Int)
  | some '+' =>
    one (· == '+')
    return (← digits 1 none : Nat)
  | _ => return (← digits 1 (some 4) : Nat)

/-- Give a date if the calendar has it. -/
def validDate (year : Int) (month day : Nat) : Scan Date :=
  let date : Date := ⟨year, month, day⟩
  if date.isValid then return date else failure

/-- A time of day with its nanoseconds: a sixtieth second is a leap second. -/
def validClock (hour minute second : Nat) : Scan (Nat × Nat × Nat × Nat) := do
  if hour < 24 ∧ minute < 60 ∧ second ≤ 60 then
    if second = 60 then return (hour, minute, 59, 1000000000)
    else return (hour, minute, second, 0)
  else failure

/-- The nanoseconds that a point and digits write; digits beyond the ninth are dropped. -/
def fraction : Scan Nat := do
  match ← peek with
  | some '.' =>
    one (· == '.')
    let cs ← get
    let taken := cs.takeWhile Char.isDigit
    if taken.isEmpty then failure
    set (cs.dropWhile Char.isDigit)
    let nine := taken.take 9 ++ List.replicate (9 - taken.length) '0'
    return nine.foldl (fun n c => 10 * n + (c.toNat - 48)) 0
  | _ => return 0

/-- The seconds by which a time zone is ahead: a `Z`, or a sign, two digits for the hours, a
separator and two digits for the minutes. -/
def zone (separator : Scan Unit) : Scan Int := do
  let sign ← match ← peek with
    | some 'Z' => one (· == 'Z'); return 0
    | some 'z' => one (· == 'z'); return 0
    | some '+' => one (· == '+'); pure (1 : Int)
    | some '-' => one (· == '-'); pure (-1)
    | some '−' => one (· == '−'); pure (-1)
    | _ => failure
  let hours ← exactly 2
  separator
  let minutes ← exactly 2
  if hours < 24 ∧ minutes < 60 then return sign * ((hours * 3600 + minutes * 60 : Nat) : Int)
  else failure

/-- An instant shifted by its time zone, if the calendar still has it. -/
def zoned (date : Date) (clock : Nat × Nat × Nat × Nat) (fraction : Nat) (ahead : Int) :
    Scan CivilTime := do
  let (hour, minute, second, leap) := clock
  let t := CivilTime.ofDate date hour minute second (leap + fraction)
  let t := { t with seconds := t.seconds - ahead }
  if CivilTime.firstSecond ≤ t.seconds ∧ t.seconds ≤ CivilTime.lastSecond then return t
  else failure

/-- The letter or blank between a date and a time of day. -/
def dayBreak : Scan Unit := one fun c => c == 'T' || c == 't' || c == ' '

/-! ## Whole texts -/

/-- Date, time of day and zone, every number with its fixed length. -/
def strictInstant : Scan CivilTime := do
  let year ← exactly 4
  one (· == '-')
  let month ← exactly 2
  one (· == '-')
  let day ← exactly 2
  let date ← validDate year month day
  dayBreak
  let hour ← exactly 2
  one (· == ':')
  let minute ← exactly 2
  one (· == ':')
  let second ← exactly 2
  let clock ← validClock hour minute second
  let fraction ← fraction
  let ahead ← zone (one (· == ':'))
  finish
  zoned date clock fraction ahead

/-- Year, month and day with hyphens, in the lenient manner. -/
def lenientDate : Scan Date := do
  let year ← year
  one (· == '-')
  let month ← short
  one (· == '-')
  let day ← short
  validDate year month day

/-- Hour, minute and second with colons, in the lenient manner. -/
def lenientClock : Scan (Nat × Nat × Nat × Nat) := do
  let hour ← short
  one (· == ':')
  let minute ← short
  one (· == ':')
  let second ← short
  validClock hour minute second

/-- A date and a time of day without a zone. -/
def lenientLocal : Scan CivilTime := do
  let date ← lenientDate
  let (hour, minute, second, leap) ← lenientClock
  finish
  return .ofDate date hour minute second leap

/-- A date alone, which is its midnight. -/
def lenientDay : Scan CivilTime := do
  let date ← lenientDate
  finish
  return .ofDate date 0 0 0 0

/-- Year, month and day with hyphens and blanks around them, in the lenient manner. -/
def spacedDate : Scan Date := do
  let year ← year
  blanks
  one (· == '-')
  let month ← short
  blanks
  one (· == '-')
  let day ← short
  validDate year month day

/-- The text after a zone name of three letters at the front, in either case. -/
def universal? (cs : List Char) : Option (List Char) :=
  if (cs.take 3).map Char.toUpper = ['U', 'T', 'C'] then some (cs.drop 3) else none

/-- Date, time of day and zone in the lenient manner, with blanks between all parts. -/
def spacedInstant : Scan CivilTime := do
  let date ← spacedDate
  dayBreak
  let hour ← short
  blanks
  one (· == ':')
  let minute ← short
  blanks
  one (· == ':')
  let second ← short
  let clock ← validClock hour minute second
  let fraction ← fraction
  blanks
  let ahead ← match universal? (← get) with
    | some rest =>
      set rest
      pure 0
    | none => zone (modify fun cs => cs.dropWhile fun c => c == ':' || Text.isWhiteSpace c)
  blanks
  finish
  zoned date clock fraction ahead

end Scan

end Hookup
