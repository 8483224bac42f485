/-!
# The calendar

Dates of the Gregorian calendar, extended to all years, and their day numbers counted from
1 January 1970.  A year is taken to begin in March, so that the leap day comes last and the length
of the months before it follows one formula; 400 years have 146097 days.
-/

namespace Hookup

/-- A date; month and day count from one. -/
structure Date where
  year : Int
  month : Nat
  day : Nat
deriving DecidableEq

namespace Date

/-- Whether a year has a 29 February. -/
def isLeapYear (year : Int) : Bool := year % 4 == 0 && (year % 100 != 0 || year % 400 == 0)

/-- The number of days of a month. -/
def daysInMonth (year : Int) (month : Nat) : Nat :=
  if month = 2 then (if isLeapYear year then 29 else 28)
  else if month = 4 ∨ month = 6 ∨ month = 9 ∨ month = 11 then 30
  else 31

/-- The first and last year that dates are kept for. -/
def firstYear : Int := -262143

/-- The last year that dates are kept for. -/
def lastYear : Int := 262142

/-- Whether the calendar has the date. -/
def isValid (d : Date) : Bool :=
  decide (firstYear ≤ d.year) && decide (d.year ≤ lastYear) &&
  decide (1 ≤ d.month) && decide (d.month ≤ 12) &&
  decide (1 ≤ d.day) && decide (d.day ≤ daysInMonth d.year d.month)

/-- Days from 1 January 1970. -/
def dayNumber (d : Date) : Int :=
  let year := if d.month ≤ 2 then d.year - 1 else d.year
  let era := year / 400
  let yearOfEra := year % 400
  let monthFromMarch : Int := (d.month + 9) % 12
  let dayOfYear := (153 * monthFromMarch + 2) / 5 + d.day - 1
  let dayOfEra := yearOfEra * 365 + yearOfEra / 4 - yearOfEra / 100 + dayOfYear
  era * 146097 + dayOfEra - 719468

/-- The date so many days from 1 January 1970. -/
def ofDayNumber (days : Int) : Date :=
  let shifted := days + 719468
  let era := shifted / 146097
  let dayOfEra := shifted % 146097
  let yearOfEra := (dayOfEra - dayOfEra / 1460 + dayOfEra / 36524 - dayOfEra / 146096) / 365
  let dayOfYear := dayOfEra - (365 * yearOfEra + yearOfEra / 4 - yearOfEra / 100)
  let monthFromMarch := (5 * dayOfYear + 2) / 153
  let day := dayOfYear - (153 * monthFromMarch + 2) / 5 + 1
  let month := if monthFromMarch < 10 then monthFromMarch + 3 else monthFromMarch - 9
  let year := yearOfEra + era * 400
  ⟨if month ≤ 2 then year + 1 else year, month.toNat, day.toNat⟩

end Date

/-- An instant of civil time (UTC): seconds since the start of 1970, of which every day has 86400,
and nanoseconds.  A leap second is the second before it with a thousand million nanoseconds more. -/
structure CivilTime where
  seconds : Int
  nanoseconds : Nat
deriving DecidableEq

namespace CivilTime

/-- The seconds at which the calendar starts. -/
def firstSecond : Int := (Date.mk Date.firstYear 1 1).dayNumber * 86400

/-- The last second of the calendar. -/
def lastSecond : Int := (Date.mk (Date.lastYear + 1) 1 1).dayNumber * 86400 - 1

/-- The instant of a date and a time of day. -/
def ofDate (date : Date) (hour minute second nanoseconds : Nat) : CivilTime :=
  ⟨date.dayNumber * 86400 + (hour * 3600 + minute * 60 + second : Nat), nanoseconds⟩

/-- Digits with zeros in front up to a length. -/
def padded (length n : Nat) : String :=
  let digits := Nat.toDigits 10 n
  .ofList (List.replicate (length - digits.length) '0' ++ digits)

/-- A year: four digits, with a sign outside the years 0 to 9999. -/
def yearText (year : Int) : String :=
  if 0 ≤ year ∧ year ≤ 9999 then padded 4 year.toNat
  else (if year < 0 then "-" else "+") ++ padded 4 year.natAbs

/-- The date of an instant, and its second of the day. -/
def dateAndSecond (t : CivilTime) : Date × Nat :=
  (Date.ofDayNumber (t.seconds / 86400), (t.seconds % 86400).toNat)

/-- The date with hyphens. -/
def dateText (d : Date) : String :=
  yearText d.year ++ "-" ++ padded 2 d.month ++ "-" ++ padded 2 d.day

/-- A time of day with colons.  A leap second is counted as the sixtieth. -/
def clockText (secondOfDay nanoseconds : Nat) : String :=
  padded 2 (secondOfDay / 3600) ++ ":" ++ padded 2 (secondOfDay / 60 % 60) ++ ":" ++
    padded 2 (secondOfDay % 60 + nanoseconds / 1000000000)

/-- Date and time of day as listings show them. -/
def label (t : CivilTime) : String :=
  let (date, second) := t.dateAndSecond
  dateText date ++ " " ++ clockText second t.nanoseconds ++ " UTC"

/-- A fraction of a second with the fewest of 0, 3, 6 or 9 places that hold it. -/
def fractionText (nanoseconds : Nat) : String :=
  if nanoseconds = 0 then ""
  else if nanoseconds % 1000000 = 0 then "." ++ padded 3 (nanoseconds / 1000000)
  else if nanoseconds % 1000 = 0 then "." ++ padded 6 (nanoseconds / 1000)
  else "." ++ padded 9 nanoseconds

/-- The form of the audit log, with `T` and `Z`. -/
def stamp (t : CivilTime) : String :=
  let (date, second) := t.dateAndSecond
  dateText date ++ "T" ++ clockText second t.nanoseconds ++
    fractionText (t.nanoseconds % 1000000000) ++ "Z"

end CivilTime

end Hookup
