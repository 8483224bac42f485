import Hookup.Time.Scan

/-!
# Dates and times in TOML

A date, a time of day, or both with or without a zone, every number with its fixed length.  They are
kept as the text that says the same in one form (`Toml.momentText`): a `T` between date and time, no
zeros at the end of a fraction, and a zone of plus and minus nothing alike.
-/

namespace Hookup.Toml

/-- A date. -/
def dateText : Scan String := do
  let year ← Scan.exactly 4
  Scan.one (· == '-')
  let month ← Scan.exactly 2
  Scan.one (· == '-')
  let day ← Scan.exactly 2
  return CivilTime.dateText (← Scan.validDate year month day)

/-- A fraction of a second, if there is one. -/
def fractionText (nanoseconds : Nat) : String :=
  if nanoseconds = 0 then ""
  else
    let digits := (CivilTime.padded 9 nanoseconds).toList
    "." ++ .ofList (digits.reverse.dropWhile (· == '0')).reverse

/-- Two numbers of two digits with a colon between them. -/
def pairText (firstLimit secondLimit : Nat) : Scan String := do
  let first ← Scan.exactly 2
  Scan.one (· == ':')
  let second ← Scan.exactly 2
  if first < firstLimit ∧ second < secondLimit then
    return CivilTime.padded 2 first ++ ":" ++ CivilTime.padded 2 second
  else failure

/-- A time of day, of which the seconds may count to sixty. -/
def clockText : Scan String := do
  let hourAndMinute ← pairText 24 60
  Scan.one (· == ':')
  let second ← Scan.exactly 2
  if 60 < second then failure
  let fraction ← Scan.fraction
  return hourAndMinute ++ ":" ++ CivilTime.padded 2 second ++ fractionText fraction

/-- A zone. -/
def zoneText : Scan String := do
  match ← get with
  | '+' :: rest => set rest; return "+" ++ (← pairText 24 60)
  | '-' :: rest =>
    set rest
    let ahead ← pairText 24 60
    return (if ahead = "00:00" then "+" else "-") ++ ahead
  | c :: rest => if c = 'Z' ∨ c = 'z' then set rest; return "Z" else failure
  | [] => failure

/-- What may stand after something; nothing if it does not. -/
def perhaps (scan : Scan String) : Scan String := scan <|> pure ""

/-- A time of day after the date that it belongs to. -/
def clockAfterDate : Scan String := do
  Scan.dayBreak
  let clock ← clockText
  return "T" ++ clock ++ (← perhaps zoneText)

/-- A date, a time of day or both. -/
def momentText : Scan String :=
  (do return (← dateText) ++ (← perhaps clockAfterDate)) <|> clockText

end Hookup.Toml
