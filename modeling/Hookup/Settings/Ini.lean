import Hookup.Json.Reader
import Hookup.Settings.Value
import Hookup.Text.Scan

/-!
# Settings in INI files

Keys with their texts, and sections, which are tables of their own.  A key goes up to the `=` or `:`
after it, and its value to the end of the line, in quotes or without.  A comment begins a line with
`;` or `#`, and a backslash writes characters that could not stand there otherwise.

Each step of the reader takes a character at least, so the length of the text bounds the steps;
`SettingValue.ofIni?` puts that bound in.
-/

namespace Hookup.SettingValue.Ini

/-! ## Texts -/

/-- The character after a backslash, and what follows it; nothing for the end of a line. -/
def escaped? : List Char → Option (List Char × List Char)
  | 'x' :: a :: b :: c :: d :: rest => do
    let code ← Json.hexUnit? a b c d
    if code < 0xd800 ∨ 0xdfff < code then pure ([Char.ofNat code], rest) else none
  | 'x' :: _ => none
  | '\n' :: rest => some ([], rest)
  | c :: rest =>
    let code :=
      if c = '0' then 0 else if c = 'a' then 7 else if c = 'b' then 8 else if c = 't' then 9
      else if c = 'n' then 10 else if c = 'r' then 13 else c.toNat
    some ([Char.ofNat code], rest)
  | [] => none

/-- The characters up to one that passes a test, or to the end of the text if that `mayEnd` them. -/
def upTo (isEnd : Char → Bool) (mayEnd : Bool) : Nat → Scan (List Char)
  | 0 => failure
  | fuel + 1 => do
    match ← get with
    | [] => if mayEnd then return [] else failure
    | c :: rest =>
      if isEnd c then return []
      else if c = '\\' then
        let (taken, rest) ← escaped? rest
        set rest
        return taken ++ (← upTo isEnd mayEnd fuel)
      else
        set rest
        return c :: (← upTo isEnd mayEnd fuel)

/-- The characters up to one that passes a test. -/
def through (isEnd : Char → Bool) (mayEnd : Bool) : Scan String := do
  return .ofList (← upTo isEnd mayEnd ((← get).length + 1))

/-- Whether a character ends a line. -/
def isBreak (c : Char) : Bool := c == '\n' || c == '\r'

/-- The rest of a line, without blanks around it. -/
def restOfLine : Scan String := do return Text.trim (← through isBreak true)

/-- A text up to the quote by which it was opened, and what follows on its line. -/
def quoted (quote : Char) : Scan String := do
  let s ← through (· == quote) false
  Scan.one (· == quote)
  return s ++ (← restOfLine)

/-- The value after the sign between it and its key. -/
def value : Scan String := do
  modify fun cs => cs.dropWhile fun c => Text.isWhiteSpace c && !isBreak c
  match ← get with
  | c :: rest =>
    if c = '"' ∨ c = '\x27' then
      set rest
      quoted c
    else restOfLine
  | [] => return ""

/-! ## Lines -/

/-- What has been read: the members before the first section, and the sections, the latest first. -/
structure Reading where
  top : Members
  sections : List (String × Members)

/-- A key with its value, in the latest section if there is one. -/
def Reading.add (reading : Reading) (name : String) (s : String) : Reading :=
  match reading.sections with
  | [] => { reading with top := reading.top ++ [(name, text s)] }
  | (title, members) :: earlier =>
    { reading with sections := (title, members ++ [(name, text s)]) :: earlier }

/-- The table of all that has been read. -/
def Reading.toMembers (reading : Reading) : Members :=
  distinct (reading.top ++ reading.sections.reverse.map fun (title, members) =>
    (title, table (distinct members)))

/-- The characters after the blanks at the front, and whether they begin a line. -/
def toNextItem (atStart : Bool) : List Char → Bool × List Char
  | [] => (atStart, [])
  | c :: rest =>
    if Text.isWhiteSpace c then toNextItem (c == '\n') rest else (atStart, c :: rest)

/-- Read on from the start of a line or, after a value, from its end. -/
def read : Nat → Bool → Reading → Scan Reading
  | 0, _, _ => failure
  | fuel + 1, atStart, reading => do
    let (atStart, cs) := toNextItem atStart (← get)
    match cs with
    | [] => return reading
    | '[' :: rest =>
      set rest
      let title ← through (· == ']') false
      Scan.one (· == ']')
      read fuel false { reading with sections := (Text.trim title, []) :: reading.sections }
    | c :: _ =>
      if c = ';' ∨ c = '#' then
        if !atStart then failure
        set ((cs.dropWhile (· != '\n')).drop 1)
        read fuel true reading
      else
        set cs
        let name := Text.trim (← through (fun c => c == '=' || c == ':') false)
        if name.isEmpty then failure
        Scan.one fun c => c == '=' || c == ':'
        let s ← value
        read fuel false (reading.add name s)

end Ini

/-- The members of an INI file. -/
def ofIni? (s : String) : Option Members := do
  let (reading, _) ← (Ini.read (s.length + 1) true ⟨[], []⟩).run s.toList
  pure reading.toMembers

end Hookup.SettingValue
