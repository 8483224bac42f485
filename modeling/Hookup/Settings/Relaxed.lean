import Hookup.Json.Reader
import Hookup.Settings.Value
import Hookup.Text.Scan

/-!
# Settings in relaxed JSON

JSON with the liberties that people take when they write it by hand: comments, names without quotes,
texts in either quotes and over several lines, a comma after the last item, and numbers with a plus
sign, without digits on one side of the point, in hexadecimal, or not finite.

Of two calls on the way down one takes a character, so twice the length of the text bounds the
calls; `SettingValue.ofRelaxedJson?` puts that bound in.
-/

namespace Hookup.SettingValue.Relaxed

/-! ## Blanks and comments -/

/-- Whether a character ends a line. -/
def isBreak (c : Char) : Bool := ['\n', '\r', '\u2028', '\u2029'].contains c

/-- The blanks between tokens. -/
def isBlank (c : Char) : Bool := (Text.isWhiteSpace c && c != '\u0085') || c == '\ufeff'

/-- The kinds of comments, and the text outside of them. -/
inductive Region where
  | outside
  | line
  | block

/-- What follows the blanks and comments at the front. -/
def skipGap : Region → List Char → Option (List Char)
  | .outside, '/' :: '/' :: rest => skipGap .line rest
  | .outside, '/' :: '*' :: rest => skipGap .block rest
  | .outside, c :: rest => if isBlank c then skipGap .outside rest else some (c :: rest)
  | .line, c :: rest => skipGap (if isBreak c then .outside else .line) rest
  | .block, '*' :: '/' :: rest => skipGap .outside rest
  | .block, _ :: rest => skipGap .block rest
  | .block, [] => none
  | _, [] => some []

/-- Take blanks and comments. -/
def gap : Scan Unit := do set (← skipGap .outside (← get))

/-- Take a character, and the blanks and comments after it. -/
def token (c : Char) : Scan Unit := do
  Scan.one (· == c)
  gap

/-! ## Texts and names -/

/-- The character of an escape with one character. -/
def shortEscape? (c : Char) : Option Char :=
  if c = 'b' then some (Char.ofNat 8)
  else if c = 'f' then some (Char.ofNat 12)
  else if c = 'n' then some '\n'
  else if c = 'r' then some '\r'
  else if c = 't' then some '\t'
  else if c = 'v' then some (Char.ofNat 11)
  else if c = '0' then some (Char.ofNat 0)
  else if c.isDigit then none
  else some c

/-- The pieces of a text up to its closing quote, and what follows.  A backslash takes the line break
after it away. -/
def pieces (quote : Char) : List Char → Option (List Json.Piece × List Char)
  | [] => none
  | '\\' :: 'x' :: a :: b :: rest => do
    let code ← Json.hexUnit? '0' '0' a b
    let (taken, after) ← pieces quote rest
    pure (.unit code :: taken, after)
  | '\\' :: 'u' :: a :: b :: c :: d :: rest => do
    let code ← Json.hexUnit? a b c d
    let (taken, after) ← pieces quote rest
    pure (.unit code :: taken, after)
  | '\\' :: '\r' :: '\n' :: rest => pieces quote rest
  | '\\' :: e :: rest =>
    if isBreak e then pieces quote rest
    else if e = 'x' ∨ e = 'u' then none
    else do
      let c ← shortEscape? e
      let (taken, after) ← pieces quote rest
      pure (.char c :: taken, after)
  | c :: rest =>
    if c = quote then some ([], rest)
    else if c = '\\' ∨ isBreak c then none
    else do
      let (taken, after) ← pieces quote rest
      pure (.char c :: taken, after)

/-- A text after its opening quote. -/
def quotedText (quote : Char) : Scan String := do
  let (taken, rest) ← pieces quote (← get)
  set rest
  return .ofList (← Json.joinPieces taken)

/-- Whether a name without quotes can begin with a character. -/
def isNameStart (c : Char) : Bool :=
  c.isAlpha || c == '$' || c == '_' || (0x80 ≤ c.toNat && !isBlank c)

/-- A name without quotes. -/
def bareName : Scan String := do
  let cs ← get
  let isNameChar (c : Char) : Bool := isNameStart c || c.isDigit
  unless cs.head?.any isNameStart do failure
  set (cs.dropWhile isNameChar)
  return .ofList (cs.takeWhile isNameChar)

/-- A name. -/
def name : Scan String := do
  match ← get with
  | '"' :: rest => set rest; quotedText '"'
  | '\x27' :: rest => set rest; quotedText '\x27'
  | _ => bareName

/-! ## Numbers and words -/

/-- The characters of numbers and words. -/
def isWordChar (c : Char) : Bool := c.isAlphanum || c == '+' || c == '-' || c == '.'

/-- A number in hexadecimal digits, if it fits 32 bits. -/
def hexNumber? (digits : List Char) : Option SettingValue := do
  if digits.isEmpty then none
  let values ← digits.mapM Json.hexValue?
  let n : Nat := values.foldl (fun n d => 16 * n + d) 0
  if n < 0x100000000 then some (integer n) else none

/-- A decimal number: whole if it is written so, and then it has to fit 64 bits. -/
def decimal? (word body : List Char) : Option SettingValue :=
  let startsWell := match body with
    | '0' :: c :: _ => !c.isDigit
    | c :: _ => c.isDigit || c == '.'
    | [] => false
  if !startsWell then none
  else if body.all Char.isDigit then readInt? (.ofList word)
  else do
    let x ← Decimal.read? (.ofList word)
    if x.isInf then none else some (float x)

/-- The value that a word stands for. -/
def ofWord? (word : List Char) : Option SettingValue :=
  let s := String.ofList word
  if s = "null" then some nothing
  else if s = "true" then some (boolean true)
  else if s = "false" then some (boolean false)
  else if s = "Infinity" then some (float (1e308 * 10))
  else if s = "-Infinity" then some (float (-1e308 * 10))
  else if s = "NaN" ∨ s = "-NaN" then some (float (0 / 0))
  else
    match word with
    | '0' :: 'x' :: digits => hexNumber? digits
    | '0' :: 'X' :: digits => hexNumber? digits
    | word => decimal? word (Decimal.takeSign word).2

/-! ## Values -/

mutual

/-- A value, and the blanks and comments after it. -/
def value : Nat → Scan SettingValue
  | 0 => failure
  | fuel + 1 => do
    match ← get with
    | '[' :: rest =>
      set rest
      gap
      return list (← items fuel)
    | '\x7b' :: rest =>
      set rest
      gap
      return table (distinct (← entries fuel))
    | c :: rest =>
      if c = '"' ∨ c = '\x27' then
        set rest
        let s ← quotedText c
        gap
        return text s
      else
        set ((c :: rest).dropWhile isWordChar)
        let read ← ofWord? ((c :: rest).takeWhile isWordChar)
        gap
        return read
    | [] => failure

/-- The items of an array up to its closing bracket. -/
def items : Nat → Scan (List SettingValue)
  | 0 => failure
  | fuel + 1 => do
    match ← get with
    | ']' :: _ =>
      token ']'
      return []
    | _ =>
      let item ← value fuel
      match ← get with
      | ',' :: _ =>
        token ','
        return item :: (← items fuel)
      | _ =>
        token ']'
        return [item]

/-- The members of an object up to its closing brace. -/
def entries : Nat → Scan Members
  | 0 => failure
  | fuel + 1 => do
    match ← get with
    | '\x7d' :: _ =>
      token '\x7d'
      return []
    | _ =>
      let name ← name
      gap
      token ':'
      let member ← value fuel
      match ← get with
      | ',' :: _ =>
        token ','
        return (name, member) :: (← entries fuel)
      | _ =>
        token '\x7d'
        return [(name, member)]

end

end Relaxed

/-- The value that a text in relaxed JSON writes. -/
def ofRelaxedJson? (s : String) : Option SettingValue :=
  let whole : Scan SettingValue := do
    Relaxed.gap
    let value ← Relaxed.value (2 * s.length + 2)
    Scan.finish
    return value
  whole.read? s

end Hookup.SettingValue
