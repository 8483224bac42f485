import Hookup.Json.Reader
import Hookup.Settings.Value
import Hookup.Text.Scan

/-!
# Settings in RON files

Records in round brackets with names before their members, tables in braces with texts before them,
tuples and lists, `Some` and `None`.  A record may have a name of its own, which says nothing here,
and a name alone stands for nothing.  Attributes may stand in front of it all.

Of two calls on the way down one takes a character, so twice the length of the text bounds the
calls; `SettingValue.ofRon?` puts that bound in.
-/

namespace Hookup.SettingValue.Ron

/-! ## Blanks and comments -/

/-- The blanks between tokens. -/
def isBlank (c : Char) : Bool := c == ' ' || c == '\t' || c == '\n' || c == '\r'

/-- What follows the blanks and comments at the front.  Comments over several lines lie in each
other, and `depth` of them are open. -/
def skipGap (inLine : Bool) (depth : Nat) : List Char → Option (List Char)
  | [] => if depth = 0 then some [] else none
  | '*' :: '/' :: rest =>
    if inLine then skipGap true 0 rest
    else if depth = 0 then some ('*' :: '/' :: rest)
    else skipGap false (depth - 1) rest
  | '/' :: '*' :: rest =>
    if inLine then skipGap true 0 rest else skipGap false (depth + 1) rest
  | '/' :: '/' :: rest =>
    if depth = 0 then skipGap true 0 rest else skipGap inLine depth rest
  | c :: rest =>
    if inLine then skipGap (c != '\n') 0 rest
    else if 0 < depth ∨ isBlank c then skipGap false depth rest
    else some (c :: rest)

/-- Take blanks and comments. -/
def gap : Scan Unit := do set (← skipGap false 0 (← get))

/-- Take a character, and the blanks and comments after it. -/
def token (c : Char) : Scan Unit := do
  Scan.one (· == c)
  gap

/-! ## Texts -/

/-- The character that hexadecimal digits up to a closing brace name, and what follows. -/
def bracedCode? (cs : List Char) : Option (Char × List Char) := do
  let digits := cs.takeWhile (· != '\x7d')
  if digits.isEmpty || 6 < digits.length then none
  let values ← digits.mapM Json.hexValue?
  let code := values.foldl (fun n d => 16 * n + d) 0
  if code < 0xd800 ∨ (0xdfff < code ∧ code < 0x110000) then
    pure (Char.ofNat code, cs.drop (digits.length + 1))
  else none

/-- The character after a backslash, and what follows it. -/
def escaped? : List Char → Option (Char × List Char)
  | 'x' :: a :: b :: rest => do pure (Char.ofNat (← Json.hexUnit? '0' '0' a b), rest)
  | 'u' :: '\x7b' :: rest => bracedCode? rest
  | c :: rest =>
    if c = '"' ∨ c = '\\' ∨ c = '\x27' then some (c, rest)
    else if c = 'n' then some ('\n', rest)
    else if c = 'r' then some ('\r', rest)
    else if c = 't' then some ('\t', rest)
    else if c = '0' then some (Char.ofNat 0, rest)
    else none
  | [] => none

/-- The characters up to a closing quote. -/
def upTo (quote : Char) : Nat → Scan (List Char)
  | 0 => failure
  | fuel + 1 => do
    match ← get with
    | [] => failure
    | c :: rest =>
      if c = quote then
        set rest
        return []
      else if c = '\\' then
        let (c, rest) ← escaped? rest
        set rest
        return c :: (← upTo quote fuel)
      else
        set rest
        return c :: (← upTo quote fuel)

/-- The characters up to a closing quote with so many hashes after it. -/
def rawUpTo (hashes : Nat) : List Char → Option (List Char × List Char)
  | [] => none
  | c :: rest =>
    if c = '"' ∧ rest.take hashes = List.replicate hashes '#' then some ([], rest.drop hashes)
    else (rawUpTo hashes rest).map fun (taken, after) => (c :: taken, after)

/-- A text without escapes, after the letter in front of it. -/
def rawText : Scan String := do
  let cs ← get
  let hashes := (cs.takeWhile (· == '#')).length
  set (cs.drop hashes)
  Scan.one (· == '"')
  let (taken, rest) ← rawUpTo hashes (← get)
  set rest
  return .ofList taken

/-- A text in double quotes. -/
def quotedText : Scan String := do
  Scan.one (· == '"')
  return .ofList (← upTo '"' ((← get).length + 1))

/-- A character in single quotes. -/
def quotedChar : Scan String := do
  Scan.one (· == '\x27')
  match ← upTo '\x27' ((← get).length + 1) with
  | [c] => return .ofList [c]
  | _ => failure

/-! ## Words and numbers -/

/-- Whether a word can begin with a character. -/
def isWordStart (c : Char) : Bool := c.isAlpha || c == '_'

/-- The characters of words. -/
def isWordChar (c : Char) : Bool := c.isAlphanum || c == '_'

/-- The word at the front, which may be empty. -/
def word (cs : List Char) : String :=
  if cs.head?.any isWordStart then .ofList (cs.takeWhile isWordChar) else ""

/-- The characters of numbers. -/
def isNumberChar (c : Char) : Bool := isWordChar c || c == '+' || c == '-' || c == '.'

/-- A whole number in a base, after its sign, if it fits 64 bits. -/
def based? (base : Nat) (negative : Bool) (digits : List Char) : Option SettingValue := do
  let values ← digits.mapM Json.hexValue?
  if values.isEmpty || !values.all (· < base) then none
  let magnitude : Int := (values.foldl (fun n d => base * n + d) 0 : Nat)
  ofInt? (if negative then -magnitude else magnitude)

/-- A number; underscores in it count for nothing. -/
def number? (cs : List Char) : Option SettingValue :=
  let cs := cs.filter (· != '_')
  let (negative, body) := Decimal.takeSign cs
  match body with
  | '0' :: 'x' :: digits => based? 16 negative digits
  | '0' :: 'o' :: digits => based? 8 negative digits
  | '0' :: 'b' :: digits => based? 2 negative digits
  | body =>
    if body.all Char.isDigit then based? 10 negative body
    else if body = "NaN".toList then some (float (0 / 0))
    else if body = "inf".toList || !body.any Char.isAlpha || body.any Char.isDigit then
      (Decimal.read? (.ofList cs)).map float
    else none

/-! ## Values -/

/-- The kinds of brackets with values in them. -/
inductive Kind where
  | list
  | tuple
  | record
  | table
deriving DecidableEq

/-- The bracket at the end. -/
def Kind.closing : Kind → Char
  | list => ']'
  | table => '\x7d'
  | _ => ')'

/-- Whether values have names. -/
def Kind.isNamed : Kind → Bool
  | record => true
  | table => true
  | _ => false

/-- The value in brackets of a kind. -/
def Kind.value (kind : Kind) (entries : Members) : SettingValue :=
  if kind.isNamed then .table (distinct entries) else .list (entries.map (·.2))

/-- Whether round brackets hold a record, seen from behind the first of them. -/
def kindOfRound (cs : List Char) : Kind :=
  let word := word cs
  if word.isEmpty then .tuple
  else
    match skipGap false 0 (cs.drop word.length) with
    | some (':' :: _) => .record
    | _ => .tuple

/-- Take a name before a value of a kind. -/
def entryName (kind : Kind) : Scan String := do
  match kind with
  | .record =>
    let cs ← get
    let word := word cs
    if word.isEmpty then failure
    set (cs.drop word.length)
    gap
    token ':'
    return word
  | .table =>
    let s ← match ← get with
      | 'r' :: rest => set rest; rawText
      | _ => quotedText
    gap
    token ':'
    return s
  | _ => return ""

mutual

/-- A value, and the blanks and comments after it. -/
def value : Nat → Scan SettingValue
  | 0 => failure
  | fuel + 1 => do
    let cs ← get
    match cs with
    | '"' :: _ => let s ← quotedText; gap; return text s
    | '\x27' :: _ => let s ← quotedChar; gap; return text s
    | 'r' :: '"' :: rest => set ('"' :: rest); let s ← rawText; gap; return text s
    | 'r' :: '#' :: rest => set ('#' :: rest); let s ← rawText; gap; return text s
    | '[' :: _ => token '['; return Kind.value .list (← entries fuel .list)
    | '\x7b' :: _ => token '\x7b'; return Kind.value .table (← entries fuel .table)
    | '(' :: ')' :: rest => set rest; gap; return nothing
    | '(' :: _ =>
      token '('
      let kind := kindOfRound (← get)
      return kind.value (← entries fuel kind)
    | _ =>
      let word := word cs
      if word.isEmpty then
        let read ← number? (cs.takeWhile isNumberChar)
        set (cs.dropWhile isNumberChar)
        gap
        return read
      else
        set (cs.drop word.length)
        gap
        match word with
        | "true" => return boolean true
        | "false" => return boolean false
        | "inf" => return float (1e308 * 10)
        | "NaN" => return float (0 / 0)
        | "Some" =>
          token '('
          let read ← value fuel
          token ')'
          return read
        | "None" => return nothing
        | _ =>
          match ← get with
          | '(' :: _ => value fuel
          | _ => return nothing

/-- The values up to a closing bracket, each with its name if it has one. -/
def entries : Nat → Kind → Scan Members
  | 0, _ => failure
  | fuel + 1, kind => do
    if (← Scan.peek) = some kind.closing then
      token kind.closing
      return []
    else
      let name ← entryName kind
      let member ← value fuel
      if (← Scan.peek) = some ',' then
        token ','
        return (name, member) :: (← entries fuel kind)
      else
        token kind.closing
        return [(name, member)]

end

/-! ## Attributes -/

/-- The liberties that a file can take by an attribute; none of them changes a value. -/
def liberties : List String := ["implicit_some", "unwrap_newtypes", "unwrap_variant_newtypes"]

/-- The names of liberties up to the closing bracket, with commas between them. -/
def libertyNames : Nat → Scan Unit
  | 0 => failure
  | fuel + 1 => do
    let cs ← get
    let word := word cs
    unless liberties.contains word do failure
    set (cs.drop word.length)
    gap
    if (← Scan.peek) = some ',' then
      token ','
      if (← Scan.peek) = some ')' then return ()
      libertyNames fuel

/-- The attributes in front of the value. -/
def attributes : Nat → Scan Unit
  | 0 => return ()
  | fuel + 1 => do
    if (← Scan.peek) = some '#' then
      ['#', '!', '['].forM token
      let cs ← get
      unless word cs = "enable" do failure
      set (cs.drop "enable".length)
      gap
      token '('
      libertyNames fuel
      [')', ']'].forM token
      attributes fuel

end Ron

/-- The value that a RON file writes. -/
def ofRon? (s : String) : Option SettingValue :=
  let whole : Scan SettingValue := do
    Ron.gap
    Ron.attributes s.length
    let value ← Ron.value (2 * s.length + 2)
    Scan.finish
    return value
  whole.read? s

end Hookup.SettingValue
