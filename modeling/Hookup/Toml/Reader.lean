import Hookup.Text.Scan
import Hookup.Toml.Document
import Hookup.Toml.Moment
import Hookup.Toml.Scalar

/-!
# Reading TOML

The lines of a document, one after the other: headers, and keys with their values.  Texts have four
forms, with or without escapes and on one line or several; arrays may run over lines with comments
in them, tables in braces may not.

Arrays and tables in braces nest up to `deepest`, and keys have at most as many parts.  Of two calls
on the way down one takes a character, so twice the length of the text bounds the calls as well;
`Toml.parse?` puts these bounds in.
-/

namespace Hookup.Toml

/-- The blanks within a line. -/
def isBlank (c : Char) : Bool := c == ' ' || c == '\t'

/-- How deep arrays and tables in braces may lie in each other, and how many parts a key may have. -/
def deepest : Nat := 79

/-- The characters of comments. -/
def isRemark (c : Char) : Bool := c == '\t' || 0x20 ≤ c.toNat

/-- The characters of texts without escapes. -/
def isPlain (c : Char) : Bool := isRemark c && c.toNat != 0x7f

/-- Take the blanks at the front, if any. -/
def blanks : Scan Unit := modify fun cs => cs.dropWhile isBlank

/-- What follows the blanks, comments and line breaks at the front. -/
def skipGap (inComment : Bool) : List Char → Option (List Char)
  | [] => some []
  | '\n' :: rest => skipGap false rest
  | '\r' :: '\n' :: rest => skipGap false rest
  | c :: rest =>
    if inComment then
      if isRemark c then skipGap true rest else none
    else if isBlank c then skipGap false rest
    else if c = '#' then skipGap true rest
    else some (c :: rest)

/-- Take blanks, comments and line breaks. -/
def gap : Scan Unit := do set (← skipGap false (← get))

/-- What follows the end of a line, which may have a comment before it. -/
def skipLineEnd (inComment : Bool) : List Char → Option (List Char)
  | [] => some []
  | '\n' :: rest => some rest
  | '\r' :: '\n' :: rest => some rest
  | c :: rest =>
    if inComment then
      if isRemark c then skipLineEnd true rest else none
    else if isBlank c then skipLineEnd false rest
    else if c = '#' then skipLineEnd true rest
    else none

/-- Take the end of a line. -/
def lineEnd : Scan Unit := do set (← skipLineEnd false (← get))

/-! ## Texts -/

/-- The character of an escape with one letter. -/
def shortEscape? (c : Char) : Option Char :=
  if c = '"' ∨ c = '\\' then some c
  else if c = 'n' then some '\n'
  else if c = 't' then some '\t'
  else if c = 'r' then some '\r'
  else if c = 'b' then some (Char.ofNat 8)
  else if c = 'f' then some (Char.ofNat 12)
  else none

/-- The character that hexadecimal digits name. -/
def codeEscape? (digits : List Char) : Option Char :=
  if digits.all (isDigitIn 16) then
    let code := digits.foldl (fun n c => 16 * n + digitValue c) 0
    if code < 0xd800 ∨ (0xdfff < code ∧ code < 0x110000) then some (Char.ofNat code) else none
  else none

/-- Put a character before the text that is read after it. -/
def andThen (c : Option Char) (read : Option (List Char × List Char)) :
    Option (List Char × List Char) := do
  let (cs, rest) ← read
  pure ((← c) :: cs, rest)

/-- A text with escapes up to its closing quote, and what follows. -/
def basicText : List Char → Option (List Char × List Char)
  | [] => none
  | '"' :: rest => some ([], rest)
  | '\\' :: 'u' :: a :: b :: c :: d :: rest => andThen (codeEscape? [a, b, c, d]) (basicText rest)
  | '\\' :: 'U' :: a :: b :: c :: d :: e :: f :: g :: h :: rest =>
    andThen (codeEscape? [a, b, c, d, e, f, g, h]) (basicText rest)
  | '\\' :: e :: rest => andThen (shortEscape? e) (basicText rest)
  | c :: rest => if isPlain c then andThen (some c) (basicText rest) else none

/-- Whether only blanks stand before the end of the line. -/
def endsLine (cs : List Char) : Bool :=
  match cs.dropWhile isBlank with
  | '\n' :: _ => true
  | '\r' :: '\n' :: _ => true
  | _ => false

/-- A text with escapes over several lines, and what follows.  A backslash at the end of a line
takes the line break and all blanks after it away; meanwhile `joining` holds. -/
def basicLines (joining : Bool) : List Char → Option (List Char × List Char)
  | [] => none
  | '"' :: '"' :: '"' :: '"' :: '"' :: rest => some (['"', '"'], rest)
  | '"' :: '"' :: '"' :: '"' :: rest => some (['"'], rest)
  | '"' :: '"' :: '"' :: rest => some ([], rest)
  | '\n' :: rest =>
    if joining then basicLines true rest else andThen (some '\n') (basicLines false rest)
  | '\r' :: '\n' :: rest =>
    if joining then basicLines true rest else andThen (some '\n') (basicLines false rest)
  | '\\' :: 'u' :: a :: b :: c :: d :: rest =>
    andThen (codeEscape? [a, b, c, d]) (basicLines false rest)
  | '\\' :: 'U' :: a :: b :: c :: d :: e :: f :: g :: h :: rest =>
    andThen (codeEscape? [a, b, c, d, e, f, g, h]) (basicLines false rest)
  | '\\' :: e :: rest =>
    if endsLine (e :: rest) then basicLines true (e :: rest)
    else andThen (shortEscape? e) (basicLines false rest)
  | c :: rest =>
    if joining && isBlank c then basicLines true rest
    else if isPlain c then andThen (some c) (basicLines false rest)
    else none

/-- A text without escapes up to its closing apostrophe, and what follows. -/
def literalText : List Char → Option (List Char × List Char)
  | [] => none
  | '\x27' :: rest => some ([], rest)
  | c :: rest => if isPlain c then andThen (some c) (literalText rest) else none

/-- A text without escapes over several lines, and what follows. -/
def literalLines : List Char → Option (List Char × List Char)
  | [] => none
  | '\x27' :: '\x27' :: '\x27' :: '\x27' :: '\x27' :: rest => some (['\x27', '\x27'], rest)
  | '\x27' :: '\x27' :: '\x27' :: '\x27' :: rest => some (['\x27'], rest)
  | '\x27' :: '\x27' :: '\x27' :: rest => some ([], rest)
  | '\n' :: rest => andThen (some '\n') (literalLines rest)
  | '\r' :: '\n' :: rest => andThen (some '\n') (literalLines rest)
  | c :: rest => if isPlain c then andThen (some c) (literalLines rest) else none

/-- A text after its opening, less a line break that comes first. -/
def afterBreak : List Char → List Char
  | '\n' :: rest => rest
  | '\r' :: '\n' :: rest => rest
  | cs => cs

/-- A text on one line. -/
def lineText? : List Char → Option (List Char × List Char)
  | '"' :: rest => basicText rest
  | '\x27' :: rest => literalText rest
  | _ => none

/-- A text. -/
def text? : List Char → Option (List Char × List Char)
  | '"' :: '"' :: '"' :: rest => basicLines false (afterBreak rest)
  | '\x27' :: '\x27' :: '\x27' :: rest => literalLines (afterBreak rest)
  | cs => lineText? cs

/-! ## Keys -/

/-- The characters of keys without quotes. -/
def isBare (c : Char) : Bool := c.isAlphanum || c == '-' || c == '_'

/-- A part of a key: a word, or a text on one line. -/
def keyPart : Scan String := do
  let cs ← get
  let word := cs.takeWhile isBare
  if word.isEmpty then
    let (name, rest) ← lineText? cs
    set rest
    return .ofList name
  else
    set (cs.dropWhile isBare)
    return .ofList word

/-- The parts of a key with points between them: all but the last one, and that. -/
def keyParts : Nat → Scan (List String × String)
  | 0 => failure
  | fuel + 1 => do
    let name ← keyPart
    blanks
    match ← get with
    | '.' :: rest =>
      set rest
      blanks
      let (path, last) ← keyParts fuel
      return (name :: path, last)
    | _ => return ([], name)

/-- A key. -/
def key : Scan (List String × String) := keyParts deepest

/-! ## Values -/

/-- The characters of numbers and truth values. -/
def isWordChar (c : Char) : Bool := c.isAlphanum || c == '+' || c == '-' || c == '.' || c == '_'

/-- A number or truth value. -/
def word : Scan Toml := do
  let cs ← get
  set (cs.dropWhile isWordChar)
  ofWord? (cs.takeWhile isWordChar)

mutual

/-- A value at the front, in which values may lie as deep in each other as there is `room`. -/
def value : Nat → Nat → Scan Toml
  | 0, _ => failure
  | fuel + 1, room => do
    let cs ← get
    match cs, room with
    | '[' :: rest, room + 1 =>
      set rest
      gap
      return .array (← items fuel room)
    | '\x7b' :: rest, room + 1 =>
      set rest
      blanks
      match ← get with
      | '\x7d' :: rest =>
        set rest
        return .table .closed []
      | _ =>
        let entries ← entries fuel room
        inlineTable entries
    | c :: _, _ =>
      if c = '"' ∨ c = '\x27' then
        let (s, rest) ← text? cs
        set rest
        return .text (.ofList s)
      else
        Toml.moment <$> momentText <|> word
    | [], _ => failure

/-- The items of an array up to its closing bracket; a comma may stand after the last one. -/
def items : Nat → Nat → Scan (List Toml)
  | 0, _ => failure
  | fuel + 1, room => do
    match ← get with
    | ']' :: rest =>
      set rest
      return []
    | _ =>
      let item ← value fuel room
      gap
      match ← get with
      | ',' :: rest =>
        set rest
        gap
        return item :: (← items fuel room)
      | ']' :: rest =>
        set rest
        return [item]
      | _ => failure

/-- The keys and values of a table in braces from one of them to the closing brace. -/
def entries : Nat → Nat → Scan (List (List String × String × Toml))
  | 0, _ => failure
  | fuel + 1, room => do
    let (path, name) ← key
    Scan.one (· == '=')
    blanks
    let member ← value fuel room
    blanks
    match ← get with
    | ',' :: rest =>
      set rest
      blanks
      return (path, name, member) :: (← entries fuel room)
    | '\x7d' :: rest =>
      set rest
      return [(path, name, member)]
    | _ => failure

end

/-! ## Lines -/

/-- A header after its first bracket. -/
def headerLine (d : Document) : Scan Document := do
  let another ← match ← get with
    | '[' :: rest => set rest; pure true
    | _ => pure false
  blanks
  let (path, name) ← key
  Scan.one (· == ']')
  if another then Scan.one (· == ']')
  d.header path name another

/-- A key with its value. -/
def keyLine (d : Document) : Scan Document := do
  let (path, name) ← key
  Scan.one (· == '=')
  blanks
  let member ← value (2 * (← get).length + 2) deepest
  d.keyValue path name member

/-- The lines up to the end of the text. -/
def lines : Nat → Document → Scan Document
  | 0, _ => failure
  | fuel + 1, d => do
    gap
    match ← get with
    | [] => return d
    | '[' :: rest =>
      set rest
      let d ← headerLine d
      lineEnd
      lines fuel d
    | _ =>
      let d ← keyLine d
      lineEnd
      lines fuel d

/-- The table that a text writes. -/
def parse? (s : String) : Option Toml := do
  let cs := Text.withoutMark s.toList
  let (d, _) ← (lines (cs.length + 1) .empty).run cs
  pure d.toToml

end Hookup.Toml
