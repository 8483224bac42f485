import Hookup.Settings.Yaml.Node

/-!
# Settings in YAML files

One document of mappings and sequences, told apart by indentation or in brackets, with plain and
quoted texts and texts that keep or fold their lines.  A key stands on one line with the colon after
it.  The reader makes nodes (`Yaml.document`), of which `YamlNode.value?` tells the value.

As the column of a character matters, the reader works on characters with their columns.  Of two
calls on the way down one takes a character, so twice the length of the text bounds the calls;
`SettingValue.ofYaml?` puts that bound in.
-/

namespace Hookup.SettingValue.Yaml

open YamlNode (absent)

/-! ## Characters with columns -/

/-- A character and the column that it stands in. -/
abbrev Mark := Char × Nat

/-- Take a value off the front of the characters. -/
abbrev MarkScan := StateT (List Mark) Option

/-- The characters of a text with their columns; all line breaks become one character. -/
def marks (column : Nat) : List Char → List Mark
  | [] => []
  | '\r' :: '\n' :: rest => ('\n', column) :: marks 0 rest
  | c :: rest =>
    if c = '\n' ∨ c = '\r' then ('\n', column) :: marks 0 rest
    else (c, column) :: marks (column + 1) rest

/-- Whether a character is a blank within a line. -/
def isBlank (c : Char) : Bool := c == ' ' || c == '\t'

/-- Whether a character is a blank or ends a line. -/
def isSpace (c : Char) : Bool := isBlank c || c == '\n'

/-- Whether a character has a meaning within brackets. -/
def isFlowMark (c : Char) : Bool := [',', '[', ']', '\x7b', '\x7d'].contains c

/-- Whether a blank or the end of the text is next. -/
def endsWord : List Mark → Bool
  | [] => true
  | (c, _) :: _ => isSpace c

/-- Whether three points or hyphens at the start of a line are next, alone or before a blank. -/
def isMarker (point : Char) : List Mark → Bool
  | (a, 0) :: (b, _) :: (c, _) :: rest => a == point && b == point && c == point && endsWord rest
  | _ => false

/-- Whether a document begins or ends here. -/
def isDocumentMark (cs : List Mark) : Bool := isMarker '-' cs || isMarker '.' cs

/-- Whether a line break has been passed, and what follows the blanks, comments and line breaks at
the front.  A comment begins a line or follows a blank. -/
def skipGap (inRemark mayRemark crossed : Bool) : List Mark → Bool × List Mark
  | [] => (crossed, [])
  | (c, column) :: rest =>
    if c = '\n' then skipGap false true true rest
    else if inRemark ∨ isBlank c then skipGap inRemark true crossed rest
    else if c = '#' ∧ mayRemark then skipGap true true crossed rest
    else (crossed, (c, column) :: rest)

/-- What follows the blanks, comments and line breaks after a token. -/
def afterGap (cs : List Mark) : Bool × List Mark := skipGap false false false cs

/-- Take blanks, comments and line breaks. -/
def gap : MarkScan Unit := modify fun cs => (afterGap cs).2

/-- Take a character. -/
def one (c : Char) : MarkScan Unit := do
  match ← get with
  | (d, _) :: rest => if d = c then set rest else failure
  | [] => failure

/-! ## Plain texts -/

/-- The characters of a plain text up to the next blank, and what follows. -/
def plainWord (inFlow : Bool) : List Mark → List Char × List Mark
  | [] => ([], [])
  | (c, column) :: rest =>
    let ends := isSpace c || (inFlow && isFlowMark c) ||
      (c == ':' && (endsWord rest || (inFlow && rest.head?.any fun next => isFlowMark next.1)))
    if ends then ([], (c, column) :: rest)
    else
      let (taken, after) := plainWord inFlow rest
      (c :: taken, after)

/-- What stands for the space between two words: a single line break becomes a blank, and of
several the first one is left out. -/
def folded (space : List Char) : List Char :=
  let breaks := space.filter (· == '\n')
  if breaks.isEmpty then space else if breaks.length = 1 then [' '] else breaks.drop 1

/-- A plain text and what follows it.  It goes on in lines that are indented to `least` or more. -/
def plainWords (inFlow : Bool) (least : Nat) (oneLine : Bool) :
    Nat → List Mark → List Char × List Mark
  | 0, cs => ([], cs)
  | fuel + 1, cs =>
    let (taken, after) := plainWord inFlow cs
    let space := (after.takeWhile fun mark => isSpace mark.1).map (·.1)
    let next := after.dropWhile fun mark => isSpace mark.1
    let crossed := space.contains '\n'
    let stops := match next with
      | [] => true
      | (c, column) :: _ => space.isEmpty || c == '#' ||
        (crossed && (oneLine || isDocumentMark next || (!inFlow && column < least)))
    if taken.isEmpty || stops then (taken, after)
    else
      let (more, rest) := plainWords inFlow least oneLine fuel next
      if more.isEmpty then (taken, after) else (taken ++ folded space ++ more, rest)

/-- Whether a character announces something else than a plain text. -/
def isSign (c : Char) : Bool :=
  ['#', '&', '*', '!', '|', '>', '\x27', '"', '%', '@', '\x60'].contains c

/-- Whether a plain text can begin here. -/
def startsPlain (inFlow : Bool) : List Mark → Bool
  | [] => false
  | (c, _) :: rest =>
    if c = '-' ∨ c = '?' ∨ c = ':' then
      !endsWord rest && !(inFlow && rest.head?.any fun next => isFlowMark next.1)
    else !isFlowMark c && !isSign c

/-- A plain text. -/
def plain (inFlow : Bool) (least : Nat) (oneLine : Bool) : MarkScan String := do
  let cs ← get
  unless startsPlain inFlow cs do failure
  let (taken, rest) := plainWords inFlow least oneLine (cs.length + 1) cs
  set rest
  return .ofList taken

/-! ## Quoted texts -/

/-- The number that hexadecimal digits of a fixed length write, and what follows them. -/
def code? (length : Nat) (cs : List Mark) : Option (Char × List Mark) := do
  let values ← (cs.take length).mapM fun mark => Json.hexValue? mark.1
  let code := values.foldl (fun n d => 16 * n + d) 0
  if values.length = length ∧ (code < 0xd800 ∨ (0xdfff < code ∧ code < 0x110000)) then
    pure (Char.ofNat code, cs.drop length)
  else none

/-- The character of an escape, and what follows it. -/
def escaped? : List Mark → Option (Char × List Mark)
  | [] => none
  | (c, _) :: rest =>
    let short : List (Char × Nat) := [('0', 0), ('a', 7), ('b', 8), ('t', 9), ('\t', 9), ('n', 10),
      ('v', 11), ('f', 12), ('r', 13), ('e', 27), (' ', 32), ('"', 34), ('\x27', 39), ('\\', 92),
      ('/', 47), ('N', 0x85), ('_', 0xa0), ('L', 0x2028), ('P', 0x2029)]
    if c = 'x' then code? 2 rest
    else if c = 'u' then code? 4 rest
    else if c = 'U' then code? 8 rest
    else (short.lookup c).map fun code => (Char.ofNat code, rest)

/-- The characters up to a closing quote.  Blanks around line breaks are folded, and a backslash at
the end of a line joins it to the next one. -/
def quotedChars (quote : Char) : Nat → MarkScan (List Char)
  | 0 => failure
  | fuel + 1 => do
    match ← get with
    | [] => failure
    | (c, column) :: rest =>
      if isSpace c then
        let cs := (c, column) :: rest
        let space := (cs.takeWhile fun mark => isSpace mark.1).map (·.1)
        set (cs.dropWhile fun mark => isSpace mark.1)
        return folded space ++ (← quotedChars quote fuel)
      else if c = quote then
        set rest
        match quote, rest with
        | '\x27', ('\x27', _) :: rest =>
          set rest
          return '\x27' :: (← quotedChars quote fuel)
        | _, _ => return []
      else if c = '\\' ∧ quote = '"' then
        match rest with
        | ('\n', _) :: rest =>
          set (rest.dropWhile fun mark => isSpace mark.1)
          quotedChars quote fuel
        | rest =>
          let (c, rest) ← escaped? rest
          set rest
          return c :: (← quotedChars quote fuel)
      else
        set rest
        return c :: (← quotedChars quote fuel)

/-- A text in quotes. -/
def quoted : MarkScan String := do
  match ← get with
  | (c, _) :: rest =>
    if c = '"' ∨ c = '\x27' then
      set rest
      return .ofList (← quotedChars c (rest.length + 1))
    else failure
  | [] => failure

/-! ## Texts of lines -/

/-- The lines of a text that are indented to a column or empty, and what follows them. -/
def linesFrom (column : Nat) : Nat → List Mark → List (List Char) × List Mark
  | 0, cs => ([], cs)
  | fuel + 1, cs =>
    let line := (cs.takeWhile fun mark => mark.1 != '\n').map (·.1)
    let rest := (cs.dropWhile fun mark => mark.1 != '\n').drop 1
    let isEmpty := line.all (· == ' ')
    if cs.isEmpty || isDocumentMark cs ||
        (!isEmpty && (line.takeWhile (· == ' ')).length < column) then ([], cs)
    else
      let (lines, after) := linesFrom column fuel rest
      (line.drop column :: lines, after)

/-- Lines with their breaks. -/
def keptLines (lines : List (List Char)) : List Char := lines.flatMap (· ++ ['\n'])

/-- Lines joined by blanks, unless one of the two is empty or begins with a blank. -/
def foldedLines : List (List Char) → List Char
  | [] => []
  | [line] => line ++ ['\n']
  | line :: next :: rest =>
    let startsBlank (l : List Char) : Bool := l.head?.any isBlank
    let between :=
      if line.isEmpty then ['\n']
      else if startsBlank line || startsBlank next then ['\n']
      else if next.isEmpty then []
      else [' ']
    line ++ between ++ foldedLines (next :: rest)

/-- A text of lines, after the sign by which it is announced; it is indented more than `parent`. -/
def lineText (keeps : Bool) (parent : Nat) : MarkScan String := do
  let cs ← get
  let isIndicator (mark : Mark) : Bool := mark.1 == '+' || mark.1 == '-' || mark.1.isDigit
  let indicators := (cs.takeWhile isIndicator).map (·.1)
  let (crossed, _) := afterGap (cs.dropWhile isIndicator)
  let body := ((cs.dropWhile isIndicator).dropWhile fun mark => mark.1 != '\n').drop 1
  unless crossed || body.isEmpty do failure
  let column := match indicators.find? Char.isDigit with
    | some digit => parent - 1 + (digit.toNat - 48)
    | none =>
      match body.dropWhile fun mark => isSpace mark.1 with
      | (_, column) :: _ => max parent column
      | [] => parent
  let (lines, rest) := linesFrom column (body.length + 1) body
  -- The line break before what follows ends the last line.
  set (if rest.isEmpty then [] else ('\n', 0) :: rest)
  let filled := (lines.reverse.dropWhile List.isEmpty).reverse
  let trailing := List.replicate (lines.length - filled.length) '\n'
  let content := if keeps then keptLines filled else foldedLines filled
  return .ofList <|
    if indicators.contains '-' then content.dropLast
    else if indicators.contains '+' then content ++ trailing
    else content

/-! ## What stands before a node -/

/-- Whether a character of a name or a tag. -/
def isNameChar (c : Char) : Bool := !isSpace c && !isFlowMark c && c != '\ufeff'

/-- A name after the sign in front of it. -/
def anchorName : MarkScan String := do
  let cs ← get
  let name := (cs.takeWhile fun mark => isNameChar mark.1).map (·.1)
  if name.isEmpty then failure
  set (cs.drop name.length)
  return .ofList name

/-- Whether a tag without pointed brackets is well-formed: its exclamation marks stand at its start,
and after two of them it goes on. -/
def isTag (word : List Char) : Bool :=
  let rest := word.dropWhile (· == '!')
  let signs := word.length - rest.length
  !rest.contains '!' && (signs == 1 || (signs == 2 && !rest.isEmpty))

/-- A tag. -/
def tag (inFlow : Bool) : MarkScan PlainKind := do
  let cs ← get
  let inPoints := (cs[1]?.map (·.1)) == some '<'
  let body := if inPoints then cs.takeWhile (·.1 != '>') else cs.takeWhile (isNameChar ·.1)
  let word := (body.map (·.1)) ++ if inPoints then ['>'] else []
  let rest := cs.drop word.length
  set rest
  let ends := endsWord rest || (inFlow && rest.head?.any fun next => isFlowMark next.1)
  unless ends && (inPoints || isTag word) do failure
  return .ofTag (.ofList word)

/-- The name of a node, and the tag on it. -/
structure Properties where
  anchor : Option String
  kind : Option PlainKind

/-- The node with its name and its tag. -/
def Properties.on (properties : Properties) (node : YamlNode) : YamlNode :=
  let node := match properties.kind with
    | none => node
    | some kind => node.tagged kind
  match properties.anchor with
  | none => node
  | some name => .anchored name node

/-- Whether a character begins a name or a tag. -/
def isProperty (c : Char) : Bool := c == '&' || c == '!'

/-- A name or a tag, in addition to what has been read. -/
def property (inFlow : Bool) (before : Properties) : MarkScan Properties := do
  match ← get with
  | ('&', _) :: rest =>
    if before.anchor.isSome then failure
    set rest
    return { before with anchor := some (← anchorName) }
  | ('!', _) :: _ =>
    if before.kind.isSome then failure
    return { before with kind := some (← tag inFlow) }
  | _ => failure

/-- The name and the tag before a node, in any order.  A repeated node has none. -/
def properties (inFlow : Bool) : MarkScan Properties := do
  let first ← property inFlow ⟨none, none⟩
  let after := (afterGap (← get)).2
  if after.head?.any fun next => isProperty next.1 then
    set after
    let both ← property inFlow first
    unless (afterGap (← get)).2.head?.all fun next => !isProperty next.1 && next.1 != '*' do failure
    return both
  else
    if after.head?.any fun next => next.1 == '*' then failure
    return first

/-- A node that is repeated by its name. -/
def repetition : MarkScan YamlNode := do
  match ← get with
  | ('*', _) :: rest =>
    set rest
    return .repeated (← anchorName)
  | _ => failure

/-! ## Brackets -/

/-- Whether a node within brackets is left out. -/
def endsFlowNode (cs : List Mark) : Bool :=
  cs.head?.any fun next => [',', ']', '\x7d', ':'].contains next.1

mutual

/-- A node within brackets. -/
def flowNode : Nat → MarkScan YamlNode
  | 0 => failure
  | fuel + 1 => do
    gap
    match ← get with
    | ('[', _) :: rest =>
      set rest
      return .sequence (← flowItems fuel)
    | ('\x7b', _) :: rest =>
      set rest
      return .mapping (← flowEntries fuel)
    | (c, _) :: _ =>
      if c = '"' ∨ c = '\x27' then return .quoted (← quoted)
      else if c = '*' then repetition
      else if isProperty c then
        let properties ← properties true
        if endsFlowNode (afterGap (← get)).2 then return properties.on absent
        else return properties.on (← flowNode fuel)
      else return .plain .free (← plain true 0 false)
    | [] => failure

/-- The node after a colon within brackets, which may be left out; nothing without a colon. -/
def flowMember : Nat → MarkScan (Option YamlNode)
  | 0 => failure
  | fuel + 1 => do
    gap
    match ← get with
    | (':', _) :: rest =>
      set rest
      if endsFlowNode (afterGap rest).2 then return some absent
      else return some (← flowNode fuel)
    | _ => return none

/-- The items up to a closing bracket.  One with a colon is a mapping. -/
def flowItems : Nat → MarkScan (List YamlNode)
  | 0 => failure
  | fuel + 1 => do
    gap
    match ← get with
    | (']', _) :: rest =>
      set rest
      return []
    | _ =>
      let first ← flowNode fuel
      let item := match ← flowMember fuel with
        | none => first
        | some member => .mapping [(first, member)]
      gap
      match ← get with
      | (',', _) :: rest =>
        set rest
        return item :: (← flowItems fuel)
      | _ =>
        one ']'
        return [item]

/-- The entries up to a closing brace. -/
def flowEntries : Nat → MarkScan (List (YamlNode × YamlNode))
  | 0 => failure
  | fuel + 1 => do
    gap
    match ← get with
    | ('\x7d', _) :: rest =>
      set rest
      return []
    | _ =>
      let key ← flowNode fuel
      let entry := (key, (← flowMember fuel).getD absent)
      gap
      match ← get with
      | (',', _) :: rest =>
        set rest
        return entry :: (← flowEntries fuel)
      | _ =>
        one '\x7d'
        return [entry]

end

/-! ## Blocks -/

/-- Whether an item of a sequence is next. -/
def startsItem : List Mark → Bool
  | ('-', _) :: rest => endsWord rest
  | _ => false

/-- A node that can be a key. -/
def keyNode : MarkScan YamlNode := do
  match ← get with
  | (c, _) :: _ =>
    if c = '"' ∨ c = '\x27' then return .quoted (← quoted)
    else if c = '*' then repetition
    else return .plain .free (← plain false 0 true)
  | [] => failure

/-- A key with the colon after it, on one line. -/
def key : MarkScan YamlNode := do
  let cs ← get
  let properties ←
    if cs.head?.any fun next => isProperty next.1 then properties false else pure ⟨none, none⟩
  modify fun cs => cs.dropWhile fun mark => isBlank mark.1
  let node ← keyNode
  let taken := (cs.take (cs.length - (← get).length)).map (·.1)
  if taken.contains '\n' then failure
  modify fun cs => cs.dropWhile fun mark => isBlank mark.1
  one ':'
  unless endsWord (← get) do failure
  return properties.on node

/-- What a node stands behind. -/
inductive Position where
  | start
  | key
  | item
deriving DecidableEq

/-- Whether what is next in a later line no longer belongs to the node of a column. -/
def endsNode (parent : Nat) (position : Position) (column : Nat) (isItem : Bool) : Bool :=
  match position with
  | .start => false
  | .key => if isItem then column < parent else column ≤ parent
  | .item => column ≤ parent

/-- The least column of what belongs to a node. -/
def leastColumn (parent : Nat) : Position → Nat
  | .start => 0
  | _ => parent + 1

mutual

/-- A node behind something in the column `parent`.  A sequence or a mapping begins a line, unless
`opens` allows it to begin here. -/
def node : Nat → Nat → Position → Bool → MarkScan YamlNode
  | 0, _, _, _ => failure
  | fuel + 1, parent, position, opens => do
    let (crossed, cs) := afterGap (← get)
    match cs with
    | [] => return absent
    | (c, column) :: rest =>
      if crossed && (isDocumentMark cs || endsNode parent position column (startsItem cs)) then
        return absent
      set cs
      let opens := crossed || opens
      if startsItem cs then
        if opens then return .sequence (← sequence fuel column) else failure
      else if c = '|' ∨ c = '>' then
        set rest
        return .quoted (← lineText (c = '|') (leastColumn parent position))
      else if (key.run cs).isSome then
        if opens then return .mapping (← mapping fuel column) else failure
      else if isProperty c then
        let properties ← properties false
        return properties.on (← node fuel parent position false)
      else if c = '*' then repetition
      else if c = '"' ∨ c = '\x27' then return .quoted (← quoted)
      else if c = '[' ∨ c = '\x7b' then flowNode fuel
      else return .plain .free (← plain false (leastColumn parent position) false)

/-- The items of a sequence in a column, from one of them on. -/
def sequence : Nat → Nat → MarkScan (List YamlNode)
  | 0, _ => failure
  | fuel + 1, column => do
    one '-'
    let item ← node fuel column .item true
    let (crossed, cs) := afterGap (← get)
    match cs with
    | (_, next) :: _ =>
      if crossed && next = column && startsItem cs && !isDocumentMark cs then
        set cs
        return item :: (← sequence fuel column)
      else return [item]
    | [] => return [item]

/-- The entries of a mapping in a column, from one of them on. -/
def mapping : Nat → Nat → MarkScan (List (YamlNode × YamlNode))
  | 0, _ => failure
  | fuel + 1, column => do
    let key ← key
    let entry := (key, ← node fuel column .key false)
    let (crossed, cs) := afterGap (← get)
    match cs with
    | (_, next) :: _ =>
      if crossed && next = column && !isDocumentMark cs then
        set cs
        return entry :: (← mapping fuel column)
      else return [entry]
    | [] => return [entry]

end

/-! ## Documents -/

/-- What follows the lines in front of a document that begin with a percent sign. -/
def skipDirectives : Nat → List Mark → List Mark
  | 0, cs => cs
  | fuel + 1, cs =>
    match (skipGap false true true cs).2 with
    | ('%', 0) :: rest => skipDirectives fuel (rest.dropWhile fun mark => mark.1 != '\n')
    | cs => cs

/-- The only document. -/
def document : MarkScan YamlNode := do
  let cs := skipDirectives (← get).length (← get)
  if cs.isEmpty then
    set cs
    return .mapping []
  let isMarked := isMarker '-' cs
  set (if isMarked then cs.drop 3 else cs)
  let root ← node (2 * cs.length + 2) 0 .start (!isMarked)
  gap
  if isMarker '.' (← get) then
    modify fun cs => cs.drop 3
    gap
  return root

end Yaml

/-- The value that a YAML file writes. -/
def ofYaml? (s : String) : Option SettingValue := do
  let (root, rest) ← Yaml.document.run (Yaml.marks 0 s.toList)
  unless rest.isEmpty do none
  let (value, _) ← root.value?.run []
  return value

end Hookup.SettingValue
