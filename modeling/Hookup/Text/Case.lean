import Hookup.Text.CaseTable

/-!
# Upper and lower case

Case mapping over all of Unicode.  Each character is mapped on its own and may become several, with
one exception: a capital sigma turns into `ς` at the end of a word and into `σ` elsewhere, so
`lower` looks at what stands around it.

ASCII letters are mapped without the tables (`upperChar`, `lowerChar`), which is both the common
case and what `equalsIgnoringCase` is restricted to.

Operators write part numbers, revisions and ports with stray blanks and in either case.  Every
comparison is therefore made on a canonical form: part numbers and revisions in upper case
(`canonicalName`), ports and polarizations in lower case (`canonicalPort`), both without white
space around them.
-/

namespace Hookup.Text

/-- The image of a character under expansions and runs; itself when neither lists it. -/
def mapCase (expansions : List (Nat × List Nat)) (runs : List CaseRun) (c : Char) : List Char :=
  match expansions.lookup c.toNat with
  | some codes => codes.map Char.ofNat
  | none =>
    match runs.findSome? (·.image? c.toNat) with
    | some code => [Char.ofNat code]
    | none => [c]

/-- The upper case of one character. -/
def upperChar (c : Char) : List Char :=
  if c.toNat < 0x80 then [c.toUpper] else mapCase upperExpansions upperRuns c

/-- The lower case of one character, taken by itself. -/
def lowerChar (c : Char) : List Char :=
  if c.toNat < 0x80 then [c.toLower] else mapCase lowerExpansions lowerRuns c

/-- A text in upper case. -/
def upper (s : String) : String := .ofList (s.toList.flatMap upperChar)

/-! ## Lower case and the final sigma -/

/-- Whether the first letter that counts, going along `cs`, is a cased one. -/
def meetsCased (cs : List Char) : Bool :=
  match cs.dropWhile caseIgnorableCodes.has with
  | [] => false
  | c :: _ => casedCodes.has c

/-- Lower-case characters one after the other.  `before` holds the characters already passed, the
nearest first: a sigma is final when a cased letter comes before it and none comes after it. -/
def lowerFrom (before : List Char) : List Char → List Char
  | [] => []
  | c :: rest =>
    let image :=
      if c = 'Σ' then
        if meetsCased before && !meetsCased rest then ['ς'] else ['σ']
      else
        lowerChar c
    image ++ lowerFrom (c :: before) rest

/-- A text in lower case. -/
def lower (s : String) : String := .ofList (lowerFrom [] s.toList)

/-! ## ASCII -/

/-- Whether two characters are equal up to the case of ASCII letters. -/
def sameLetter (a b : Char) : Bool := a.toLower == b.toLower

/-- Whether two texts are equal up to the case of ASCII letters. -/
def equalsIgnoringCase (s t : String) : Bool :=
  s.toList.map Char.toLower == t.toList.map Char.toLower

end Hookup.Text

namespace Hookup

/-! ## Canonical forms -/

/-- The form in which part numbers, revisions and station names are compared. -/
def canonicalName (s : String) : String := Text.upper (Text.trim s)

/-- The form in which ports and polarizations are compared. -/
def canonicalPort (s : String) : String := Text.lower (Text.trim s)

end Hookup
