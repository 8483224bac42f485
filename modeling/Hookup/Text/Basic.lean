/-!
# Texts

What all names, paths and lines are handled with.

* `CodeSet` — a property of characters as a list of ranges of code points, which is short enough to
  be searched from the front.
* `trim` — a text without the white space around it, in which names and ports are written.  White
  space is the Unicode property of that name: the ASCII blanks, the no-break space, the typographic
  spaces and the line and paragraph separators, but not the zero-width space.
* `pieces` — a text cut at every separator, so that there is always one piece more than there are
  separators; `splitLast` cuts it at the last one only.
-/

namespace Hookup.Text

/-! ## Sets of characters -/

/-- A set of characters: ranges of code points, both ends included. -/
abbrev CodeSet := List (Nat × Nat)

/-- Whether a character lies in one of the ranges. -/
def CodeSet.has (set : CodeSet) (c : Char) : Bool :=
  set.any fun range => decide (range.1 ≤ c.toNat) && decide (c.toNat ≤ range.2)

/-! ## White space -/

/-- The Unicode white space characters. -/
def whiteSpaceCodes : CodeSet := [
  (0x9, 0xd), (0x20, 0x20), (0x85, 0x85), (0xa0, 0xa0), (0x1680, 0x1680), (0x2000, 0x200a),
  (0x2028, 0x2029), (0x202f, 0x202f), (0x205f, 0x205f), (0x3000, 0x3000)]

/-- Whether a character is white space. -/
def isWhiteSpace (c : Char) : Bool := whiteSpaceCodes.has c

/-- The characters after the white space at the start. -/
def dropBlanks (cs : List Char) : List Char := cs.dropWhile isWhiteSpace

/-- The characters before the white space at the end. -/
def dropTrailingBlanks (cs : List Char) : List Char := (dropBlanks cs.reverse).reverse

/-- The characters without white space at either end. -/
def trimBlanks (cs : List Char) : List Char := dropTrailingBlanks (dropBlanks cs)

/-- A text without the white space around it. -/
def trim (s : String) : String := .ofList (trimBlanks s.toList)

/-- A text without the white space at its end. -/
def trimEnd (s : String) : String := .ofList (dropTrailingBlanks s.toList)

/-! ## Taking texts apart -/

/-- Whether `start` is how `s` begins. -/
def beginsWith (s start : String) : Bool := start.toList.isPrefixOf s.toList

/-- Whether `ending` is how `s` ends. -/
def endsWith (s ending : String) : Bool := ending.toList.isSuffixOf s.toList

/-- The characters between separators. -/
def cut (separator : Char) : List Char → List (List Char)
  | [] => [[]]
  | c :: rest =>
    if c = separator then [] :: cut separator rest
    else
      match cut separator rest with
      | [] => [[c]]
      | piece :: others => (c :: piece) :: others

/-- The pieces of a text between separators. -/
def pieces (separator : Char) (s : String) : List String :=
  (cut separator s.toList).map String.ofList

/-- The text before and after the last separator, if there is one. -/
def splitLast (separator : Char) (s : String) : Option (String × String) :=
  match s.toList.reverse.span (· != separator) with
  | (_, []) => none
  | (after, _ :: before) => some (.ofList before.reverse, .ofList after.reverse)

end Hookup.Text
