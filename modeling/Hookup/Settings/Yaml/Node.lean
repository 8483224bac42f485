import Hookup.Json.Reader
import Hookup.Settings.Value

/-!
# Nodes of YAML documents

A document is put together from texts, sequences and mappings.  A tag tells as what a plain text is
to be read (`PlainKind`); without one it is read as what it looks like.  An anchor gives a node a
name, by which the node can be repeated further on.

`YamlNode.value?` reads the nodes in the order in which they are written, and keeps what the anchors
stand for as it goes.
-/

namespace Hookup

/-! ## Plain texts -/

/-- As what a plain text is to be read. -/
inductive PlainKind where
  /-- As what it looks like. -/
  | free
  | nothing
  | boolean
  | integer
  | float
  | text
deriving DecidableEq

namespace PlainKind

/-- The words for numbers that are not finite, which settings do not take. -/
def isInfinity (s : String) : Bool :=
  [".inf", ".Inf", ".INF", "+.inf", "+.Inf", "+.INF", "-.inf", "-.Inf", "-.INF", ".nan",
    ".NAN"].contains s

/-- A whole number in a base, if it fits 64 bits. -/
def based? (base : Nat) (digits : List Char) : Option SettingValue := do
  let (negative, digits) := Decimal.takeSign digits
  let values ← digits.mapM Json.hexValue?
  if values.isEmpty || !values.all (· < base) then none
  let magnitude : Int := (values.foldl (fun n d => base * n + d) 0 : Nat)
  SettingValue.ofInt? (if negative then -magnitude else magnitude)

/-- A number that need not be whole; something else is nothing. -/
def floatValue? (s : String) : Option SettingValue :=
  if isInfinity s then none
  else some (((Decimal.read? s).map SettingValue.float).getD .nothing)

/-- The value that a plain text looks like. -/
def freeValue? (s : String) : Option SettingValue :=
  let inBase := match s.toList with
    | '0' :: 'x' :: digits => based? 16 digits
    | '0' :: 'o' :: digits => based? 8 digits
    | _ => none
  match inBase with
  | some n => some n
  | none =>
    if s = "" ∨ s = "~" ∨ s = "null" then some .nothing
    else if s = "true" then some (.boolean true)
    else if s = "false" then some (.boolean false)
    else if isInfinity s then none
    else
      let number := SettingValue.readInt? s <|> (Decimal.read? s).map SettingValue.float
      some (number.getD (.text s))

/-- The value of a plain text.  One that is not what it should be is nothing. -/
def value? (s : String) : PlainKind → Option SettingValue
  | free => freeValue? s
  | nothing => some .nothing
  | boolean =>
    some (if s = "true" then .boolean true else if s = "false" then .boolean false else .nothing)
  | integer => some ((SettingValue.readInt? s).getD .nothing)
  | float => floatValue? s
  | text => some (.text s)

/-- The tags that tell more than that a text is a text. -/
def ofTag (tag : String) : PlainKind :=
  ([("!!null", nothing), ("!!bool", boolean), ("!!int", integer), ("!!float", float)].lookup
    tag).getD text

end PlainKind

/-! ## Nodes -/

/-- What a document is put together from. -/
inductive YamlNode where
  | plain (kind : PlainKind) (s : String)
  /-- A text in quotes, or one of lines. -/
  | quoted (s : String)
  | sequence (items : List YamlNode)
  | mapping (entries : List (YamlNode × YamlNode))
  | anchored (name : String) (node : YamlNode)
  /-- The latest node before this one that has the name. -/
  | repeated (name : String)

namespace YamlNode

/-- The node that stands where nothing is written. -/
def absent : YamlNode := plain .free ""

/-- A node under a tag, which only a plain text is touched by. -/
def tagged (kind : PlainKind) : YamlNode → YamlNode
  | plain _ s => plain kind s
  | node => node

/-- What names stand for, the latest first. -/
abbrev Anchors := List (String × SettingValue)

/-- The name that a key is; whole numbers serve as names. -/
def name? : SettingValue → Option String
  | .text s => some s
  | .integer n => some (toString n)
  | _ => none

mutual

/-- The value of a node.  Within itself, a node with a name is nothing. -/
def value? : YamlNode → StateT Anchors Option SettingValue
  | plain kind s => liftM (kind.value? s)
  | quoted s => return .text s
  | sequence items => return .list (← values? items)
  | mapping entries => return .table (SettingValue.distinct (← members? entries))
  | anchored name node => do
    let before ← get
    set ((name, SettingValue.nothing) :: before)
    let value ← value? node
    modify fun after => after.take (after.length - before.length - 1) ++ (name, value) :: before
    return value
  | repeated name => do liftM ((← get).lookup name)

/-- The values of nodes. -/
def values? : List YamlNode → StateT Anchors Option (List SettingValue)
  | [] => return []
  | node :: rest => return (← value? node) :: (← values? rest)

/-- The members of a mapping. -/
def members? : List (YamlNode × YamlNode) → StateT Anchors Option SettingValue.Members
  | [] => return []
  | (key, node) :: rest => do
    let name ← liftM (name? (← value? key))
    return (name, ← value? node) :: (← members? rest)

end

end YamlNode

end Hookup
