import Hookup.Settings.Value
import Hookup.Text.Case
import Hookup.Text.Scan

/-!
# Entering settings

The settings that hold in the end are one table, into which the settings of all layers are entered
one after the other.  Case does not count in the name of a setting, and the name may be a path: it
leads through tables by `.name` and through lists by `[number]`, where a negative number counts from
the end (`KeyPath`).

What stands at the end of the path is replaced, except that a table is merged into what is there
(`SettingValue.enter`).  Tables and lists on the way are made where there are none, if need be in
place of something else.
-/

namespace Hookup

/-! ## Paths -/

/-- A step of a path. -/
inductive KeyStep where
  | member (name : String)
  | item (index : Int)
deriving DecidableEq

/-- A name, and the steps that lead on from there. -/
structure KeyPath where
  name : String
  steps : List KeyStep
deriving DecidableEq

namespace KeyPath

/-- The characters of names in paths. -/
def isNameChar (c : Char) : Bool := c.isAlphanum || c == ' ' || c == '_' || c == '-'

/-- A name. -/
def scanName : Scan String := do
  let cs ← get
  let name := cs.takeWhile isNameChar
  if name.isEmpty then failure
  set (cs.dropWhile isNameChar)
  return .ofList name

/-- The blanks that may stand around a number in brackets. -/
def scanBlanks : Scan Unit := modify fun cs => cs.dropWhile fun c => c == ' ' || c == '\t'

/-- A number in brackets, after the first of them. -/
def scanIndex : Scan Int := do
  scanBlanks
  let negative ← match ← get with
    | '-' :: rest => set rest; pure true
    | _ => pure false
  let magnitude : Int ← Scan.digits 1 none
  scanBlanks
  Scan.one (· == ']')
  let index := if negative then -magnitude else magnitude
  if -0x8000000000000000 ≤ index ∧ index < 0x8000000000000000 then return index else failure

/-- The steps up to the end of the text, each of which takes a character at least. -/
def scanSteps : Nat → Scan (List KeyStep)
  | 0 => failure
  | fuel + 1 => do
    match ← get with
    | [] => return []
    | '.' :: rest =>
      set rest
      let name ← scanName
      return .member name :: (← scanSteps fuel)
    | '[' :: rest =>
      set rest
      let index ← scanIndex
      return .item index :: (← scanSteps fuel)
    | _ => failure

/-- The path that a key is; one that is no path is a name as a whole. -/
def ofKey (key : String) : KeyPath :=
  let key := Text.lower key
  let scan : Scan KeyPath := do return ⟨← scanName, ← scanSteps (key.length + 1)⟩
  (scan.read? key).getD ⟨key, []⟩

end KeyPath

/-! ## Entering a value -/

namespace SettingValue

/-- The members of a table; anything else has none. -/
def members : SettingValue → Members
  | table members => members
  | _ => []

/-- The items of a list; anything else has none. -/
def items : SettingValue → List SettingValue
  | list items => items
  | _ => []

mutual

/-- What becomes of the value of a setting when another one is entered in its place. -/
def merged (old : Option SettingValue) : SettingValue → SettingValue
  | .table incoming => mergedMembers (old.getD (.table [])) incoming
  | value => value

/-- What becomes of a value when members are entered into it.  It turns into a table with the first
of them. -/
def mergedMembers (target : SettingValue) : Members → SettingValue
  | [] => target
  | (name, value) :: rest =>
    let name := Text.lower name
    let before := target.members
    mergedMembers (table (withMember before name (merged (before.lookup name) value))) rest

end

/-- A list with one item changed.  Items that are missing up to there are nothing. -/
def changeItem (index : Int) (change : SettingValue → SettingValue) (items : List SettingValue) :
    List SettingValue :=
  if 0 ≤ index then
    let place := index.toNat
    (items ++ List.replicate (place + 1 - items.length) nothing).modify place change
  else
    let items := List.replicate (index.natAbs - items.length) nothing ++ items
    items.modify (items.length - index.natAbs) change

/-- What becomes of a value when another one is entered at the end of a path that starts there. -/
def enterBelow (new : SettingValue) : List KeyStep → Option SettingValue → SettingValue
  | [], old => merged old new
  | .member name :: steps, old =>
    let members := (old.map members).getD []
    table (withMember members name (enterBelow new steps (members.lookup name)))
  | [.item index], old => list (changeItem index (fun _ => new) ((old.map items).getD []))
  | .item index :: steps, old =>
    list (changeItem index (fun item => enterBelow new steps (some item)) ((old.map items).getD []))

/-- Enter a value under a key. -/
def enter (settings : Members) (key : String) (value : SettingValue) : Members :=
  let path := KeyPath.ofKey key
  withMember settings path.name (enterBelow value path.steps (settings.lookup path.name))

/-- Enter the settings of a layer. -/
def enterAll (settings : Members) (layer : Members) : Members :=
  layer.foldl (fun settings (key, value) => enter settings key value) settings

end SettingValue

end Hookup
