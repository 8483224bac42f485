import Hookup.Toml.Value

/-!
# TOML documents

A document is built up line by line.  A header opens a table, or one more table under a repeated
header; a key with its value goes into the table that is open, by way of the tables that a dotted
key names.  All of it is `alter`: go down a path of names, making tables where none are, and change
the table at its end.

Nothing is defined twice: a key that is taken, a header of a table that has one already, and a path
through something that is no table are errors.
-/

namespace Hookup.Toml

/-- The members of a table. -/
abbrev Members := List (String × Toml)

/-- The members with one of them put in place of the member of the same name. -/
def replaceMember (name : String) (value : Toml) (members : Members) : Members :=
  members.map fun member => if member.1 = name then (name, value) else member

/-- Change the table at the end of a path.  On the way, a dotted key must not pass a table that has
a header, and nothing passes a closed one. -/
def alter (byDottedKey : Bool) (change : TableKind → Members → Option (TableKind × Members)) :
    List String → TableKind → Members → Option (TableKind × Members)
  | [], kind, members => change kind members
  | name :: path, kind, members =>
    match members.lookup name with
    | none => do
      let made := if byDottedKey then TableKind.dotted else .implied
      let (inner, below) ← alter byDottedKey change path made []
      pure (kind, members ++ [(name, .table inner below)])
    | some (.table inner below) =>
      if inner = .closed ∨ (byDottedKey ∧ inner = .opened) then none
      else do
        let (inner, below) ← alter byDottedKey change path inner below
        pure (kind, replaceMember name (.table inner below) members)
    | some (.tables (last :: earlier)) => do
      let (_, last) ← alter byDottedKey change path .opened last
      pure (kind, replaceMember name (.tables (last :: earlier)) members)
    | some _ => none

/-- Add a member that is not there yet. -/
def addMember (name : String) (value : Toml) (kind : TableKind) (members : Members) :
    Option (TableKind × Members) :=
  match members.lookup name with
  | none => some (kind, members ++ [(name, value)])
  | some _ => none

/-- Enter a value under a key.  The table in which a dotted key ends must have come to be by dotted
keys. -/
def enter (path : List String) (name : String) (value : Toml) (kind : TableKind)
    (members : Members) : Option (TableKind × Members) :=
  let add (kind : TableKind) (members : Members) : Option (TableKind × Members) :=
    if !path.isEmpty && kind ≠ .dotted then none else addMember name value kind members
  alter true add path kind members

/-- Open a table by its header. -/
def openTable (name : String) (kind : TableKind) (members : Members) :
    Option (TableKind × Members) :=
  match members.lookup name with
  | none => some (kind, members ++ [(name, .table .opened [])])
  | some (.table .implied below) => some (kind, replaceMember name (.table .opened below) members)
  | some _ => none

/-- Open one more table under a repeated header. -/
def openAnother (name : String) (kind : TableKind) (members : Members) :
    Option (TableKind × Members) :=
  match members.lookup name with
  | none => some (kind, members ++ [(name, .tables [[]])])
  | some (.tables earlier) => some (kind, replaceMember name (.tables ([] :: earlier)) members)
  | some _ => none

/-- A document with the path of the table that is open. -/
structure Document where
  current : List String
  members : Members

namespace Document

/-- The document without lines. -/
def empty : Document := ⟨[], []⟩

/-- A document after a header, by which the table of the last name is opened. -/
def header (d : Document) (path : List String) (name : String) (another : Bool) :
    Option Document := do
  let opening := if another then openAnother name else openTable name
  let (_, members) ← alter false opening path .opened d.members
  pure ⟨path ++ [name], members⟩

/-- A document after a key with its value. -/
def keyValue (d : Document) (path : List String) (name : String) (value : Toml) :
    Option Document := do
  let (_, members) ← alter false (enter path name value) d.current .opened d.members
  pure { d with members }

/-- The whole document as a table. -/
def toToml (d : Document) : Toml := .table .opened d.members

end Document

/-- A table in braces with these keys and values. -/
def inlineTable (entries : List (List String × String × Toml)) : Option Toml := do
  let (_, members) ← entries.foldlM (fun (kind, members) (path, name, value) =>
    enter path name value kind members) (TableKind.opened, [])
  pure (.table .closed members)

end Hookup.Toml
