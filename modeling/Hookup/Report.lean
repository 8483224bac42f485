import Hookup.ActiveSet
import Hookup.Decimal.Binary
import Hookup.Entry
import Hookup.Text.Grid

/-!
# Listings of hookups

A dossier is listed part by part: its key with the status declared for it, its location and the
notes on it, and a table with one row per hookup key.  The columns of the table are the part types
of the widest chain; a cell shows a part of the chain between the port by which the signal enters
and the port by which it leaves.

`Entry.tableRows` is that table before it is set in columns.
-/

namespace Hookup

/-! ## Tables -/

/-- The first part of a chain, from where the signal leaves it. -/
def sourceCell (c : Connection) : String :=
  c.up.hpn ++ ":" ++ c.up.rev ++ " <" ++ c.up.port

/-- A part to which a connection leads, and the port by which the next connection leaves it. -/
def hopCell (c : Connection) (next : Option Connection) : String :=
  c.down.port ++ "> " ++ c.down.hpn ++ ":" ++ c.down.rev ++
    match next with
    | none => ""
    | some next => " <" ++ next.up.port

/-- One cell per hop of a chain. -/
def hopCells : List Connection → List String
  | [] => []
  | c :: rest => hopCell c rest.head? :: hopCells rest

/-- One cell per part along a chain; none for a chain without connections. -/
def chainCells : List Connection → List String
  | [] => []
  | first :: rest => sourceCell first :: hopCells (first :: rest)

/-- A list cut or filled up with blanks to a length. -/
def fitted (length : Nat) (cells : List String) : List String :=
  cells.take length ++ List.replicate (length - cells.length) ""

namespace Entry

/-- The first row of the table of an entry. -/
def headerRow (e : Entry) : List String := "key" :: e.headers ++ ["complete"]

/-- The row of a hookup key. -/
def keyRow (e : Entry) (key : String) : List String :=
  fitted (e.headerRow.length - 1) (key :: chainCells ((e.chains.get? key).getD [])) ++
    [if e.isComplete key then "yes" else "no"]

/-- The rows of the table of an entry. -/
def tableRows (e : Entry) : List (List String) := e.headerRow :: e.keys.map e.keyRow

/-- The table of an entry, line by line. -/
def tableText (e : Entry) : String :=
  String.join ((Text.grid e.headerRow.length e.tableRows).map fun line =>
    " " ++ Text.trimEnd line ++ "\n")

end Entry

/-! ## What is known about a part -/

/-- The line with a location. -/
def Location.line (l : Location) : String :=
  "  location: " ++ Decimal.fixed 1 l.easting ++ " E  " ++ Decimal.fixed 1 l.northing ++ " N  " ++
    Decimal.fixed 1 l.elevation ++ " m (" ++ l.datum ++ " " ++ l.tile ++ ")\n"

/-- The line with a note. -/
def PartNote.line (note : PartNote) : String :=
  let reference := match note.reference with
    | none => ""
    | some reference => " <" ++ reference ++ ">"
  "  note @" ++ note.posted.text ++ ": " ++ note.comment ++ reference ++ "\n"

/-- The status of the antenna of a part number, in brackets. -/
def ActiveSet.statusMark (s : ActiveSet) (hpn : String) : String :=
  match s.status? hpn with
  | none => ""
  | some status => " [" ++ status.status ++ "]"

/-- The lines with the location of a part and the notes on it. -/
def ActiveSet.partLines (s : ActiveSet) (key : PartKey) : String :=
  let location := ((s.location? key.hpn).map Location.line).getD ""
  location ++ String.join ((s.notesOn key).map PartNote.line)

/-! ## Dossiers -/

/-- The listing of one entry of a dossier. -/
def entryListing (active : Option ActiveSet) (key : String) (e : Entry) : String :=
  let (hpn, rev) := PartKey.split ⟨key⟩
  let mark := (active.map (·.statusMark hpn)).getD ""
  let known := (active.map (·.partLines (.ofNames hpn rev))).getD ""
  key ++ mark ++ "\n" ++ known ++ e.tableText ++ "\n"

/-- The listing of a dossier, with what the active set knows about its parts if there is one. -/
def dossierListing (dossier : Dossier) (active : Option ActiveSet) : String :=
  if dossier.isEmpty then "no hookups found\n"
  else String.join (dossier.toList.map fun (key, e) => entryListing active key e)

end Hookup
