import Hookup.Text.Basic
import Hookup.Text.WidthTable

/-!
# Listings in columns

`grid` sets rows of cells in columns: a cell is padded on the right to the width of its column and
has a blank on either side, and another blank separates the columns.  Widths are counted in display
columns (`displayWidth`), so that wide characters line up too.  A cell with line breaks takes
several lines, and so does its whole row.
-/

namespace Hookup.Text

/-- The columns that a character takes. -/
def charWidth (c : Char) : Nat :=
  if c.toNat < 0x20 then 0
  else if c.toNat < 0x7f then 1
  else if zeroWidthCodes.has c || c.toNat == 0x7f then 0
  else if wideCodes.has c then 2
  else 1

/-- The columns that a line takes. -/
def displayWidth (s : String) : Nat := s.toList.foldl (fun width c => width + charWidth c) 0

/-- The lines of a cell. -/
def cellLines (cell : String) : List String := pieces '\n' cell

/-- The columns that a cell takes: those of its widest line. -/
def cellWidth (cell : String) : Nat := ((cellLines cell).map displayWidth).foldl max 0

/-- A line of a cell, padded to a width. -/
def padTo (width : Nat) (line : String) : String :=
  line ++ .ofList (List.replicate (width - displayWidth line) ' ')

/-- The lines of one row, given the column widths. -/
def rowLines (widths : List Nat) (row : List String) : List String :=
  let cells := row.map cellLines
  let height := (cells.map List.length).foldl max 1
  (List.range height).map fun i =>
    " ".intercalate ((widths.zip cells).map fun (width, cell) =>
      " " ++ padTo width (cell.getD i "") ++ " ")

/-- The widest cell of each column, for rows of `columns` cells. -/
def columnWidths (columns : Nat) (rows : List (List String)) : List Nat :=
  (List.range columns).map fun i =>
    (rows.map fun row => cellWidth (row.getD i "")).foldl max 0

/-- Rows of `columns` cells set in columns, line by line. -/
def grid (columns : Nat) (rows : List (List String)) : List String :=
  rows.flatMap (rowLines (columnWidths columns rows))

end Hookup.Text
