/-
# Gradebook.Text.Table — tables of text in a frame

Every cell has a blank on both sides, columns are separated by another blank and
as wide as their widest line, and only the outside has a frame. A cell with line
breaks takes several lines.
-/
import Gradebook.Text.Blank
import Gradebook.Text.Width

namespace Gradebook.Text

set_option autoImplicit false

structure Table where
  header : List String
  rows : List (List String)

namespace Table

/-- The lines of a cell. -/
def cellLines (cell : String) : List String := pieces '\n' cell

def cellWidth (cell : String) : Nat := ((cellLines cell).map width).foldl max 0

/-- The width of each column. -/
def columnWidths (t : Table) : List Nat :=
  t.rows.foldl (fun widths row => (widths.zip row).map fun w => max w.1 (cellWidth w.2))
    (t.header.map cellWidth)

def blanks (n : Nat) : String := String.ofList (List.replicate n ' ')

/-- A line of a cell between blanks, filled up to the column's width. -/
def padded (columns : Nat) (line : String) : String :=
  " " ++ line ++ blanks (columns - width line) ++ " "

def framed (parts : List String) : String := "│" ++ " ".intercalate parts ++ "│"

/-- The lines of a row: as many as its highest cell has. -/
def rowLines (widths : List Nat) (row : List String) : List String :=
  let cells := row.map cellLines
  let height := (cells.map List.length).foldl max 0
  (List.range height).map fun i =>
    framed ((widths.zip cells).map fun w => padded w.1 (w.2[i]?.getD ""))

def rule (left right : String) (line : Char) (widths : List Nat) : String :=
  let inner := widths.foldl (fun n w => n + (w + 2)) (widths.length - 1)
  left ++ String.ofList (List.replicate inner line) ++ right

def render (t : Table) : String :=
  let widths := t.columnWidths
  "\n".intercalate
    ([rule "┌" "┐" '─' widths] ++ rowLines widths t.header ++ [rule "╞" "╡" '═' widths] ++
      t.rows.flatMap (rowLines widths) ++ [rule "└" "┘" '─' widths])

end Table

end Gradebook.Text
