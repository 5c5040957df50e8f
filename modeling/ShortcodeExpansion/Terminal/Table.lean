import ShortcodeExpansion.Text.Width

/-!
# Tables

A table has a heading and rows of cells.  Each cell may hold several lines; a column is as wide as
its widest line, with a blank on either side.  Double lines part the heading from the rows, broken
ones the rows from each other.
-/

set_option autoImplicit false

namespace ShortcodeExpansion

abbrev Cell := List (List Char)

def cellOf (text : String) : Cell := (text.splitOn "\n").map String.toList

/-- The strokes that a line across the table is drawn with. -/
structure Strokes where
  left : String
  line : Char
  crossing : String
  right : String

namespace Strokes

def top : Strokes := ⟨"┌", '─', "┬", "┐"⟩

def underHeading : Strokes := ⟨"╞", '═', "╪", "╡"⟩

def betweenRows : Strokes := ⟨"├", '╌', "┼", "┤"⟩

def bottom : Strokes := ⟨"└", '─', "┴", "┘"⟩

end Strokes

structure Table where
  heading : List String
  rows : List (List String)

namespace Table

def cells (t : Table) : List (List Cell) := (t.heading :: t.rows).map (·.map cellOf)

def cellWidth (cell : Cell) : Nat := (cell.map textWidth).foldl max 0

def columnWidths (t : Table) : List Nat :=
  (List.range t.heading.length).map fun i =>
    (t.cells.map fun row => (row[i]?.map cellWidth).getD 0).foldl max 0

/-- A line across the table. -/
def ruler (strokes : Strokes) (widths : List Nat) : String :=
  let parts := widths.map fun width => "".pushn strokes.line (width + 2)
  strokes.left ++ strokes.crossing.intercalate parts ++ strokes.right

/-- A line of a cell, filled up to the width of its column. -/
def paddedLine (width : Nat) (line : List Char) : String :=
  " " ++ (String.ofList line).pushn ' ' (width - textWidth line) ++ " "

def rowLine (widths : List Nat) (row : List Cell) (index : Nat) : String :=
  let parts := (widths.zip row).map fun (width, cell) => paddedLine width ((cell[index]?).getD [])
  "│" ++ "┆".intercalate parts ++ "│"

def rowLines (widths : List Nat) (row : List Cell) : List String :=
  (List.range ((row.map List.length).foldl max 0)).map (rowLine widths row)

def lines (t : Table) : List String :=
  let widths := t.columnWidths
  let rows := (t.rows.map (·.map cellOf)).map (rowLines widths)
  ruler .top widths :: rowLines widths (t.heading.map cellOf) ++
    ruler .underHeading widths :: [ruler .betweenRows widths].intercalate rows ++
    [ruler .bottom widths]

def render (t : Table) : String := "\n".intercalate t.lines

end Table

end ShortcodeExpansion
