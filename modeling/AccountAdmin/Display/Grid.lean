import AccountAdmin.Text.Columns

/-!
# Grids

A table drawn with box characters: one row of headers, a double line, and the rows below it without
lines between them.  A cell with several lines makes its row as high as it needs; a column is as
wide as its widest line, and every line has a space on either side.

* `Grid.text`: the table.
-/

namespace AccountAdmin

/-- A table of texts. -/
structure Grid where
  headers : List String
  rows : List (List String)

namespace Grid

open AccountAdmin.Text (columns)

/-- The lines of a cell. -/
def cellLines (cell : String) : List String :=
  (cell.toList.splitOn '\n').map String.ofList

/-- The width of a cell. -/
def cellWidth (cell : String) : Nat := ((cellLines cell).map columns).foldl max 0

/-- The widths of the columns. -/
def widths (g : Grid) : List Nat :=
  g.rows.foldl (fun ws row => ws.zipWith max (row.map cellWidth)) (g.headers.map cellWidth)

/-- A line of a cell, filled up to the width of its column. -/
def padded (width : Nat) (line : String) : String :=
  " " ++ line ++ String.ofList (List.replicate (width - columns line) ' ') ++ " "

/-- A horizontal line. -/
def rule (left fill middle right : String) (widths : List Nat) : String :=
  let segment (width : Nat) := String.join (List.replicate (width + 2) fill)
  left ++ middle.intercalate (widths.map segment) ++ right

/-- The lines of a row. -/
def rowLines (widths : List Nat) (row : List String) : List String :=
  let cells := row.map cellLines
  let height := (cells.map List.length).foldl max 0
  (List.range height).map fun i =>
    "│" ++ "┆".intercalate (widths.zipWith (fun w cell => padded w (cell.getD i "")) cells) ++ "│"

/-- The lines of the table. -/
def lines (g : Grid) : List String :=
  let ws := g.widths
  [rule "┌" "─" "┬" "┐" ws] ++ rowLines ws g.headers ++ [rule "╞" "═" "╪" "╡" ws] ++
    g.rows.flatMap (rowLines ws) ++ [rule "└" "─" "┴" "┘" ws]

/-- The table. -/
def text (g : Grid) : String := "\n".intercalate g.lines

end Grid

end AccountAdmin
