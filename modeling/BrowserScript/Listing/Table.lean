/-
# BrowserScript.Listing.Table -- tables drawn with lines

A table has a row of headers and rows of cells. **Every column is as wide as its widest
cell**, measured on the terminal, with one space on either side of each cell; nothing is
wrapped. A cell of several lines makes its row as many lines high.
-/
import BrowserScript.Text.Columns

namespace BrowserScript.Table

open Text (columns padTo)

/-- The lines of a cell. -/
def cellLines (cell : String) : List String :=
  (cell.toList.splitOn '\n').map String.ofList

/-- The columns that a cell takes: those of its widest line. -/
def cellWidth (cell : String) : Nat :=
  ((cellLines cell).map columns).foldl max 0

/-- The widths of the columns of a table. -/
def widths (headers : List String) (rows : List (List String)) : List Nat :=
  rows.foldl (fun ws row => List.zipWith max ws (row.map cellWidth)) (headers.map cellWidth)

/-- The characters of a horizontal line: at the left end, along it, where it crosses the
line between two columns, and at the right end. -/
structure Rule where
  left : Char
  along : Char
  cross : Char
  right : Char

/-- The line above the headers. -/
def topRule : Rule := ⟨'┌', '─', '┬', '┐'⟩

/-- The line below the headers. -/
def headerRule : Rule := ⟨'╞', '═', '╪', '╡'⟩

/-- The line between two rows. -/
def rowRule : Rule := ⟨'├', '╌', '┼', '┤'⟩

/-- The line below the last row. -/
def bottomRule : Rule := ⟨'└', '─', '┴', '┘'⟩

/-- A horizontal line over columns of given widths. -/
def Rule.draw (r : Rule) (ws : List Nat) : String :=
  let runs := ws.map fun w => String.ofList (List.replicate (w + 2) r.along)
  .singleton r.left ++ String.intercalate (.singleton r.cross) runs ++ .singleton r.right

/-- The lines of a row. -/
def rowLines (ws : List Nat) (row : List String) : List String :=
  let cells := row.map cellLines
  let height := (cells.map List.length).foldl max 0
  (List.range height).map fun i =>
    let parts := List.zipWith (fun w cell => padTo w (cell.getD i "")) ws cells
    "│ " ++ String.intercalate " ┆ " parts ++ " │"

/-- A table, with a line feed after its last line. -/
def draw (headers : List String) (rows : List (List String)) : String :=
  let ws := widths headers rows
  let body := (rows.map (rowLines ws)).intersperse [rowRule.draw ws]
  let lines := topRule.draw ws :: rowLines ws headers ++ [headerRule.draw ws] ++ body.flatten ++
    [bottomRule.draw ws]
  String.join (lines.map (· ++ "\n"))

end BrowserScript.Table
