import ThreatIntel.Text.Columns

/-!
# Tables

Rows of texts below headings, drawn with lines between all cells. A column is as wide as its widest
text; a text of several lines makes its whole row taller.
-/

namespace ThreatIntel
namespace Command

/-- Rows of texts below headings. -/
structure Table where
  /-- The headings. -/
  headings : List String
  /-- The rows, each with a text for every heading. -/
  rows : List (List String)
  deriving DecidableEq, Repr

namespace Table

/-- The lines of a cell. -/
def cellLines (cell : String) : List (List Char) :=
  cell.toList.splitOn '\n'

/-- How many columns a cell takes. -/
def cellWidth (cell : String) : Nat :=
  (cellLines cell).foldl (fun width line => max width (Text.columns line)) 0

/-- How many columns each column of cells takes. -/
def widths (table : Table) : List Nat :=
  table.rows.foldl (fun widths row => List.zipWith max widths (row.map cellWidth))
    (table.headings.map cellWidth)

/-- A line of a cell, filled up to a width. -/
def padded (width : Nat) (line : List Char) : List Char :=
  line ++ List.replicate (width - Text.columns line) ' '

/-- The line between rows. -/
def rule (widths : List Nat) : List Char :=
  '+' :: widths.flatMap fun width => List.replicate (width + 2) '-' ++ ['+']

/-- One line of a row: the lines of its cells at an index. -/
def rowLine (widths : List Nat) (cells : List (List (List Char))) (index : Nat) : List Char :=
  '|' :: (List.zip widths cells).flatMap fun (width, lines) =>
    ' ' :: padded width (lines.getD index []) ++ [' ', '|']

/-- The lines of a row. -/
def rowLines (widths : List Nat) (row : List String) : List (List Char) :=
  let cells := row.map cellLines
  let height := cells.foldl (fun height lines => max height lines.length) 0
  (List.range height).map (rowLine widths cells)

/-- The lines of a table. -/
def lines (table : Table) : List (List Char) :=
  let widths := table.widths
  rule widths :: (table.headings :: table.rows).flatMap fun row =>
    rowLines widths row ++ [rule widths]

/-- The text of a table. -/
def render (table : Table) : String :=
  String.ofList (['\n'].intercalate table.lines)

/-- A line is filled up to exactly the width of its column, if it fits. -/
theorem columns_padded
    {width : Nat}
    {line : List Char}
    (fits : Text.columns line ≤ width) :
    Text.columns (padded width line) = width := by
  simp only [padded, Text.columns_append, Text.columns_replicate]
  omega

end Table
end Command
end ThreatIntel
