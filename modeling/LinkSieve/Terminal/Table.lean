import LinkSieve.Terminal.Width
import LinkSieve.Text.Cut
/-!
# Tables

Texts in columns under a row of titles, boxed with ASCII characters. A column is as wide as its widest
line, and a row is as high as its highest cell. A line of a cell ends at a line break.
-/

namespace LinkSieve.Terminal

/-- Rows of cells under titles, with as many cells in each row as there are titles. -/
structure Table where
  titles : List String
  rows : List (List String)
  deriving Repr, DecidableEq

namespace Table

/-- The lines of a cell. -/
def cellLines (cell : String) : List (List Char) := Text.splitAt '\n' cell.toList

/-- The number of columns of the widest line of a cell. -/
def cellWidth (cell : String) : Nat := ((cellLines cell).map width).foldl max 0

/-- The widths of the columns. -/
def columnWidths (table : Table) : List Nat :=
  table.rows.foldl (fun widths row => List.zipWith max widths (row.map cellWidth))
    (table.titles.map cellWidth)

/-- A line of a cell with the blanks that fill up its column. -/
def pad (columnWidth : Nat) (line : List Char) : List Char :=
  line ++ List.replicate (columnWidth - width line) ' '

/-- A horizontal line, given its ends, its crossings and what it is drawn with. -/
def rule (left crossing right stroke : Char) (widths : List Nat) : List Char :=
  left :: [crossing].intercalate (widths.map fun columnWidth =>
    List.replicate (columnWidth + 2) stroke) ++ [right]

/-- The edge above and below the table. -/
def edge : List Nat → List Char := rule '+' '+' '+' '-'

/-- The line below the titles. -/
def titleRule : List Nat → List Char := rule '+' '=' '+' '='

/-- The line between two rows. -/
def rowRule : List Nat → List Char := rule '|' '+' '|' '-'

/-- The lines of a row. A cell with fewer lines than the row is high is empty below them. -/
def rowLines (widths : List Nat) (row : List String) : List (List Char) :=
  let cells := row.map cellLines
  let height := (cells.map List.length).foldl max 0
  (List.range height).map fun index =>
    let parts := List.zipWith (fun columnWidth lines => pad columnWidth (lines.getD index []))
      widths cells
    ['|', ' '] ++ [' ', '|', ' '].intercalate parts ++ [' ', '|']

/-- The lines of the table. -/
def lines (table : Table) : List (List Char) :=
  let widths := table.columnWidths
  [edge widths] ++ rowLines widths table.titles ++ [titleRule widths] ++
    [rowRule widths].intercalate (table.rows.map (rowLines widths)) ++ [edge widths]

/-- The text of the table, without a line break at its end. -/
def render (table : Table) : String := String.ofList (['\n'].intercalate table.lines)

end Table

example : (Table.mk ["#", "Text"] [["0", "a\nbc"], ["10", ""]]).lines.map String.ofList =
    ["+----+------+",
     "| #  | Text |",
     "+===========+",
     "| 0  | a    |",
     "|    | bc   |",
     "|----+------|",
     "| 10 |      |",
     "+----+------+"] := by decide +kernel

end LinkSieve.Terminal
