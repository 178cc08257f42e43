import LineCensus.SortOrder
import LineCensus.Text.Width

/-!
# `Table` — tables drawn with box characters

A column is as wide as the widest line in it, with a blank on both sides. Rows are parted by dashed
lines, the header by a double one. A cell may have several lines.

## Contents

* `Cell`, `Cell.left`, `Cell.right` — a cell and its alignment;
* `widths` — the widths of the columns;
* `draw` — the lines of the table.
-/

namespace LineCensus.Table

/-- A cell: its lines, and whether they stand at the right of the column. -/
structure Cell where
  lines : List (List Char)
  atRight : Bool
deriving DecidableEq, Repr

/-- A cell whose lines stand at the left. -/
def Cell.left (s : List Char) : Cell := ⟨splitOn '\n' s, false⟩

/-- A cell whose lines stand at the right. -/
def Cell.right (s : List Char) : Cell := ⟨splitOn '\n' s, true⟩

/-- The width of the widest line. -/
def Cell.width (c : Cell) : Nat := (c.lines.map Text.displayWidth).foldl Nat.max 0

/-- A line of the cell as it stands in a column, with a blank on both sides. -/
def Cell.line (c : Cell) (width index : Nat) : List Char :=
  let text := c.lines.getD index []
  let gap := List.replicate (width - Text.displayWidth text) ' '
  ' ' :: (if c.atRight then gap ++ text else text ++ gap) ++ [' ']

/-- The widths of the columns. -/
def widths (rows : List (List Cell)) : List Nat :=
  match rows with
  | [] => []
  | [row] => row.map Cell.width
  | row :: rows => List.zipWith Nat.max (row.map Cell.width) (widths rows)

/-- A horizontal line: what it begins with, is made of, has between columns, and ends with. -/
structure Rule where
  first : Char
  dash : Char
  crossing : Char
  last : Char

/-- The line above the table. -/
def Rule.top : Rule := ⟨'┌', '─', '┬', '┐'⟩

/-- The line below the header. -/
def Rule.header : Rule := ⟨'╞', '═', '╪', '╡'⟩

/-- The line between two rows. -/
def Rule.between : Rule := ⟨'├', '╌', '┼', '┤'⟩

/-- The line below the table. -/
def Rule.bottom : Rule := ⟨'└', '─', '┴', '┘'⟩

/-- The parts with a separator between them. -/
def joined (separator : List Char) (parts : List (List Char)) : List Char :=
  separator.intercalate parts

/-- A horizontal line over columns of these widths. -/
def Rule.draw (r : Rule) (widths : List Nat) : List Char :=
  r.first :: joined [r.crossing] (widths.map fun w => List.replicate (w + 2) r.dash) ++ [r.last]

/-- The lines of a row: as many as its tallest cell has. -/
def rowLines (widths : List Nat) (row : List Cell) : List (List Char) :=
  let height := (row.map (·.lines.length)).foldl Nat.max 0
  (List.range height).map fun index =>
    '│' :: joined ['┆'] (List.zipWith (fun c w => c.line w index) row widths) ++ ['│']

/-- The lines of a table. -/
def lines (header : List Cell) (rows : List (List Cell)) : List (List Char) :=
  let columns := widths (header :: rows)
  let body := (rows.map (rowLines columns)).intersperse [Rule.between.draw columns]
  Rule.top.draw columns :: rowLines columns header ++ Rule.header.draw columns ::
    body.flatten ++ [Rule.bottom.draw columns]

/-- A table, its last line not ended. -/
def draw (header : List Cell) (rows : List (List Cell)) : List Char :=
  joined ['\n'] (lines header rows)

end LineCensus.Table
