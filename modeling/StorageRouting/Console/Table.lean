import StorageRouting.Text.Blank
import StorageRouting.Text.Columns

/-
  Tables with a border, for terminals.  A column is as wide as
  its widest cell: tables are not fitted to the width of a
  terminal, which is not known where the output is no terminal.

  Key definitions include:
    * `Table`
    * `Table.widths`
    * `Table.text`
-/

------------------------------------------------------------
-- Cells
------------------------------------------------------------

namespace StorageRouting

/- A header and rows, which may be of different lengths. -/
structure Table where
  header : List String
  rows : List (List String)
deriving DecidableEq, Repr

namespace Table

/- The lines of a cell. -/
def cellLines (cell : String) : List String :=
  (Text.splitAll '\n' cell.toList).map String.ofList

/- The columns that a cell takes. -/
def cellWidth (cell : String) : Nat :=
  ((cellLines cell).map Text.columns).foldl max 0

/- The number of columns of a table. -/
def columnCount (t : Table) : Nat :=
  ((t.header :: t.rows).map List.length).foldl max 0

/- The width of a column. -/
def width
    (t : Table)
    (column : Nat) : Nat :=
  ((t.header :: t.rows).map
    (fun row => cellWidth ((row[column]?).getD ""))).foldl max 0

/- The widths of all columns. -/
def widths (t : Table) : List Nat :=
  (List.range t.columnCount).map t.width

/- Text filled up to a width. -/
def padded
    (width : Nat)
    (text : String) : String :=
  text ++ Text.repeatChar ' ' (width - Text.columns text)

end Table

end StorageRouting

------------------------------------------------------------
-- Printing
------------------------------------------------------------

namespace StorageRouting

namespace Table

/- One line of a row, between the borders. -/
def rowLine
    (widths : List Nat)
    (row : List (List String))
    (line : Nat) : String :=
  let cells :=
    widths.zipIdx.map (fun (width, column) =>
      let lines := (row[column]?).getD []
      " " ++ padded width ((lines[line]?).getD "") ++ " ")
  "│" ++ Text.joinWith " " cells ++ "│"

/- The lines of a row: as many as its highest cell has. -/
def rowLines
    (widths : List Nat)
    (row : List String) : List String :=
  let cells := row.map cellLines
  let height :=
    (cells.map List.length).foldl max (min 1 widths.length)
  (List.range height).map (rowLine widths cells)

/- A border of a table, with its two ends. -/
def border
    (widths : List Nat)
    (left fill right : Char) : String :=
  let inner :=
    (widths.map (· + 2)).foldl (· + ·) 0 + (widths.length - 1)
  String.singleton left ++ Text.repeatChar fill inner ++
    String.singleton right

/- A table as text; there is no end of line after it. -/
def text (t : Table) : String :=
  let widths := t.widths
  Text.joinWith "\n"
    ([border widths '┌' '─' '┐'] ++ rowLines widths t.header ++
      [border widths '╞' '═' '╡'] ++
      t.rows.flatMap (rowLines widths) ++
      [border widths '└' '─' '┘'])

end Table

end StorageRouting
