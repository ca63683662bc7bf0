import Outliner.Text.Basic

/-!
# Outliner — table rows

A table row is a line whose text opens and closes with a pipe; the pipes between divide it into
cells. A row whose text opens with `|-` is a rule.

* `Table.isRow`, `Table.isRule` — recognising a line;
* `Table.cells`, `Table.render` — the cells of a row, and the row of given cells;
* `Table.blankLike` — an empty row with the layout of another;
* `Table.nextCell?`, `Table.previousCell?`, `Table.firstCell?`, `Table.lastCell?`,
  `Table.cellIndex?` — moving along a row by columns.
-/

namespace Outliner.Table

/-! ## Rows -/

/-- The line is a row of a table. -/
def isRow (line : Text) : Bool :=
  let body := line.trim
  2 ≤ body.length && body.head? == some '|' && body.getLast? == some '|'

/-- The row is a rule between rows. -/
def isRule (line : Text) : Bool :=
  isRow line && ['|', '-'].isPrefixOf line.trimStart

/-- The trimmed texts between the pipes of a row; none for another line. -/
def cells (line : Text) : List Text :=
  if isRow line then ((line.trim.splitOn '|').drop 1).dropLast.map Text.trim else []

/-- The row of given cells. -/
def render (indent : Nat) (cells : List Text) : Text :=
  if cells.isEmpty then Text.spaces indent ++ ['|', '|']
  else Text.spaces indent ++ ['|', ' '] ++ List.intercalate [' ', '|', ' '] cells ++ [' ', '|']

/-- An empty row with the pipes of another; the crossings of a rule become pipes too. -/
def blankLike (line : Text) : Text :=
  let rule := isRule line
  Text.spaces line.indent
    ++ line.trim.map fun c => if c = '|' ∨ rule ∧ c = '+' then '|' else ' '

/-! ## Columns -/

/-- The columns of the pipes, in order. -/
def pipes (line : Text) : List Nat :=
  (line.zipIdx.filter (·.1 == '|')).map (·.2)

/-- The number of pipes to the left of a column. -/
def pipesBefore (line : Text) (column : Nat) : Nat :=
  ((pipes line).filter (· < column)).length

/-- Where the content of the cell opened by the pipe in a column starts. In a cell of spaces that is
one column past the pipe, and the closing pipe itself when there is no room. -/
def contentAfter (line : Text) (pipe : Nat) : Nat :=
  let gap := ((line.drop (pipe + 1)).takeWhile (· == ' ')).length
  let column := pipe + 1 + gap
  if (line.drop column).head? = some '|' then min (pipe + 2) column else column

/-- Where the content of the cell opened by the `i`-th pipe starts. -/
def contentOf? (line : Text) (i : Nat) : Option Nat :=
  (pipes line)[i]?.map (contentAfter line)

/-- The start of the cell after the one that holds the column; none past the last cell. -/
def nextCell? (line : Text) (column : Nat) : Option Nat :=
  let i := pipesBefore line column
  if i + 1 < (pipes line).length then contentOf? line i else none

/-- The start of the cell before the one that holds the column; none before the first cell. -/
def previousCell? (line : Text) (column : Nat) : Option Nat :=
  let i := pipesBefore line column
  if 2 ≤ i then contentOf? line (i - 2) else none

/-- The start of the first cell. -/
def firstCell? (line : Text) : Option Nat :=
  nextCell? line 0

/-- The start of the last cell. -/
def lastCell? (line : Text) : Option Nat :=
  let count := (pipes line).length
  if 2 ≤ count then contentOf? line (count - 2) else none

/-- The number, from zero, of the cell that holds the column. -/
def cellIndex? (line : Text) (column : Nat) : Option Nat :=
  let i := pipesBefore line column
  if 1 ≤ i ∧ i < (pipes line).length then some (i - 1) else none

end Outliner.Table
