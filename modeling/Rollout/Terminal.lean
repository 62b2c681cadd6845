import Rollout.Text.Display
import Rollout.Text.Split

/-!
# Text for terminals

A painted text has control sequences around it that a terminal takes for colour and weight.

A table has a header and rows of cells, drawn with lines between them. A column is as wide as its
widest line of text, with one blank on either side; a cell may have several lines.
-/

namespace Rollout

/-! ## Painted text -/

/-- A colour or weight of text. -/
inductive Paint where
  | red
  | green
  | yellow
  | cyan
  | bold
  | dim
  deriving DecidableEq, Repr

namespace Paint

/-- The control sequence that begins it. -/
def code : Paint → String
  | bold => "\x1b[1m"
  | dim => "\x1b[2m"
  | red => "\x1b[31m"
  | green => "\x1b[32m"
  | yellow => "\x1b[33m"
  | cyan => "\x1b[36m"

/-- The text in these paints, if colour is used. -/
def apply (paints : List Paint) (colored : Bool) (s : String) : String :=
  if colored then String.join (paints.map code) ++ s ++ "\x1b[0m" else s

end Paint

/-! ## Tables -/

open Text

/-- A header with rows below it. -/
structure Table where
  header : List String
  rows : List (List String)
  deriving Repr

namespace Table

/-- The lines of text in a cell. -/
def cellLines (cell : String) : List (List Char) :=
  splitOn '\n' cell.toList

/-- The width of a cell's widest line. -/
def cellWidth (cell : String) : Nat :=
  ((cellLines cell).map width).foldl max 0

/-- The greater of each two numbers in the same place. -/
def maxima : List Nat → List Nat → List Nat
  | m :: ms, n :: ns => max m n :: maxima ms ns
  | [], ns => ns
  | ms, [] => ms

/-- The widths of the columns, without blanks. -/
def columnWidths (t : Table) : List Nat :=
  ((t.header :: t.rows).map (·.map cellWidth)).foldl maxima []

/-- A line of text in a column, with blanks around it. -/
def padded (columns : Nat) (line : List Char) : String :=
  " " ++ String.ofList (line ++ List.replicate (columns - width line) ' ') ++ " "

/-- The lines of one row. -/
def rowLines (widths : List Nat) (row : List String) : List String :=
  let cells := row.map cellLines
  let height := (cells.map List.length).foldl max 0
  (List.range height).map fun i =>
    "│" ++ "┆".intercalate
      (List.zipWith (fun columns cell => padded columns (cell[i]?.getD [])) widths cells) ++ "│"

/-- A line that is drawn across all columns. -/
def rule (left line cross right : String) (widths : List Nat) : String :=
  left ++ cross.intercalate (widths.map fun n => String.join (List.replicate (n + 2) line)) ++ right

/-- The lines of the table. -/
def lines (t : Table) : List String :=
  let widths := t.columnWidths
  let rows := t.rows.map (rowLines widths)
  [rule "┌" "─" "┬" "┐" widths] ++ rowLines widths t.header ++
    [rule "╞" "═" "╪" "╡" widths] ++
    [rule "├" "╌" "┼" "┤" widths].intercalate rows ++
    [rule "└" "─" "┴" "┘" widths]

end Table

end Rollout
