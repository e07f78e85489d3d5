import Shorthand.Text.Control

/-!
# Tables

A table is drawn as a box: a title over its whole width, a row of headings, and the rows.  Every
column is as wide as its widest line, with a blank on both sides, and all cells are filled up on
the right.  A cell of several lines makes its row as high.  Control sequences take no columns, in
a cell as a whole and then in each of its lines.

In a cell a tab is four blanks.  A carriage return before a newline is dropped; any other one
goes back to the start of its line, and what follows it is written over what was there.
-/

namespace Shorthand.Text

/-- A table; every row has as many cells as there are headings. -/
structure Table where
  title : String
  headings : List String
  rows : List (List String)

namespace Table

/-! ## Cells -/

/-- Writes characters over a line, whose characters before the place are `before`, the last one
first, and from the place on `after`. -/
def overwrite (before after : List Char) : List Char → List Char
  | [] => before.reverse ++ after
  | '\r' :: rest => overwrite [] (before.reverse ++ after) rest
  | c :: rest => overwrite (c :: before) after.tail rest

/-- The characters with a newline for a carriage return and a newline. -/
def joinReturns : List Char → List Char
  | '\r' :: '\n' :: rest => '\n' :: joinReturns rest
  | c :: rest => c :: joinReturns rest
  | [] => []

/-- The characters with four blanks for a tab. -/
def expandTabs (chars : List Char) : List Char :=
  chars.flatMap fun c => if c == '\t' then [' ', ' ', ' ', ' '] else [c]

/-- A line with what was written over it. -/
def overwritten (line : String) : String := String.ofList (overwrite [] [] line.toList)

/-- A cell as it is shown. -/
def cellText (cell : String) : String :=
  let chars := joinReturns (expandTabs cell.toList)
  "\n".intercalate (((String.ofList chars).splitOn "\n").map overwritten)

/-- A line without the blanks at its end. -/
def trimBlanks (line : String) : String :=
  String.ofList (line.toList.reverse.dropWhile (· == ' ')).reverse

/-- A line filled up to a width with blanks. -/
def pad (width : Nat) (line : String) : String :=
  let line := trimBlanks line
  line ++ String.ofList (List.replicate (width - widestLine line) ' ')

/-! ## Rows -/

/-- The widths of the columns of rows. -/
def columnWidths (headings : List String) (rows : List (List String)) : List Nat :=
  rows.foldl (fun widths row => List.zipWith max widths (row.map widestLine))
    (headings.map widestLine)

/-- A line of cells. -/
def rowLine (widths : List Nat) (cells : List String) : String :=
  "|" ++ String.join (List.zipWith (fun width cell => " " ++ pad width cell ++ " |") widths cells)

/-- The lines of a row, as many as its highest cell has. -/
def rowLines (widths : List Nat) (row : List String) : List String :=
  let row := row.map fun cell => cell.splitOn "\n"
  let height := (row.map List.length).foldl max 0
  (List.range height).map fun k => rowLine widths (row.map fun lines => lines.getD k "")

/-- So many dashes. -/
def dashes (count : Nat) : String := String.ofList (List.replicate count '-')

/-- The line between the rows. -/
def rule (widths : List Nat) : String :=
  "+" ++ String.join (widths.map fun width => dashes (width + 2) ++ "+")

/-- The width of a whole line without its two borders. -/
def innerWidth (widths : List Nat) : Nat :=
  (widths.map fun width => width + 3).foldl (· + ·) 0 - 1

/-- The lines of the table. -/
def lines (table : Table) : List String :=
  let rows := table.rows.map fun row => row.map cellText
  let widths := columnWidths table.headings rows
  let inner := innerWidth widths
  ["+" ++ dashes inner ++ "+", "| " ++ pad (inner - 2) table.title ++ " |", rule widths,
   rowLine widths table.headings, rule widths] ++
    rows.flatMap (rowLines widths) ++ [rule widths]

end Table

end Shorthand.Text
