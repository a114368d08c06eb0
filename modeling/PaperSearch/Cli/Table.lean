import PaperSearch.Text.Width

/-!
# Tables

Rows of cells under a header, in boxes. A cell has a line for each line of its text; a column is as
wide as its widest line, and a blank stands on both sides of it.

* `Table.render` draws a table.
-/

namespace PaperSearch

structure Table where
  header : List String
  rows : List (List String)
  deriving Repr

namespace Table

/-- The lines of a text, split at line feeds. -/
def linesOf : List Char → List (List Char)
  | [] => [[]]
  | c :: rest =>
    if c = '\n' then [] :: linesOf rest
    else
      match linesOf rest with
      | [] => [[c]]
      | line :: lines => (c :: line) :: lines

def cellLines (cell : String) : List (List Char) :=
  linesOf cell.toList

/-- The width of a cell: that of its widest line. -/
def cellWidth (cell : String) : Nat :=
  ((cellLines cell).map Text.width).foldl max 0

/-- The larger of two widths in each column. -/
def widen : List Nat → List Nat → List Nat
  | a :: as, b :: bs => max a b :: widen as bs
  | as, [] => as
  | [], bs => bs

/-- The widths of the columns. -/
def widths (t : Table) : List Nat :=
  (t.rows.map fun row => row.map cellWidth).foldl widen (t.header.map cellWidth)

/-! ## Lines -/

/-- The characters of a line between rows: its left end, filling, crossing and right end. -/
structure Rule where
  left : Char
  filling : Char
  crossing : Char
  right : Char

def topRule : Rule := ⟨'┌', '─', '┬', '┐'⟩

def headerRule : Rule := ⟨'╞', '═', '╪', '╡'⟩

def rowRule : Rule := ⟨'├', '╌', '┼', '┤'⟩

def bottomRule : Rule := ⟨'└', '─', '┴', '┘'⟩

/-- Pieces with a separator between neighbours and an end on both sides. -/
def enclose (left separator right : Char) (pieces : List (List Char)) : List Char :=
  left :: List.intercalate [separator] pieces ++ [right]

def Rule.draw (rule : Rule) (widths : List Nat) : List Char :=
  enclose rule.left rule.crossing rule.right
    (widths.map fun w => List.replicate (w + 2) rule.filling)

/-- A line of a cell, filled up to the width of its column. -/
def fill (width : Nat) (line : List Char) : List Char :=
  ' ' :: line ++ List.replicate (width - Text.width line) ' ' ++ [' ']

/-- The lines of a row. -/
def drawRow (widths : List Nat) (row : List String) : List (List Char) :=
  let cells := row.map cellLines
  let height := (cells.map List.length).foldl max 0
  (List.range height).map fun i =>
    enclose '│' '┆' '│'
      ((widths.zip cells).map fun (width, lines) => fill width ((lines[i]?).getD []))

/-- The lines of the rows, with a rule between neighbours. -/
def drawRows (widths : List Nat) : List (List String) → List (List Char)
  | [] => []
  | [row] => drawRow widths row
  | row :: rest => drawRow widths row ++ rowRule.draw widths :: drawRows widths rest

/-- The lines of a table. -/
def lines (t : Table) : List (List Char) :=
  let widths := t.widths
  topRule.draw widths :: drawRow widths t.header ++
    headerRule.draw widths :: drawRows widths t.rows ++ [bottomRule.draw widths]

def render (t : Table) : String :=
  String.ofList (List.intercalate ['\n'] t.lines)

end Table
end PaperSearch
