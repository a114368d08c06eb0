/-!
# Planes of characters

The large character sets of East Asia are tables: rows of cells, each of which holds a character or
is empty. Rows and cells count from zero.

* `Plane.char?` is the character in a cell.
* `Plane.ofRuns` makes a plane from texts that fill cells of a row one after another.
* `marks` tells which characters a list has, and `unmarked` drops these from another list.
-/

namespace PaperSearch.Text.Charset

/-- The characters of a block of code points. -/
def block (first count : Nat) : List Char :=
  (List.range' first count).map Char.ofNat

structure Plane where
  /-- The number of cells in a row. -/
  width : Nat
  /-- The cells of all rows, one row after another. -/
  cells : Array (Option Char)

namespace Plane

/-- A plane of empty cells. -/
def blank (width rows : Nat) : Plane :=
  ⟨width, Array.replicate (width * rows) none⟩

/-- Puts characters into a row, the first of them into the cell given. -/
def write (p : Plane) (row cell : Nat) (chars : List Char) : Plane :=
  { p with
    cells := (chars.foldl (fun (cells, i) c => (cells.setIfInBounds i (some c), i + 1))
      (p.cells, row * p.width + cell)).1 }

/-- The plane that texts fill, each from a cell of a row on. -/
def ofRuns (width rows : Nat) (runs : List (Nat × Nat × String)) : Plane :=
  runs.foldl (fun p (row, cell, text) => p.write row cell text.toList) (blank width rows)

/-- Puts blocks of code points into rows: the row, the cell for the first code point, how many there
are, and the first of them. -/
def withBlocks (p : Plane) (blocks : List (Nat × Nat × Nat × Nat)) : Plane :=
  blocks.foldl (fun p (row, cell, count, first) => p.write row cell (block first count)) p

/-- The character in a cell of a row. -/
def char? (p : Plane) (row cell : Nat) : Option Char :=
  if cell < p.width then p.cells[row * p.width + cell]?.join else none

/-- All characters, row by row. -/
def toList (p : Plane) : List Char :=
  p.cells.toList.filterMap id

end Plane

/-! ## What a set leaves out -/

/-- For each code point below 2^16, whether its character is in a list. -/
def marks (chars : List Char) : Array Bool :=
  chars.foldl (fun a c => a.setIfInBounds c.toNat true) (Array.replicate 0x10000 false)

/-- The characters of a list that are not marked. -/
def unmarked (marked : Array Bool) (chars : List Char) : List Char :=
  chars.filter fun c => !marked.getD c.toNat false

end PaperSearch.Text.Charset
