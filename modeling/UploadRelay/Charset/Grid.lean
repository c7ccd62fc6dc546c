import UploadRelay.Text.CodePoint
-- Grids of characters: each row and column number is a byte of a code, or what is left of it.

namespace UploadRelay

structure Grid where
  firstRow : Nat
  firstColumn : Nat
  -- A full stop stands for an empty cell.
  rows : List String

structure Run where
  row : Nat
  column : Nat
  cells : String

def Grid.empty : Char := '.'

def Grid.cell? (cells : String) (n : Nat) : Option CodePoint :=
  (cells.toList[n]?).bind fun c => if c = empty then none else some (CodePoint.ofChar c)

def Grid.character? (g : Grid) (row column : Nat) : Option CodePoint :=
  if row < g.firstRow ∨ column < g.firstColumn then none
  else (g.rows[row - g.firstRow]?).bind fun cells => cell? cells (column - g.firstColumn)

def Grid.first? (grids : List Grid) (row column : Nat) : Option CodePoint :=
  grids.findSome? fun g => g.character? row column

namespace Run

def character? (runs : List Run) (row column : Nat) : Option CodePoint :=
  runs.findSome? fun r =>
    if r.row = row ∧ r.column ≤ column then Grid.cell? r.cells (column - r.column) else none

def pair? (runs : List Run) (row column : Nat) : Option Text :=
  runs.findSome? fun r =>
    if r.row = row ∧ r.column ≤ column then
      match (r.cells.toList.drop (2 * (column - r.column))).take 2 with
      | [a, b] => some [CodePoint.ofChar a, CodePoint.ofChar b]
      | _ => none
    else none

end Run

end UploadRelay
