import Intake.Cell

/-!
# Worksheets

A worksheet is a title and a grid of cells by rows. Rows may have different lengths; a position
outside the grid is empty.
-/

namespace Intake

/-- A worksheet: its title and its rows. -/
structure Worksheet where
  title : String
  rows : List (List Cell)
  deriving DecidableEq, Repr, Inhabited

namespace Worksheet

/-- The cell at a row and a column, both counted from zero. -/
def cell (sheet : Worksheet) (row column : Nat) : Cell :=
  ((sheet.rows[row]?).bind (·[column]?)).getD .empty

end Worksheet

end Intake
