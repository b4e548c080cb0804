import Intake.Numeric.Reading
import Intake.Text.Blank

/-!
# References of cells and rows

The place of a cell in a worksheet part is given by letters for the column, read as digits in base
twenty-six without a zero, and a number for the row. `columnIndex?` and `rowIndex?` give places
counted from zero, and only those that a worksheet can hold.
-/

namespace Intake

/-- How many columns a worksheet can hold. -/
def maxColumns : Nat := 16384

/-- How many rows a worksheet can hold. -/
def maxRows : Nat := 1048576

/-- The value of a letter as a digit of a column, from one to twenty-six. -/
def letterValue (c : Char) : Nat := c.toUpper.toNat - 'A'.toNat + 1

/-- The column that letters spell after those read before, counted from one; there is none when it
leaves the worksheet on the way. -/
def columnNumberFrom? : (number : Nat) → List Char → Option Nat
  | number, [] => some number
  | number, c :: cs =>
    let number := 26 * number + letterValue c
    if maxColumns < number then none else columnNumberFrom? number cs

/-- The column of a cell's reference, counted from zero: that of the letters it begins with. -/
def columnIndex? (reference : String) : Option Nat :=
  let letters := reference.toList.takeWhile Char.isAlpha
  if letters.isEmpty then none else (columnNumberFrom? 0 letters).map (· - 1)

/-- The row of a row's reference, counted from zero. -/
def rowIndex? (reference : String) : Option Nat :=
  ((readNat? (twoPow 64) (Text.trim reference)).filter fun r => 1 ≤ r && r ≤ maxRows).map (· - 1)

end Intake
