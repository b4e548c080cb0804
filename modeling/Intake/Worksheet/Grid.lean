import Intake.Cell
import Intake.Workbook.Fault
import Intake.Worksheet.Reference
import Intake.Xml.Node

/-!
# The grid of a worksheet part

How the rows of a worksheet are read from its part. Rows and cells stand where their references say
(`gridOf`); one without a reference follows the one before it. What comes later replaces what stood
in its place, and rows at the end without any value are dropped. Texts are the runs of a text put
together, without those that tell how it is pronounced (`runText`).
-/

namespace Intake

open Xml (Node)

/-! ## Texts -/

mutual

/-- The texts of the runs in a node, outside of phonetic runs. -/
def runTexts : Node → List String
  | .element name attributes children =>
    if name == "rPh" then []
    else
      let inner := runTextsOf children
      if name == "t" then
        match (Node.element name attributes children).text? with
        | some s => s :: inner
        | none => inner
      else inner
  | _ => []

/-- The texts of the runs in a list of nodes. -/
def runTextsOf : List Node → List String
  | [] => []
  | n :: rest => runTexts n ++ runTextsOf rest

end

/-- The text of a node, put together from its runs. -/
def runText (n : Node) : String := String.join (runTexts n)

/-- The shared texts of a workbook, from their part. -/
def sharedTextsOf (root : Node) : List String :=
  (root.childrenNamed "si").map fun n => if root.isNamed "rPh" then "" else runText n

/-! ## Cells -/

/-- The value that a cell element holds as it is written. -/
def rawValue? (cell : Node) : Option String :=
  (cell.children.find? (Node.isNamed "v")).bind Node.text?

/-- The content of a cell element. The texts of a cell inside of a phonetic run do not count. -/
def cellOf (shared : Array String) (phonetic : Bool) (cell : Node) : Cell :=
  let raw := rawValue? cell
  match (cell.attribute? "t").getD "n" with
  | "s" =>
    match (raw.bind fun v => readNat? (twoPow 64) (Text.trim v)).bind (shared[·]?) with
    | some s => .text s
    | none => .empty
  | "inlineStr" =>
    match cell.children.find? (Node.isNamed "is") with
    | some n => .text (if phonetic then "" else runText n)
    | none => .empty
  | "b" =>
    match raw with
    | some v => .bool (Text.trim v == "1")
    | none => .empty
  | "str" | "e" | "d" =>
    match raw with
    | some v => .text v
    | none => .empty
  | _ =>
    match raw.bind fun v => readBinary64? (Text.trim v) with
    | some x => .number x
    | none => .empty

/-! ## Places -/

/-- Puts a value at a place of an array, which grows as far as needed. -/
def placeAt {α : Type} (filler : α) (xs : Array α) (i : Nat) (x : α) : Array α :=
  (xs ++ Array.replicate (i + 1 - xs.size) filler).setIfInBounds i x

/-- The column of a cell element: that of its reference, or the next one. -/
def columnOf (part : String) (next : Nat) (cell : Node) : Except WorkbookFault Nat :=
  match cell.attribute? "r" with
  | none => .ok next
  | some r =>
    match columnIndex? r with
    | some column => .ok column
    | none => .error (.cellReferenceInvalid part r)

/-- The row of a row element: that of its reference, or the next one. -/
def rowOf (part : String) (next : Nat) (row : Node) : Except WorkbookFault Nat :=
  match row.attribute? "r" with
  | none => .ok next
  | some r =>
    match rowIndex? r with
    | some row => .ok row
    | none => .error (.rowReferenceInvalid part r)

/-- Places the cells of a row. -/
def placeCells (part : String) (row : Nat) (value : Node → Cell) : (cells : Array Cell) →
    (next : Nat) → List Node → Except WorkbookFault (Array Cell)
  | cells, _, [] => .ok cells
  | cells, next, n :: rest => do
    let column ← columnOf part next n
    if maxColumns ≤ column then .error (.cellsTooMany part (row + 1))
    else placeCells part row value (placeAt .empty cells column (value n)) (column + 1) rest

/-- Places the rows of a worksheet. Each comes with whether it lies inside of a phonetic run. -/
def placeRows (part : String) (shared : Array String) : (rows : Array (List Cell)) →
    (next : Nat) → List (Bool × Node) → Except WorkbookFault (Array (List Cell))
  | rows, _, [] => .ok rows
  | rows, next, (phonetic, n) :: rest => do
    let row ← rowOf part next n
    if maxRows ≤ row then .error (.rowsTooMany part)
    else
      let cells ← placeCells part row (cellOf shared phonetic) #[] 0 (n.childrenNamed "c")
      placeRows part shared (placeAt [] rows row cells.toList) (row + 1) rest

mutual

/-- The row elements in a node, in document order, each with whether it lies in a phonetic run. -/
def rowElements (phonetic : Bool) : Node → List (Bool × Node)
  | .element name attributes children =>
    let inner := rowElementsOf (phonetic || name == "rPh") children
    if name == "row" then (phonetic, .element name attributes children) :: inner else inner
  | _ => []

/-- The row elements in a list of nodes. -/
def rowElementsOf (phonetic : Bool) : List Node → List (Bool × Node)
  | [] => []
  | n :: rest => rowElements phonetic n ++ rowElementsOf phonetic rest

end

/-- The rows without those at the end that hold no value. -/
def dropBlankEnd (rows : List (List Cell)) : List (List Cell) :=
  (rows.reverse.dropWhile fun cells => cells.all Cell.isBlank).reverse

/-- The grid of a worksheet part. -/
def gridOf (part : String) (shared : Array String) (root : Node) :
    Except WorkbookFault (List (List Cell)) :=
  (placeRows part shared #[] 0 (rowElements false root)).map fun rows => dropBlankEnd rows.toList

end Intake
