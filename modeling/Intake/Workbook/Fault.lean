import Intake.Numeric.Shortest
import Intake.Text.Quoted

/-!
# Faults of workbooks

What can be wrong with the container of a workbook or with its parts, as opposed to what its
worksheets declare. `WorkbookFault.message` is the wording.
-/

namespace Intake

/-- Why a file is not a workbook. -/
inductive WorkbookFault where
  | notContainer
  /-- An entry of the container cannot be opened. -/
  | entryUnreadable (index : Nat)
  | partMissing (part : String)
  /-- A part is not an XML document. -/
  | partMalformed (part : String)
  /-- A worksheet does not say which part holds it. -/
  | relationMissing (sheet : String)
  | relationUnknown (sheet relation : String)
  | rowReferenceInvalid (part reference : String)
  | rowsTooMany (part : String)
  | cellReferenceInvalid (part reference : String)
  /-- A cell lies past the last column; the row is counted from one. -/
  | cellsTooMany (part : String) (row : Nat)
  deriving DecidableEq, Repr

namespace WorkbookFault

/-- The wording of a fault. -/
def message : WorkbookFault → String
  | notContainer => "not a valid xlsx container"
  | entryUnreadable index => "failed to read entry " ++ toString index
  | partMissing part => "missing " ++ part
  | partMalformed part => part ++ ": malformed xml"
  | relationMissing sheet => "sheet '" ++ sheet ++ "' has no r:id"
  | relationUnknown sheet relation =>
    "sheet '" ++ sheet ++ "' refers to unknown relationship " ++ relation
  | rowReferenceInvalid part reference =>
    part ++ ": invalid row reference " ++ Text.quote reference
  | rowsTooMany part => part ++ ": too many rows"
  | cellReferenceInvalid part reference =>
    part ++ ": invalid cell reference " ++ Text.quote reference
  | cellsTooMany part row => part ++ ": too many cells in row " ++ toString row

end WorkbookFault

end Intake
