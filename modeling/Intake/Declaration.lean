import Intake.KeyMap
import Intake.Cell

/-!
# Declarations

What an ingestion worksheet declares, before any of it is interpreted: the settings under their
keys and one entry for each column row. A field of an entry is absent when the worksheet has no
column with that header, and empty when it has one and the cell is.
-/

namespace Intake

/-- One declared column: the cells of its row under the headers that are known. -/
structure ColumnEntry where
  /-- The row of the worksheet, counted from one. -/
  row : Nat
  sourceName : Option Cell
  newName : Option Cell
  description : Option Cell
  dataType : Option Cell
  /-- The length or precision; for dates and timestamps the format. -/
  length : Option Cell
  key : Option Cell
  index : Option Cell
  nullable : Option Cell
  deriving DecidableEq, Repr, Inhabited

namespace ColumnEntry

/-- The text of a field, when the field is there and not blank. -/
def text? (field : Option Cell) : Option String := field.bind Cell.text?

/-- A field as a flag; an absent one is false. -/
def flag (field : Option Cell) : Bool := field.any Cell.isTrue

end ColumnEntry

/-- Everything an ingestion worksheet declares. -/
structure Declaration where
  worksheet : String
  settings : KeyMap Cell
  entries : List ColumnEntry
  deriving DecidableEq, Repr, Inhabited

namespace Declaration

/-- The cell of a setting. -/
def setting? (d : Declaration) (key : String) : Option Cell := d.settings.get? key

/-- The text of a setting, when it is set and not blank. -/
def text? (d : Declaration) (key : String) : Option String := (d.setting? key).bind Cell.text?

/-- Like `text?`, but a text of blanks only is given as it was written. -/
def verbatim? (d : Declaration) (key : String) : Option String :=
  match d.setting? key with
  | some (.text s) => if s ≠ "" ∧ Text.isBlankText s then some s else Text.trimmed? s
  | some c => c.text?
  | none => none

/-- A setting as a flag; one that is not set is false. -/
def flag (d : Declaration) (key : String) : Bool := (d.setting? key).any Cell.isTrue

end Declaration

end Intake
