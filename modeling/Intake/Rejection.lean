import Intake.Text.Quoted

/-!
# Why a workbook is rejected

`Rejection` lists the faults that the content of a workbook can have. Each names the worksheet or
the table, and the row where there is one, so that the author of the workbook finds the cell.
`Rejection.message` is the wording of all of them.
-/

namespace Intake

/-- A target column that occurs more than once in a table. -/
structure RepeatedColumn where
  table : String
  column : String
  deriving DecidableEq, Repr

/-- A fault in the content of a workbook. -/
inductive Rejection where
  /-- The second row of an ingestion worksheet does not declare its type. -/
  | wrongType (worksheet found : String)
  /-- A row comes before the first directive. -/
  | noDirective (worksheet : String) (row : Nat)
  | targetColumnMissing (table : String) (row : Nat)
  | targetColumnInvalid (table : String) (row : Nat) (column : String)
  | dataTypeMissing (table : String) (row : Nat)
  | dataTypeInvalid (table : String) (row : Nat) (dataType : String)
  /-- No name for the source table can be had from the filename. -/
  | filenameInvalid (worksheet : String) (filename : Option String)
  | partitionStyleInvalid (table style : String)
  | partitionInvalid (table partition : String)
  | targetTablesRepeated (tables : List String)
  | documentsRepeated (documents : List String)
  | columnsRepeated (columns : List RepeatedColumn)
  deriving DecidableEq, Repr

namespace Rejection

/-- The place in a table that a fault is about. -/
def place (table : String) (row : Nat) : String :=
  "table '" ++ table ++ "' row " ++ toString row

/-- A list of names in a message. -/
def enumerate (names : List String) : String := ", ".intercalate names

/-- The wording of a fault. -/
def message : Rejection → String
  | wrongType worksheet found =>
    "worksheet '" ++ worksheet ++ "': invalid type " ++ Text.quote found ++
      ", expected #INGESTION"
  | noDirective worksheet row =>
    "worksheet '" ++ worksheet ++ "' row " ++ toString row ++
      ": row found before any #CONFIG, #WHERE or #SELECT directive"
  | targetColumnMissing table row => place table row ++ ": missing target_column"
  | targetColumnInvalid table row column =>
    place table row ++ ": invalid target_column '" ++ column ++ "'"
  | dataTypeMissing table row => place table row ++ ": missing data_type"
  | dataTypeInvalid table row dataType =>
    place table row ++ ": invalid data_type '" ++ dataType ++ "'"
  | filenameInvalid worksheet filename =>
    "worksheet '" ++ worksheet ++ "': invalid filename " ++ Text.quoteOption filename
  | partitionStyleInvalid table style =>
    "table '" ++ table ++ "': invalid partitions style '" ++ style ++ "'"
  | partitionInvalid table partition =>
    "table '" ++ table ++ "': invalid partition '" ++ partition ++ "'"
  | targetTablesRepeated tables => "duplicated target tables: " ++ enumerate tables
  | documentsRepeated documents => "duplicated source documents: " ++ enumerate documents
  | columnsRepeated columns =>
    "duplicated columns: " ++
      enumerate (columns.map fun c => "column '" ++ c.column ++ "' in table '" ++ c.table ++ "'")

end Rejection

end Intake
