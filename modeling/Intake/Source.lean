import Intake.KeyMap

/-!
# Source documents

A source document declares one table to the transformation tool: where its files are, in which
form, its columns, and the tests that its data has to pass. Every compiled table has two of them,
one for the raw files as they are delivered and one for the transformed files (`SourceKind`).
-/

namespace Intake

/-- The representation of a table that a source document describes. -/
inductive SourceKind where
  /-- The raw files as delivered. -/
  | batch
  /-- The transformed columnar files. -/
  | datalake
  deriving DecidableEq, Repr, Inhabited

namespace SourceKind

/-- The name of a kind, also that of its directory. -/
def name : SourceKind → String
  | batch => "batch"
  | datalake => "datalake"

/-- Both kinds, in the order in which they are written. -/
def all : List SourceKind := [batch, datalake]

end SourceKind

/-- A test of one column, on the rows that satisfy a condition. -/
inductive ColumnTest where
  | unique (condition : Option String)
  | notNull (condition : Option String)
  deriving DecidableEq, Repr

/-- A test that a combination of columns is unique, on the rows that satisfy a condition. -/
structure CombinationTest where
  columns : List String
  condition : Option String
  deriving DecidableEq, Repr

/-- A column of a source document. -/
structure SourceColumn where
  name : String
  description : String
  dataType : String
  tests : List ColumnTest
  /-- The mark of a partition column. -/
  partitionMark : Option String
  deriving DecidableEq, Repr

/-- Where and how the files of a table are stored. -/
structure Storage where
  flow : String
  fieldDelimiter : Option String
  fileFormat : String
  location : String
  format : Option String
  properties : KeyMap String
  deriving DecidableEq, Repr

/-- The table of a source document. -/
structure SourceTable where
  name : String
  description : String
  identifier : String
  storage : Storage
  tests : List CombinationTest
  tags : Option (List String)
  columns : List SourceColumn
  deriving DecidableEq, Repr

/-- The tables of a profile. -/
structure SourceProfile where
  name : String
  tables : List SourceTable
  deriving DecidableEq, Repr

/-- A source document. -/
structure SourceDocument where
  version : Nat
  sources : List SourceProfile
  deriving DecidableEq, Repr

namespace SourceDocument

/-- The version of the format of source documents. -/
def formatVersion : Nat := 2

end SourceDocument

end Intake
