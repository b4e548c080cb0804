import Intake.Column
import Intake.Json.Value
import Intake.PartitionStyle

/-!
# Tables

A compiled table: where its raw files and its transformed files are, what they are called, and its
columns, the data columns first and one column for each partition key after them. Settings of the
worksheet without a field here are carried along in `Table.extra`.
-/

namespace Intake

/-- The formats whose records name their fields. -/
def jsonFormats : List String := ["json", "jsonl", "ndjson"]

/-- Do records of a source format name their fields? -/
def isJsonFormat (format : String) : Bool :=
  jsonFormats.any (Text.sameIgnoringAsciiCase (Text.trim format))

/-- A table compiled from a worksheet. -/
structure Table where
  flow : String
  worksheet : String
  batchProfile : String
  datalakeProfile : String
  batchLocation : String
  datalakeLocation : String
  sourceFilename : Option String
  sourceFormat : String
  sourceSchema : String
  sourceTable : String
  sourceLocation : String
  fieldDelimiter : String
  targetSchema : String
  targetTable : String
  targetLocation : String
  /-- The filter on the rows of the source. -/
  condition : Option String
  partitions : List String
  partitionStyle : PartitionStyle
  description : Option String
  /-- Tags, separated by blanks. -/
  tags : Option String
  compression : Option String
  usesSourceName : Bool
  columns : List Column
  /-- Settings that have no field of their own. -/
  extra : Json.Object
  deriving DecidableEq, Repr, Inhabited

namespace Table

/-- Do the raw files consist of JSON records? -/
def isJson (t : Table) : Bool := isJsonFormat t.sourceFormat

/-- The name of the batch document. -/
def batchDocument (t : Table) : String := t.batchProfile ++ "__" ++ t.sourceTable

/-- The name of the datalake document. -/
def datalakeDocument (t : Table) : String := t.datalakeProfile ++ "__" ++ t.targetTable

/-- The target names of the key columns, in column order. -/
def keyColumns (t : Table) : List String :=
  (t.columns.filter (·.isKey)).map (·.targetColumn)

/-- Is the key made of several columns? -/
def hasCompoundKey (t : Table) : Bool := decide (1 < t.keyColumns.length)

/-- The tags, when there is one. -/
def tagList? (t : Table) : Option (List String) :=
  let tags := Text.words (t.tags.getD "")
  if tags.isEmpty then none else some tags

end Table

end Intake
