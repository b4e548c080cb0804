import Intake.Json.Fields
import Intake.Table

/-!
# Tables as JSON

`Table.toJson` writes a table as an object: the fields in a fixed order, absent ones left out, and
the extra settings after them as members of the same object. `Table.ofTerm?` reads one back: what
is not the name of a field is an extra setting. A column may also be given as the array of its
fields in order, the last ones left out.
-/

namespace Intake

namespace PartitionStyle

/-- Reads the name of a style, or an object with the name as its only key. -/
def ofTerm? : Json.Term → Option PartitionStyle
  | .string s? => s?.bind ofName?
  | .object [(key, .null)] => key.bind ofName?
  | _ => none

end PartitionStyle

namespace Column

/-- The names of the fields of a column, in order. -/
def fieldNames : List String :=
  ["source_column", "source_formula", "target_column", "description", "data_type", "format",
    "is_key", "is_index", "is_nullable", "is_partition"]

/-- The fields of a column under their names, in order. -/
def fields (c : Column) : List (String × Option Json.Value) :=
  [("source_column", some (.string c.sourceColumn)),
    ("source_formula", c.sourceFormula.map .string),
    ("target_column", some (.string c.targetColumn)),
    ("description", some (.string c.description)),
    ("data_type", some (.string c.dataType)),
    ("format", c.format.map .string),
    ("is_key", some (.bool c.isKey)),
    ("is_index", some (.bool c.isIndex)),
    ("is_nullable", some (.bool c.isNullable)),
    ("is_partition", some (.bool c.isPartition))]

/-- A column as an object. -/
def toJson (c : Column) : Json.Value := .object (Json.presentMembers c.fields)

/-- Reads the fields of a column. -/
def ofMembers? (members : List (String × Json.Term)) : Option Column := do
  return {
    sourceColumn := ← Json.requiredField? Json.Term.text? members "source_column"
    sourceFormula := ← Json.optionalText? members "source_formula"
    targetColumn := ← Json.requiredField? Json.Term.text? members "target_column"
    description := ← Json.textOrEmpty? members "description"
    dataType := ← Json.requiredField? Json.Term.text? members "data_type"
    format := ← Json.optionalText? members "format"
    isKey := ← Json.flag? members "is_key"
    isIndex := ← Json.flag? members "is_index"
    isNullable := ← Json.flag? members "is_nullable"
    isPartition := ← Json.flag? members "is_partition" }

/-- Reads a column from an object or an array. -/
def ofTerm? : Json.Term → Option Column
  | .array items =>
    if items.length ≤ fieldNames.length then ofMembers? (fieldNames.zip items) else none
  | t => t.members?.bind ofMembers?

/-- Reads an array of columns. -/
def listOfTerm? : Json.Term → Option (List Column)
  | .array items => items.mapM ofTerm?
  | _ => none

end Column

namespace Table

/-- The names of the fields of a table; every other key is an extra setting. -/
def fieldNames : List String :=
  ["flow", "worksheet", "batch_profile", "datalake_profile", "batch_location",
    "datalake_location", "source_filename", "source_format", "source_schema", "source_table",
    "source_location", "field_delimiter", "target_schema", "target_table", "target_location",
    "where_condition", "partitions", "partitions_style", "description", "tags",
    "compression_type", "use_source_name", "columns"]

/-- The fields of a table under their names, in order. -/
def fields (t : Table) : List (String × Option Json.Value) :=
  [("flow", some (.string t.flow)),
    ("worksheet", some (.string t.worksheet)),
    ("batch_profile", some (.string t.batchProfile)),
    ("datalake_profile", some (.string t.datalakeProfile)),
    ("batch_location", some (.string t.batchLocation)),
    ("datalake_location", some (.string t.datalakeLocation)),
    ("source_filename", t.sourceFilename.map .string),
    ("source_format", some (.string t.sourceFormat)),
    ("source_schema", some (.string t.sourceSchema)),
    ("source_table", some (.string t.sourceTable)),
    ("source_location", some (.string t.sourceLocation)),
    ("field_delimiter", some (.string t.fieldDelimiter)),
    ("target_schema", some (.string t.targetSchema)),
    ("target_table", some (.string t.targetTable)),
    ("target_location", some (.string t.targetLocation)),
    ("where_condition", t.condition.map .string),
    ("partitions", some (.array (t.partitions.map .string))),
    ("partitions_style", some (.string t.partitionStyle.name)),
    ("description", t.description.map .string),
    ("tags", t.tags.map .string),
    ("compression_type", t.compression.map .string),
    ("use_source_name", some (.bool t.usesSourceName)),
    ("columns", some (.array (t.columns.map Column.toJson)))]

/-- A table as an object. -/
def toJson (t : Table) : Json.Value :=
  .object (Json.presentMembers t.fields ++ t.extra.members)

/-- Reads the members of a table; an extra setting may be `levels` deep. -/
def ofMembers? (levels : Nat) (members : List (String × Json.Term)) : Option Table := do
  let text := Json.requiredField? Json.Term.text? members
  let extra ← Json.settledMembers? levels (members.filter fun m => !fieldNames.contains m.1)
  return {
    flow := ← text "flow"
    worksheet := ← text "worksheet"
    batchProfile := ← text "batch_profile"
    datalakeProfile := ← text "datalake_profile"
    batchLocation := ← text "batch_location"
    datalakeLocation := ← text "datalake_location"
    sourceFilename := ← Json.optionalText? members "source_filename"
    sourceFormat := ← text "source_format"
    sourceSchema := ← text "source_schema"
    sourceTable := ← text "source_table"
    sourceLocation := ← text "source_location"
    fieldDelimiter := ← text "field_delimiter"
    targetSchema := ← text "target_schema"
    targetTable := ← text "target_table"
    targetLocation := ← text "target_location"
    condition := ← Json.optionalText? members "where_condition"
    partitions := ← Json.requiredField? Json.Term.texts? members "partitions"
    partitionStyle := ← Json.requiredField? PartitionStyle.ofTerm? members "partitions_style"
    description := ← Json.optionalText? members "description"
    tags := ← Json.optionalText? members "tags"
    compression := ← Json.optionalText? members "compression_type"
    usesSourceName := ← Json.flag? members "use_source_name"
    columns := ← Json.requiredField? Column.listOfTerm? members "columns"
    extra := Json.Object.ofMembers extra.1 extra.2 }

/-- Reads a table from an object. -/
def ofTerm? (levels : Nat) (t : Json.Term) : Option Table :=
  t.members?.bind (ofMembers? levels)

/-- The number of arrays and objects that a document may have inside each other. -/
def documentLevels : Nat := 127

/-- Reads a text that holds a table. -/
def ofText? (s : String) : Option Table :=
  (Json.Term.read? s).bind (ofTerm? (documentLevels - 1))

end Table

end Intake
