import Intake.Source.Tests

/-!
# The source documents of a table

`Table.sourceDocument` describes a table in one of its two representations. Raw files that are not
JSON records hold text only, so that all their data columns have one wide text type there; the
transformed files have the declared types.
-/

namespace Intake.Table

/-- The type of a column of raw text. -/
def rawTextType : String := "varchar(65535)"

/-- The compression of a table that declares none. -/
def noCompression : String := "none"

/-- The profile that declares a representation. -/
def profile (t : Table) : SourceKind → String
  | .batch => t.batchProfile
  | .datalake => t.datalakeProfile

/-- The name of the table in a representation. -/
def identifier (t : Table) : SourceKind → String
  | .batch => t.sourceTable
  | .datalake => t.targetTable

/-- The name of the document of a representation. -/
def documentName (t : Table) : SourceKind → String
  | .batch => t.batchDocument
  | .datalake => t.datalakeDocument

/-- The name of a column in a representation. -/
def columnName (c : Column) : SourceKind → String
  | .batch => c.sourceColumn
  | .datalake => c.targetColumn

/-- The type of a column in a representation. -/
def columnType (t : Table) (c : Column) (kind : SourceKind) : String :=
  if kind == .batch && !c.isPartition && !t.isJson then rawTextType else c.dataType

/-- A column as a source document declares it. -/
def sourceColumn (t : Table) (kind : SourceKind) (c : Column) : SourceColumn where
  name := columnName c kind
  description := c.description
  dataType := t.columnType c kind
  tests := t.columnTests c kind
  partitionMark := if c.isPartition then some "yes" else none

/-- The properties of the raw files. -/
def batchProperties (t : Table) : KeyMap String :=
  KeyMap.ofList <|
    [("CrawlerSchemaDeserializerVersion", "1.0"), ("CrawlerSchemaSerializerVersion", "1.0"),
      ("typeOfData", "file"), ("compressionType", t.compression.getD noCompression)] ++
    if t.isJson then [("classification", "json")]
    else [("areColumnsQuoted", "false"), ("classification", "csv"), ("columnsOrdered", "true"),
      ("delimiter", t.fieldDelimiter)]

/-- How the files of a representation are stored. -/
def storage (t : Table) : SourceKind → Storage
  | .batch =>
    { flow := t.flow
      fieldDelimiter := if t.isJson then none else some t.fieldDelimiter
      fileFormat := "textfile"
      location := t.sourceLocation
      format := some t.sourceFormat
      properties := t.batchProperties }
  | .datalake =>
    { flow := t.flow
      fieldDelimiter := none
      fileFormat := "parquet"
      location := t.targetLocation
      format := none
      properties := KeyMap.ofList [("classification", "parquet")] }

/-- The description of a table, or the flow and the document when it has none. -/
def sourceDescription (t : Table) (kind : SourceKind) : String :=
  t.description.getD (t.flow ++ " - " ++ t.documentName kind)

/-- The table as a source document declares it. -/
def sourceTableEntry (t : Table) (kind : SourceKind) : SourceTable where
  name := t.documentName kind
  description := t.sourceDescription kind
  identifier := t.identifier kind
  storage := t.storage kind
  tests := t.combinationTests kind
  tags := match kind with
    | .batch => none
    | .datalake => t.tagList?
  columns := t.columns.map (t.sourceColumn kind)

/-- The source document of a table in one of its representations. -/
def sourceDocument (t : Table) (kind : SourceKind) : SourceDocument where
  version := SourceDocument.formatVersion
  sources := [⟨t.profile kind, [t.sourceTableEntry kind]⟩]

end Intake.Table
