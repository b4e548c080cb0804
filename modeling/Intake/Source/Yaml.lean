import Intake.Source
import Intake.Yaml.Value

/-!
# Source documents as YAML

`SourceDocument.toTree` lays a source document out as a tree, fields in a fixed order and absent
ones left out.
-/

namespace Intake

open Yaml (Tree)

/-- The record with the condition of a test. -/
def conditionTree (condition : Option String) : Tree :=
  .record (Tree.optionalField "where" condition)

namespace ColumnTest

/-- A test as a record with its name as the only field. -/
def toTree : ColumnTest → Tree
  | unique condition => .record [("unique_where", conditionTree condition)]
  | notNull condition => .record [("not_null", conditionTree condition)]

end ColumnTest

namespace CombinationTest

/-- A test as a record with its name as the only field. -/
def toTree (t : CombinationTest) : Tree :=
  .record [("unique_columns_where", .record
    (("combination_of_columns", .list (t.columns.map .text)) ::
      Tree.optionalField "where" t.condition))]

end CombinationTest

namespace SourceColumn

/-- The mark of a partition column as a field. -/
def markField : Option String → List (String × Tree)
  | none => []
  | some mark => [("meta", .record [("partition", .text mark)])]

/-- A column as a record. -/
def toTree (c : SourceColumn) : Tree :=
  .record (
    [("name", .text c.name), ("description", .text c.description),
      ("data_type", .text c.dataType)] ++
    Tree.listField "tests" (c.tests.map ColumnTest.toTree) ++
    markField c.partitionMark)

end SourceColumn

namespace Storage

/-- The storage of a table as a record. -/
def toTree (s : Storage) : Tree :=
  .record (
    [("flow", .text s.flow)] ++
    Tree.optionalField "field_delimiter" s.fieldDelimiter ++
    [("file_format", .text s.fileFormat), ("location", .text s.location)] ++
    Tree.optionalField "format" s.format ++
    [("table_properties", .record (s.properties.entries.map fun e => (e.1, .text e.2)))])

end Storage

namespace SourceTable

/-- The tags as a field. -/
def tagsField : Option (List String) → List (String × Tree)
  | none => []
  | some tags => [("tags", .list (tags.map .text))]

/-- A table as a record. -/
def toTree (t : SourceTable) : Tree :=
  .record (
    [("name", .text t.name), ("description", .text t.description),
      ("identifier", .text t.identifier), ("meta", t.storage.toTree)] ++
    Tree.listField "tests" (t.tests.map CombinationTest.toTree) ++
    tagsField t.tags ++
    [("columns", .list (t.columns.map SourceColumn.toTree))])

end SourceTable

namespace SourceProfile

/-- A profile as a record. -/
def toTree (p : SourceProfile) : Tree :=
  .record [("name", .text p.name), ("tables", .list (p.tables.map SourceTable.toTree))]

end SourceProfile

namespace SourceDocument

/-- A source document as a tree. -/
def toTree (d : SourceDocument) : Tree :=
  .record [("version", .number d.version),
    ("sources", .list (d.sources.map SourceProfile.toTree))]

end SourceDocument

end Intake
