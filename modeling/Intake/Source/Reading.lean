import Intake.Source
import Intake.Yaml.Fields
import Intake.Yaml.Reading

/-!
# Reading source documents

`SourceDocument.ofText?` reads a source document back from its text. Lists of tests and tags may be
missing, as may a condition; what is not known is ignored. A test of a column is a record that has
one of two fields.
-/

namespace Intake

open Yaml (Value optionalSetting? requiredSetting? settingOr?)

/-- Reads the condition of a test. -/
def conditionOf? (v : Value) : Option (Option String) :=
  v.fields?.bind fun fields => optionalSetting? fields "where"

/-- Reads the number of a version, which has 32 bits. -/
def versionOf? : Value → Option Nat
  | .integer i => if 0 ≤ i ∧ i < twoPow 32 then some i.toNat else none
  | _ => none

namespace ColumnTest

/-- Reads the test of a column. -/
def ofYaml? (v : Value) : Option ColumnTest := do
  let fields ← v.fields?
  let whereUnique ← settingOr? (fun v => (conditionOf? v).map some) none fields "unique_where"
  let whereNotNull ← settingOr? (fun v => (conditionOf? v).map some) none fields "not_null"
  match whereUnique, whereNotNull with
  | some condition, none => some (unique condition)
  | none, some condition => some (notNull condition)
  | _, _ => none

end ColumnTest

namespace CombinationTest

/-- Reads the columns of a test and its condition. -/
def ofFields? (fields : List (String × Value)) : Option CombinationTest := do
  return {
    columns := ← requiredSetting? (Value.items? Value.text?) fields "combination_of_columns"
    condition := ← optionalSetting? fields "where" }

/-- Reads the test of a combination of columns. -/
def ofYaml? (v : Value) : Option CombinationTest := do
  let fields ← v.fields?
  requiredSetting? (fun test => test.fields?.bind ofFields?) fields "unique_columns_where"

end CombinationTest

namespace SourceColumn

/-- Reads the mark of a partition column. -/
def markOf? (v : Value) : Option (Option String) :=
  v.fields?.bind fun fields => (requiredSetting? Value.text? fields "partition").map some

/-- Reads a column. -/
def ofYaml? (v : Value) : Option SourceColumn := do
  let fields ← v.fields?
  return {
    name := ← requiredSetting? Value.text? fields "name"
    description := ← requiredSetting? Value.text? fields "description"
    dataType := ← requiredSetting? Value.text? fields "data_type"
    tests := ← settingOr? (Value.items? ColumnTest.ofYaml?) [] fields "tests"
    partitionMark := ← settingOr? markOf? none fields "meta" }

end SourceColumn

namespace Storage

/-- Reads the properties of files. -/
def propertiesOf? (v : Value) : Option (KeyMap String) := do
  let fields ← v.fields?
  let entries ← fields.mapM fun (key, value) => value.text?.map fun s => (key, s)
  return KeyMap.ofList entries

/-- Reads how the files of a table are stored. -/
def ofYaml? (v : Value) : Option Storage := do
  let fields ← v.fields?
  return {
    flow := ← requiredSetting? Value.text? fields "flow"
    fieldDelimiter := ← optionalSetting? fields "field_delimiter"
    fileFormat := ← requiredSetting? Value.text? fields "file_format"
    location := ← requiredSetting? Value.text? fields "location"
    format := ← optionalSetting? fields "format"
    properties := ← requiredSetting? propertiesOf? fields "table_properties" }

end Storage

namespace SourceTable

/-- Reads a table. -/
def ofYaml? (v : Value) : Option SourceTable := do
  let fields ← v.fields?
  return {
    name := ← requiredSetting? Value.text? fields "name"
    description := ← requiredSetting? Value.text? fields "description"
    identifier := ← requiredSetting? Value.text? fields "identifier"
    storage := ← requiredSetting? Storage.ofYaml? fields "meta"
    tests := ← settingOr? (Value.items? CombinationTest.ofYaml?) [] fields "tests"
    tags := ← settingOr? (fun v => (v.items? Value.text?).map some) none fields "tags"
    columns := ← requiredSetting? (Value.items? SourceColumn.ofYaml?) fields "columns" }

end SourceTable

namespace SourceProfile

/-- Reads a profile. -/
def ofYaml? (v : Value) : Option SourceProfile := do
  let fields ← v.fields?
  return {
    name := ← requiredSetting? Value.text? fields "name"
    tables := ← requiredSetting? (Value.items? SourceTable.ofYaml?) fields "tables" }

end SourceProfile

namespace SourceDocument

/-- Reads a source document from a value. -/
def ofYaml? (v : Value) : Option SourceDocument := do
  let fields ← v.fields?
  return {
    version := ← requiredSetting? versionOf? fields "version"
    sources := ← requiredSetting? (Value.items? SourceProfile.ofYaml?) fields "sources" }

/-- Reads a source document from its text. -/
def ofText? (s : String) : Option SourceDocument := (Value.ofText? s).bind ofYaml?

end SourceDocument

end Intake
