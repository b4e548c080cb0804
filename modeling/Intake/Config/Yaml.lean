import Intake.Config
import Intake.Yaml.Fields
import Intake.Yaml.Reading

/-!
# Reading the configuration

`Config.ofYaml?` reads the configuration from a YAML value. Keys may be written in any case of
letters (`Value.lowerKeys`); of keys that become equal the last one counts, with its whole value.
Three sections have to be there, each with two texts; the other settings have defaults, which also
apply where a setting is null. What is not known is ignored.
-/

namespace Intake

namespace Yaml.Value

/-- A key in lower case, when it is a text. -/
def lowerKey : Value → Value
  | text s => text (Text.lower s)
  | v => v

/-- Sets the value under a key: in place of the one there is, or at the end. -/
def setEntry (key value : Value) : List (Value × Value) → List (Value × Value)
  | [] => [(key, value)]
  | (k, v) :: rest =>
    if same k key then (k, value) :: rest else (k, v) :: setEntry key value rest

mutual

/-- The value with the keys of its mappings in lower case, as deep as mappings reach. -/
def lowerKeys : Value → Value
  | mapping entries => mapping ((lowerEntries entries).foldl (fun es e => setEntry e.1 e.2 es) [])
  | v => v

/-- The entries of a mapping with their keys in lower case. -/
def lowerEntries : List (Value × Value) → List (Value × Value)
  | [] => []
  | (k, v) :: rest => (lowerKey k, lowerKeys v) :: lowerEntries rest

end

end Yaml.Value

open Yaml (Value plainText? requiredSetting? settingOr?)

/-- A required section of two texts. -/
def textPair? (first second : String) (v : Value) : Option (String × String) := do
  let fields ← v.fields?
  let a ← requiredSetting? Value.text? fields first
  let b ← requiredSetting? Value.text? fields second
  return (a, b)

/-- Partition keys: a list of texts, or a text with commas. Blank keys do not count. -/
def partitionList? : Value → Option (List String)
  | .list items => (items.mapM plainText?).map fun names => names.filterMap Text.trimmed?
  | .text s => some (splitPartitions s)
  | _ => none

/-- A partition style: its name, as a text or as the tag of an empty value. -/
def PartitionStyle.ofYaml? : Value → Option PartitionStyle
  | .text s => ofName? s
  | .tagged name v =>
    match v.untagged with
    | .null => ofName? name
    | _ => none
  | _ => none

namespace Config

/-- Reads a configuration whose keys are in lower case. -/
def ofFields? (fields : List (String × Value)) : Option Config := do
  let db ← requiredSetting? (textPair? "source_schema" "target_schema") fields "db"
  let dbt ← requiredSetting? (textPair? "batch_profile" "datalake_profile") fields "dbt"
  let s3 ← requiredSetting? (textPair? "batch_location" "datalake_location") fields "s3"
  let base : Config := {}
  return {
    sourceSchema := db.1
    targetSchema := db.2
    batchProfile := dbt.1
    datalakeProfile := dbt.2
    batchLocation := s3.1
    datalakeLocation := s3.2
    defaultPartitions :=
      ← settingOr? partitionList? base.defaultPartitions fields "default_partitions"
    defaultPartitionStyle :=
      ← settingOr? PartitionStyle.ofYaml? base.defaultPartitionStyle fields "partitions_style"
    defaultSourceFormat :=
      ← settingOr? Value.text? base.defaultSourceFormat fields "source_format"
    defaultFieldDelimiter :=
      ← settingOr? Value.text? base.defaultFieldDelimiter fields "field_delimiter"
    ingestionPath := ← settingOr? Value.text? base.ingestionPath fields "ingestion_path" }

/-- Reads a configuration from a value. -/
def ofYaml? (v : Value) : Option Config := v.lowerKeys.fields?.bind ofFields?

/-- Reads a configuration from a text. -/
def ofText? (s : String) : Option Config := (Value.ofText? s).bind ofYaml?

end Config

end Intake
