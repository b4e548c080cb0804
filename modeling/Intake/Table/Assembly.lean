import Intake.Config
import Intake.Declaration.Directive
import Intake.FileStem
import Intake.Table

/-!
# Tables from declarations

`Declaration.table` completes the declaration of a worksheet to a table: each field is the setting
of the worksheet, or a name or location derived from others, or the value of the configuration.
Settings that neither fill a field nor bear the name of one are kept as they are.
-/

namespace Intake

namespace Declaration

/-- The settings that have a meaning of their own, and the names of fields of a table. -/
def reservedSettings : List String :=
  ["flow", "worksheet", "columns", "batch_profile", "datalake_profile", "batch_location",
    "datalake_location", "source_filename", "source_format", "source_schema", "source_table",
    "source_location", "field_delimiter", "target_schema", "target_table", "target_location",
    conditionKey, "partitions", "partitions_style", "description", "tags", "compression_type",
    "use_source_name", "exclude_table"]

/-- The name of the source table: the setting, or the name that the filename gives. -/
def sourceTable (d : Declaration) (flow : String) : Except Rejection String :=
  match d.text? "source_table" with
  | some name => .ok (withFlowPrefix name flow)
  | none =>
    match (d.text? "source_filename").bind (sourceTableOfFilename? · flow) with
    | some name => .ok name
    | none => .error (.filenameInvalid d.worksheet (d.text? "source_filename"))

/-- The name of the target table: the setting, or the name of the source table. -/
def targetTable (d : Declaration) (flow : String) : Except Rejection String :=
  match d.text? "target_table" with
  | some name => .ok (withFlowPrefix name flow)
  | none => d.sourceTable flow

/-- The declared partition keys. A setting counts even when it is blank. -/
def partitionNames (d : Declaration) (config : Config) : List String :=
  match d.setting? "partitions" with
  | some value => splitPartitions (value.text?.getD "")
  | none => config.defaultPartitions

/-- Checks that no key has a forbidden character. -/
def checkPartitions (table : String) : List String → Except Rejection (List String)
  | [] => .ok []
  | key :: rest =>
    if hasForbidden key then .error (.partitionInvalid table key)
    else (checkPartitions table rest).map (key :: ·)

/-- The declared partition keys in lower case; blank ones do not count. -/
def partitionKeys (d : Declaration) (config : Config) : List String :=
  ((d.partitionNames config).map fun key => Text.lower (Text.trim key)).filter (· ≠ "")

/-- The partition keys of a table. -/
def partitions (d : Declaration) (table : String) (config : Config) :
    Except Rejection (List String) :=
  checkPartitions table (d.partitionKeys config)

/-- The partition style of a table. -/
def partitionStyle (d : Declaration) (table : String) (config : Config) :
    Except Rejection PartitionStyle :=
  match d.text? "partitions_style" with
  | none => .ok config.defaultPartitionStyle
  | some style =>
    match PartitionStyle.ofText? style with
    | some s => .ok s
    | none => .error (.partitionStyleInvalid table style)

/-- The settings that are carried along. -/
def extra (d : Declaration) : Json.Object :=
  Json.Object.ofMembers
    ((d.settings.entries.filter fun e => !reservedSettings.contains e.1).map
      fun e => (e.1, e.2.toJson))
    (by
      intro e he
      obtain ⟨a, _, rfl⟩ := List.mem_map.1 he
      exact Cell.settled_toJson a.2)

/-- The text of a setting, or a default when it is not set or blank. -/
def textOr (d : Declaration) (key default : String) : String := (d.text? key).getD default

/-- The format of the raw files. -/
def sourceFormat (d : Declaration) (config : Config) : String :=
  d.textOr "source_format" config.defaultSourceFormat

/-- What the entries of a declaration are resolved with. -/
def columnContext (d : Declaration) (target : String) (config : Config) : ColumnContext where
  table := target
  isJson := isJsonFormat (d.sourceFormat config)
  keepsSourceName := d.flag "use_source_name"

/-- The table of a declaration whose source table, partitions and data columns are resolved. -/
def complete (d : Declaration) (target flow : String) (config : Config) (source : String)
    (keys : List String) (style : PartitionStyle) (columns : List Column) : Table where
  flow := flow
  worksheet := d.worksheet
  batchProfile := d.textOr "batch_profile" config.batchProfile
  datalakeProfile := d.textOr "datalake_profile" config.datalakeProfile
  batchLocation := d.textOr "batch_location" config.batchLocation
  datalakeLocation := d.textOr "datalake_location" config.datalakeLocation
  sourceFilename := d.text? "source_filename"
  sourceFormat := d.sourceFormat config
  sourceSchema := d.textOr "source_schema" config.sourceSchema
  sourceTable := source
  sourceLocation := match d.text? "source_location" with
    | some location => ensureTrailingSlash location
    | none => tableLocation (d.textOr "batch_location" config.batchLocation) flow source
  fieldDelimiter := (d.verbatim? "field_delimiter").getD config.defaultFieldDelimiter
  targetSchema := d.textOr "target_schema" config.targetSchema
  targetTable := target
  targetLocation := match d.text? "target_location" with
    | some location => ensureTrailingSlash location
    | none => tableLocation (d.textOr "datalake_location" config.datalakeLocation) flow target
  condition := d.text? conditionKey
  partitions := keys
  partitionStyle := style
  description := d.text? "description"
  tags := d.text? "tags"
  compression := d.text? "compression_type"
  usesSourceName := d.flag "use_source_name"
  columns := columns ++ partitionColumns keys style
  extra := d.extra

/-- The table of a declaration, under a target name that has been resolved before. -/
def table (d : Declaration) (target flow : String) (config : Config) : Except Rejection Table := do
  let source ← d.sourceTable flow
  let keys ← d.partitions target config
  let style ← d.partitionStyle target config
  let columns ← Column.ofEntries d.entries (d.columnContext target config)
  return d.complete target flow config source keys style columns

end Declaration

end Intake
