import Intake.ColumnType
import Intake.Declaration
import Intake.PartitionStyle
import Intake.Rejection

/-!
# Columns of a table

A column has a name in the raw files and one in the compiled table. A declared column is resolved
from its entry (`Column.ofEntry`): files of JSON records name their columns, all others have them
by position. An entry without a source name is a blank row and declares nothing. Each partition key
adds a column of its own after the declared ones (`partitionColumns`).
-/

namespace Intake

/-- A column of a compiled table. -/
structure Column where
  /-- The name in the raw files. -/
  sourceColumn : String
  /-- The declared source name, kept where the files have columns by position. -/
  sourceFormula : Option String
  /-- The name in the compiled table. -/
  targetColumn : String
  description : String
  dataType : String
  /-- The format of a date or timestamp. -/
  format : Option String
  isKey : Bool
  isIndex : Bool
  isNullable : Bool
  isPartition : Bool
  deriving DecidableEq, Repr, Inhabited

/-- What the entries of a table are resolved with. -/
structure ColumnContext where
  /-- The target table, for faults. -/
  table : String
  /-- Do the files name their columns? -/
  isJson : Bool
  /-- Is the declared source name kept for columns by position? -/
  keepsSourceName : Bool
  deriving Repr

/-- The characters that a target column and a partition key may not contain. -/
def isForbidden (c : Char) : Bool := c == '.' || c == ' ' || c == '-'

/-- Does a name contain a forbidden character? -/
def hasForbidden (name : String) : Bool := name.toList.any isForbidden

namespace ColumnEntry

/-- The source name. The new name stands in for it on worksheets without such a column. -/
def sourceText? (e : ColumnEntry) : Option String :=
  match e.sourceName with
  | some _ => text? e.sourceName
  | none => text? e.newName

/-- A row that declares nothing. -/
def isBlank (e : ColumnEntry) : Bool := e.sourceText?.isNone

/-- The name in the compiled table. -/
def target (e : ColumnEntry) (context : ColumnContext) : Except Rejection String :=
  match text? e.newName with
  | none => .error (.targetColumnMissing context.table e.row)
  | some name =>
    let name := Text.lower name
    if hasForbidden name then .error (.targetColumnInvalid context.table e.row name)
    else .ok name

/-- The resolved data type. -/
def type (e : ColumnEntry) (context : ColumnContext) : Except Rejection ColumnType :=
  match text? e.dataType with
  | none => .error (.dataTypeMissing context.table e.row)
  | some declared =>
    match ColumnType.ofDeclared? declared (text? e.length) with
    | none => .error (.dataTypeInvalid context.table e.row declared)
    | some t => .ok t

end ColumnEntry

namespace Column

/-- The name in the raw files of the column at a position, counted from one. -/
def sourceName (source : String) (position : Nat) (context : ColumnContext) : String :=
  if context.isJson then Text.lower source else "col" ++ toString position

/-- The column of an entry at a position, with its target name and its type. -/
def resolved (e : ColumnEntry) (position : Nat) (context : ColumnContext) (target : String)
    (type : ColumnType) : Column where
  sourceColumn := sourceName (e.sourceText?.getD "") position context
  sourceFormula :=
    if !context.isJson && context.keepsSourceName then some (e.sourceText?.getD "") else none
  targetColumn := target
  description := (ColumnEntry.text? e.description).getD ""
  dataType := type.dataType
  format := type.format
  isKey := ColumnEntry.flag e.key
  isIndex := ColumnEntry.flag e.index
  isNullable := ColumnEntry.flag e.nullable
  isPartition := false

/-- The column that an entry declares at a position among those that are not blank. -/
def ofEntry (e : ColumnEntry) (position : Nat) (context : ColumnContext) :
    Except Rejection Column := do
  let target ← e.target context
  let type ← e.type context
  return resolved e position context target type

/-- The columns of entries that are not blank, the first at a position. -/
def ofEntriesFrom (context : ColumnContext) : (position : Nat) → List ColumnEntry →
    Except Rejection (List Column)
  | _, [] => .ok []
  | position, e :: rest => do
    let column ← ofEntry e position context
    let columns ← ofEntriesFrom context (position + 1) rest
    return column :: columns

/-- The columns that entries declare, in order; blank rows are skipped and not counted. -/
def ofEntries (entries : List ColumnEntry) (context : ColumnContext) :
    Except Rejection (List Column) :=
  ofEntriesFrom context 1 (entries.filter fun e => !e.isBlank)

end Column

/-- The type of the column of a partition key. -/
def partitionType (key : String) : String :=
  if key = "year" then "char(4)"
  else if key = "month" ∨ key = "day" ∨ key = "hour" ∨ key = "minute" then "char(2)"
  else "varchar(20)"

/-- The name in the raw files of the column of the partition key at an index. -/
def partitionSource (style : PartitionStyle) (index : Nat) (key : String) : String :=
  match style with
  | .hive => key
  | .nonHive => "partition_" ++ toString index

/-- The column of the partition key at an index. -/
def partitionColumn (style : PartitionStyle) (index : Nat) (key : String) : Column where
  sourceColumn := partitionSource style index key
  sourceFormula := none
  targetColumn := key
  description := "Partition " ++ partitionSource style index key
  dataType := partitionType key
  format := none
  isKey := false
  isIndex := false
  isNullable := false
  isPartition := true

/-- The columns of partition keys, one for each, in order. -/
def partitionColumns (keys : List String) (style : PartitionStyle) : List Column :=
  keys.mapIdx fun i key => partitionColumn style i key

end Intake
