import Intake.Declaration
import Intake.Rejection
import Intake.Worksheet

/-!
# Directives of a worksheet

An ingestion worksheet begins with the rows `TYPE` and `#INGESTION`. Below them a row that starts
with a directive says what the rows after it are:

* `#CONFIG`: a key and its value in each row;
* `#WHERE`: the filter condition;
* `#SELECT`: a row of headers, and then one row for each column.

Directives come in any order and any number, and every other row belongs to the nearest directive
above it. `Worksheet.declaration?` reads a worksheet row by row; `Mode` is what it has to remember
of the rows above.
-/

namespace Intake

/-- A row that says what the rows after it are. -/
inductive Directive where
  | config
  | filter
  | select
  deriving DecidableEq, Repr

namespace Directive

/-- The directive that a row is, if it is one. -/
def ofRow? (cells : List Cell) : Option Directive :=
  let first := cells.headD .empty
  if first.isMarker "#CONFIG" then some config
  else if first.isMarker "#WHERE" then some filter
  else if first.isMarker "#SELECT" then some select
  else none

end Directive

/-- The key under which the filter condition is kept among the settings. -/
def conditionKey : String := "where_condition"

/-- The labels of a row of headers, in lower case; a blank cell is no header. -/
abbrev Header := List (Option String)

namespace Header

/-- The labels of a row. -/
def ofRow (cells : List Cell) : Header := cells.map fun c => c.text?.map Text.lower

/-- The last column with a label, counting from `column`. -/
def columnFrom? (label : String) : (column : Nat) → Header → Option Nat
  | _, [] => none
  | column, l :: rest =>
    match columnFrom? label (column + 1) rest with
    | some i => some i
    | none => if l = some label then some column else none

/-- The last column with a label. -/
def column? (h : Header) (label : String) : Option Nat := columnFrom? label 0 h

/-- The cell under a label, trimmed: absent without such a column, empty where the row ends. -/
def cell? (h : Header) (cells : List Cell) (label : String) : Option Cell :=
  (h.column? label).map fun i => ((cells[i]?).map Cell.trimmed).getD .empty

/-- The column declared by a row. -/
def entry (h : Header) (row : Nat) (cells : List Cell) : ColumnEntry where
  row := row
  sourceName := h.cell? cells "source_name"
  newName := h.cell? cells "new_name"
  description := h.cell? cells "description"
  dataType := h.cell? cells "data_type"
  length := h.cell? cells "length"
  key := h.cell? cells "key"
  index := h.cell? cells "index"
  nullable := h.cell? cells "nullable"

end Header

/-- What the rows above say about the next one. -/
inductive Mode where
  /-- There was no directive yet. -/
  | start
  | config
  | filter
  /-- The next row is the row of headers. -/
  | header
  /-- The next row declares a column. -/
  | columns (header : Header)
  deriving DecidableEq, Repr

/-- The mode that a directive opens. -/
def Directive.mode : Directive → Mode
  | config => .config
  | filter => .filter
  | select => .header

/-- The value of a setting: a text of blanks only stays as it is, other texts are trimmed. -/
def settingValue : Option Cell → Cell
  | some (.text s) => if Text.isBlankText s then .text s else .text (Text.trim s)
  | some c => c
  | none => .empty

namespace Declaration

/-- Adds the setting of a row; a row without a key sets nothing. -/
def addSetting (d : Declaration) (cells : List Cell) : Declaration :=
  match (cells.headD .empty).text? with
  | none => d
  | some key => { d with settings := d.settings.insert (Text.lower key) (settingValue cells[1]?) }

/-- Sets the condition of a row, unless its first cell is blank. -/
def addCondition (d : Declaration) (cells : List Cell) : Declaration :=
  match (cells.headD .empty).text? with
  | none => d
  | some condition => { d with settings := d.settings.insert conditionKey (.text condition) }

/-- Adds a declared column. -/
def addEntry (d : Declaration) (e : ColumnEntry) : Declaration :=
  { d with entries := d.entries ++ [e] }

/-- The declaration of a worksheet of which nothing has been read. -/
def blank (worksheet : String) : Declaration := ⟨worksheet, KeyMap.empty, []⟩

/-- Reads one row. -/
def readRow (mode : Mode) (d : Declaration) (row : Nat) (cells : List Cell) :
    Except Rejection (Mode × Declaration) :=
  match Directive.ofRow? cells with
  | some directive => .ok (directive.mode, d)
  | none =>
    match mode with
    | .start => .error (.noDirective d.worksheet row)
    | .config => .ok (.config, d.addSetting cells)
    | .filter => .ok (.filter, d.addCondition cells)
    | .header => .ok (.columns (Header.ofRow cells), d)
    | .columns header => .ok (.columns header, d.addEntry (header.entry row cells))

/-- Reads the rows from a row number on. -/
def readRows (mode : Mode) (d : Declaration) :
    (row : Nat) → List (List Cell) → Except Rejection Declaration
  | _, [] => .ok d
  | row, cells :: rest =>
    match d.readRow mode row cells with
    | .error e => .error e
    | .ok (mode', d') => readRows mode' d' (row + 1) rest

end Declaration

namespace Worksheet

/-- Does the worksheet belong to the mapping? -/
def isIngestion (sheet : Worksheet) : Bool := (sheet.cell 0 0).isMarker "TYPE"

/-- What a worksheet declares; nothing when it is not an ingestion worksheet. -/
def declaration? (sheet : Worksheet) : Except Rejection (Option Declaration) :=
  if !sheet.isIngestion then .ok none
  else if !(sheet.cell 1 0).isMarker "#INGESTION" then
    .error (.wrongType sheet.title ((sheet.cell 1 0).text?.getD ""))
  else
    ((Declaration.blank sheet.title).readRows .start 3 (sheet.rows.drop 2)).map some

end Worksheet

end Intake
