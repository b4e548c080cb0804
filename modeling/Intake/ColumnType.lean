import Intake.Text.Blank
import Intake.Text.Casing

/-!
# Data types of columns

The types that a worksheet may declare (`TypeName`), in any case of letters, and what each of them
is in the compiled table (`TypeName.resolve`). Texts take the declared length, decimals take it as
precision and scale, dates and timestamps take it as their format, and all other types ignore it.
-/

namespace Intake

/-- A type that a worksheet may declare. -/
inductive TypeName where
  | char
  | varchar
  | decimal
  | float
  | double
  | doublePrecision
  | date
  | timestamp
  | boolean
  | tinyint
  | smallint
  | integer
  | bigint
  | charArray
  | varcharArray
  deriving DecidableEq, Repr

/-- A resolved type, with the format of a date or timestamp. -/
structure ColumnType where
  dataType : String
  format : Option String
  deriving DecidableEq, Repr

namespace TypeName

/-- The name of each type. -/
def name : TypeName → String
  | char => "char"
  | varchar => "varchar"
  | decimal => "decimal"
  | float => "float"
  | double => "double"
  | doublePrecision => "double precision"
  | date => "date"
  | timestamp => "timestamp"
  | boolean => "boolean"
  | tinyint => "tinyint"
  | smallint => "smallint"
  | integer => "integer"
  | bigint => "bigint"
  | charArray => "array<char>"
  | varcharArray => "array<varchar>"

/-- All types. -/
def all : List TypeName :=
  [char, varchar, decimal, float, double, doublePrecision, date, timestamp, boolean, tinyint,
    smallint, integer, bigint, charArray, varcharArray]

/-- The type with a name. -/
def ofText? (declared : String) : Option TypeName :=
  all.find? fun t => t.name == Text.lower (Text.trim declared)

/-- A text type with its length. -/
def sized (name : String) (length : Option String) : String :=
  name ++ "(" ++ length.getD "255" ++ ")"

/-- The precision of a decimal: a point between precision and scale counts as a comma. -/
def precision (length : Option String) : String :=
  String.ofList ((length.getD "18,2").toList.map fun c => if c = '.' then ',' else c)

/-- The type in the compiled table. -/
def resolve (t : TypeName) (length : Option String) : ColumnType :=
  match t with
  | char => ⟨sized "char" length, none⟩
  | varchar => ⟨sized "varchar" length, none⟩
  | decimal => ⟨"decimal(" ++ precision length ++ ")", none⟩
  | float => ⟨"real", none⟩
  | double => ⟨"double precision", none⟩
  | date => ⟨"date", length⟩
  | timestamp => ⟨"timestamp", length⟩
  | charArray => ⟨"array<" ++ sized "char" length ++ ">", none⟩
  | varcharArray => ⟨"array<" ++ sized "varchar" length ++ ">", none⟩
  | t => ⟨t.name, none⟩

end TypeName

/-- The resolved type of a declared one, when it is known. -/
def ColumnType.ofDeclared? (declared : String) (length : Option String) : Option ColumnType :=
  (TypeName.ofText? declared).map (·.resolve length)

end Intake
