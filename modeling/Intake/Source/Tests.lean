import Intake.Source
import Intake.Table

/-!
# Tests of tables

Which tests the source documents of a table declare. A column that may not be empty is tested for
it in both documents; keys are tested for uniqueness where the data is final, a single key column
by itself and several as a combination. A test looks only at the rows of the current partition
(`partitionPredicate?`).
-/

namespace Intake

/-- The comparison of a partition key with the variable of its name. -/
def partitionComparison (key : String) : String :=
  key ++ "='\x7b\x7b var('" ++ key ++ "') \x7d\x7d'"

/-- The condition that selects the current partition; there is none without partition keys. -/
def partitionPredicate? (keys : List String) : Option String :=
  if keys.isEmpty then none
  else some (" and ".intercalate (keys.map partitionComparison))

namespace Table

/-- The condition of all tests of the table. -/
def testCondition (t : Table) : Option String := partitionPredicate? t.partitions

/-- Is a column tested for uniqueness by itself? -/
def testsUnique (t : Table) (c : Column) (kind : SourceKind) : Bool :=
  kind == .datalake && c.isKey && !t.hasCompoundKey

/-- Is a column tested for missing values? -/
def testsNotNull (c : Column) : Bool := !c.isNullable && !c.isPartition

/-- The tests of a column, uniqueness first. -/
def columnTests (t : Table) (c : Column) (kind : SourceKind) : List ColumnTest :=
  (if t.testsUnique c kind then [.unique t.testCondition] else []) ++
    (if testsNotNull c then [.notNull t.testCondition] else [])

/-- The tests of the table as a whole. -/
def combinationTests (t : Table) (kind : SourceKind) : List CombinationTest :=
  if kind == .datalake && t.hasCompoundKey then [⟨t.keyColumns, t.testCondition⟩] else []

end Table

end Intake
