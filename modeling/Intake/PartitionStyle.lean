import Intake.Text.Blank
import Intake.Text.Casing

/-!
# Partition styles

How the directories of a partitioned table are named: `hive` has the key and the value in each
name, `nonHive` the value alone. Documents spell a style exactly (`PartitionStyle.ofName?`);
worksheets may use any case of letters and blanks around it (`PartitionStyle.ofText?`).
-/

namespace Intake

/-- The physical layout of partition directories. -/
inductive PartitionStyle where
  | hive
  | nonHive
  deriving DecidableEq, Repr, Inhabited

namespace PartitionStyle

/-- The name of a style in documents. -/
def name : PartitionStyle → String
  | hive => "hive"
  | nonHive => "non-hive"

/-- The style that a document names. -/
def ofName? (s : String) : Option PartitionStyle :=
  if s = "hive" then some hive
  else if s = "non-hive" ∨ s = "non_hive" ∨ s = "nonhive" then some nonHive
  else none

/-- The style that a worksheet names. -/
def ofText? (s : String) : Option PartitionStyle := ofName? (Text.lower (Text.trim s))

/-- What is said of a text that names no style. -/
def unknownMessage (s : String) : String := "Unknown partitions style: " ++ s

theorem ofName?_name (s : PartitionStyle) : ofName? s.name = some s := by
  cases s <;> decide

end PartitionStyle

end Intake
