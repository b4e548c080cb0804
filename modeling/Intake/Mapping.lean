import Intake.Table

/-!
# Mappings

A mapping is all tables of a flow in the order of their worksheets. A name leads to the first
table that bears it as its target name.
-/

namespace Intake

/-- The tables of a flow. -/
structure Mapping where
  tables : List Table
  deriving DecidableEq, Repr, Inhabited

namespace Mapping

/-- The target names, in order. -/
def names (m : Mapping) : List String := m.tables.map (·.targetTable)

/-- The first table with a target name. -/
def get? (m : Mapping) (name : String) : Option Table :=
  m.tables.find? fun t => t.targetTable == name

end Mapping

end Intake
