import Intake.Mapping.Check
import Intake.Table.Assembly

/-!
# Mappings from worksheets

`Mapping.build` compiles the worksheets of a workbook: each ingestion worksheet is read and its
target name resolved, the names are compared, and the tables that are not excluded are assembled
and checked against each other. An excluded table still takes part in the comparison of names.
-/

namespace Intake

/-- The declarations of the ingestion worksheets, with their target names. -/
def declarations (flow : String) :
    List Worksheet → Except Rejection (List (String × Declaration))
  | [] => .ok []
  | sheet :: rest => do
    match ← sheet.declaration? with
    | none => declarations flow rest
    | some d =>
      let target ← d.targetTable flow
      let others ← declarations flow rest
      return (target, d) :: others

/-- Is the table left out of the mapping? -/
def Declaration.isExcluded (d : Declaration) : Bool := d.flag "exclude_table"

/-- The tables of declarations that are not excluded. -/
def assembleTables (flow : String) (config : Config) :
    List (String × Declaration) → Except Rejection (List Table)
  | [] => .ok []
  | (target, d) :: rest =>
    if d.isExcluded then assembleTables flow config rest
    else do
      let table ← d.table target flow config
      let tables ← assembleTables flow config rest
      return table :: tables

namespace Mapping

/-- The mapping of the worksheets of a workbook. -/
def build (sheets : List Worksheet) (flow : String) (config : Config) :
    Except Rejection Mapping := do
  let flow := normalFlow flow
  let declared ← declarations flow sheets
  checkNames (declared.map (·.1))
  let tables ← assembleTables flow config declared
  let mapping : Mapping := ⟨tables⟩
  mapping.check
  return mapping

end Mapping

end Intake
