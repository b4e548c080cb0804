import Intake.Mapping
import Intake.Rejection

/-!
# Checks across tables

The tables of a mapping must not get into each other's way: no two have the same target name, no
two write the same document, and no table has a column twice. `Mapping.check` reports the first of
these faults that there is, with all names that it is about; a name is listed once, at the place
where it occurs for the second time.
-/

namespace Intake

/-- The elements whose key occurs before them, with the keys seen so far. -/
def repeatsAfter {α : Type} (key : α → String) : (seen : List String) → List α → List α
  | _, [] => []
  | seen, a :: rest =>
    if key a ∈ seen then a :: repeatsAfter key seen rest
    else repeatsAfter key (key a :: seen) rest

/-- The names that occur more than once, each listed once, in the order of second occurrences. -/
def repeated (names : List String) : List String :=
  (repeatsAfter id [] names).eraseDups

namespace Table

/-- The columns whose target name occurs before them in the table, up to case. -/
def repeatedColumns (t : Table) : List RepeatedColumn :=
  (repeatsAfter (fun c => Text.lower c.targetColumn) [] t.columns).map fun c =>
    ⟨t.targetTable, c.targetColumn⟩

end Table

namespace Mapping

/-- Checks that no two tables have the same target name. -/
def checkNames (names : List String) : Except Rejection Unit :=
  match repeated names with
  | [] => .ok ()
  | tables => .error (.targetTablesRepeated tables)

/-- Checks that no two tables write the same document of a kind. -/
def checkDocuments (m : Mapping) : Except Rejection Unit :=
  match repeated (m.tables.map (·.batchDocument)) ++
      repeated (m.tables.map (·.datalakeDocument)) with
  | [] => .ok ()
  | documents => .error (.documentsRepeated documents)

/-- Checks that no table has a target column twice. -/
def checkColumns (m : Mapping) : Except Rejection Unit :=
  match m.tables.flatMap (·.repeatedColumns) with
  | [] => .ok ()
  | columns => .error (.columnsRepeated columns)

/-- All checks. -/
def check (m : Mapping) : Except Rejection Unit := do
  checkNames m.names
  m.checkDocuments
  m.checkColumns

end Mapping

end Intake
