import Mathlib.Data.List.Nodup
import Intake.Mapping.Check
import Intake.Proofs.Outcome

/-!
# What the checks across tables decide

No name is listed as repeated exactly when no two names are equal (`repeated_eq_nil_iff`), so that
the checks of a mapping pass exactly when the target names, the documents of each kind and, within
each table, the target columns up to case are free of repetitions (`Mapping.check_eq_ok_iff`).
-/

namespace Intake

/-! ## Repetitions -/

theorem repeatsAfter_eq_nil_iff {α : Type} {key : α → String} {seen : List String} {l : List α} :
    repeatsAfter key seen l = [] ↔ (l.map key).Nodup ∧ ∀ a ∈ l, key a ∉ seen := by
  induction l generalizing seen with
  | nil => simp [repeatsAfter]
  | cons a rest ih =>
    unfold repeatsAfter
    split
    · next h => simp [h]
    · next h =>
      rw [ih, List.map_cons, List.nodup_cons, List.forall_mem_cons]
      simp only [List.mem_map, List.mem_cons, not_or, not_exists, not_and]
      constructor
      · rintro ⟨hn, hr⟩
        exact ⟨⟨fun b hb => (hr b hb).1, hn⟩, h, fun b hb => (hr b hb).2⟩
      · rintro ⟨⟨ha, hn⟩, -, hr⟩
        exact ⟨hn, fun b hb => ⟨ha b hb, hr b hb⟩⟩

theorem repeated_eq_nil_iff {names : List String} : repeated names = [] ↔ names.Nodup := by
  have herase : ∀ l : List String, l.eraseDups = [] ↔ l = [] := by
    intro l
    cases l <;> simp [List.eraseDups_cons]
  rw [repeated, herase, repeatsAfter_eq_nil_iff]
  simp

theorem Table.repeatedColumns_eq_nil_iff {t : Table} : t.repeatedColumns = [] ↔
    (t.columns.map fun c => Text.lower c.targetColumn).Nodup := by
  rw [repeatedColumns, List.map_eq_nil_iff, repeatsAfter_eq_nil_iff]
  simp

/-! ## The checks -/

namespace Mapping

theorem checkNames_eq_ok_iff {names : List String} : checkNames names = .ok () ↔ names.Nodup := by
  rw [← repeated_eq_nil_iff, checkNames]
  split
  · next h => exact iff_of_true rfl h
  · next h => exact iff_of_false (by simp) h

theorem checkDocuments_eq_ok_iff {m : Mapping} : m.checkDocuments = .ok () ↔
    (m.tables.map (·.batchDocument)).Nodup ∧ (m.tables.map (·.datalakeDocument)).Nodup := by
  rw [← repeated_eq_nil_iff, ← repeated_eq_nil_iff, ← List.append_eq_nil_iff, checkDocuments]
  split
  · next h => exact iff_of_true rfl h
  · next h => exact iff_of_false (by simp) h

theorem checkColumns_eq_ok_iff {m : Mapping} : m.checkColumns = .ok () ↔
    ∀ t ∈ m.tables, (t.columns.map fun c => Text.lower c.targetColumn).Nodup := by
  simp only [← Table.repeatedColumns_eq_nil_iff, ← List.flatMap_eq_nil_iff]
  unfold checkColumns
  split
  · next h => exact iff_of_true rfl h
  · next h => exact iff_of_false (by simp) h

theorem check_eq_ok_iff {m : Mapping} : m.check = .ok () ↔ m.names.Nodup ∧
    ((m.tables.map (·.batchDocument)).Nodup ∧ (m.tables.map (·.datalakeDocument)).Nodup) ∧
    ∀ t ∈ m.tables, (t.columns.map fun c => Text.lower c.targetColumn).Nodup := by
  rw [← checkNames_eq_ok_iff, ← checkDocuments_eq_ok_iff, ← checkColumns_eq_ok_iff, check]
  simp only [bind_eq_ok_iff]
  exact ⟨fun ⟨_, hn, _, hd, hc⟩ => ⟨hn, hd, hc⟩, fun ⟨hn, hd, hc⟩ => ⟨(), hn, (), hd, hc⟩⟩

end Mapping

end Intake
