import Mathlib.Data.List.Induction
import Mathlib.Data.List.Nodup
import Intake.Proofs.Check

/-!
# What the checks across tables report

A report of repeated names lists every name that occurs more than once, each of them once, in the
order in which they occur for the second time (`ListsRepeated`). There is one such list for any
names, and `repeated` gives it: reading one more name adds it to the report exactly when it has
occurred once before (`repeated_append_singleton`), and this keeps the list what it should be
(`ListsRepeated.append_singleton`). The report of repeated columns goes through the tables and their
columns in order and has every column with the target name, up to case, of a column before it in the
same table (`Table.recurringColumns`).

`Mapping.Reports` says which of the reports a mapping gets, and `Mapping.check_reports` that the
checks pass or give the one report that the mapping should get.
-/

namespace Intake

/-! ## Names that occur more than once -/

/-- Position `i`, counted from zero, is the second one at which a name occurs. -/
def IsSecondAt (names : List String) (name : String) (i : Nat) : Prop :=
  names[i]? = some name ∧ (names.take i).count name = 1

/-- A list has every name that occurs more than once, each of them once, in the order in which they
occur for the second time. -/
structure ListsRepeated (names list : List String) : Prop where
  mem_iff : ∀ name, name ∈ list ↔ 2 ≤ names.count name
  nodup : list.Nodup
  ordered : list.Pairwise fun a b => ∀ i j, IsSecondAt names a i → IsSecondAt names b j → i < j

variable {names list : List String} {name a : String} {i : Nat}

theorem IsSecondAt.two_le_count (h : IsSecondAt names name i) : 2 ≤ names.count name := by
  obtain ⟨hname, hcount⟩ := h
  obtain ⟨hi, rfl⟩ := List.getElem?_eq_some_iff.1 hname
  have hsplit : names = names.take i ++ names[i] :: names.drop (i + 1) := by simp
  have htotal := congrArg (List.count names[i]) hsplit
  rw [List.count_append, List.count_cons_self, hcount] at htotal
  omega

theorem isSecondAt_append_singleton : IsSecondAt (names ++ [a]) name i ↔
    IsSecondAt names name i ∨ (i = names.length ∧ name = a ∧ names.count name = 1) := by
  unfold IsSecondAt
  rcases Nat.lt_trichotomy i names.length with hi | rfl | hi
  · rw [List.getElem?_append_left hi, List.take_append_of_le_length (Nat.le_of_lt hi)]
    simp [Nat.ne_of_lt hi]
  · simp [eq_comm]
  · rw [List.getElem?_eq_none (Nat.le_of_lt hi), List.getElem?_eq_none (by simp; omega)]
    simp [Nat.ne_of_gt hi]

theorem exists_isSecondAt (h : 2 ≤ names.count name) : ∃ i, IsSecondAt names name i := by
  induction names using List.reverseRecOn with
  | nil => simp at h
  | append_singleton names a ih =>
    simp only [isSecondAt_append_singleton]
    by_cases hbefore : 2 ≤ names.count name
    · obtain ⟨i, hi⟩ := ih hbefore
      exact ⟨i, .inl hi⟩
    · rw [List.count_append, List.count_singleton] at h
      split at h
      · next heq => exact ⟨names.length, .inr ⟨rfl, (eq_of_beq heq).symm, by omega⟩⟩
      · omega

namespace ListsRepeated

/-- There is one list of the repeated names. -/
theorem unique {list' : List String} (h : ListsRepeated names list)
    (h' : ListsRepeated names list') : list = list' := by
  have hperm : list.Perm list' := (List.perm_ext_iff_of_nodup h.nodup h'.nodup).2
    fun name => (h.mem_iff name).trans (h'.mem_iff name).symm
  refine hperm.eq_of_pairwise (fun a b ha hb hab hba => ?_) h.ordered h'.ordered
  obtain ⟨i, hi⟩ := exists_isSecondAt ((h.mem_iff a).1 ha)
  obtain ⟨j, hj⟩ := exists_isSecondAt ((h'.mem_iff b).1 hb)
  exact absurd (hab i j hi hj) (Nat.not_lt_of_gt (hba j i hj hi))

/-- A further name is a repeated one from its second occurrence on. -/
theorem append_singleton (h : ListsRepeated names list) (a : String) :
    ListsRepeated (names ++ [a]) (if names.count a = 1 then list ++ [a] else list) := by
  have hcount : ∀ name, (names ++ [a]).count name =
      names.count name + if a = name then 1 else 0 := by
    intro name
    rw [List.count_append, List.count_singleton]
    simp
  -- The names that are listed already have been met twice before.
  have hold : ∀ {name i}, name ∈ list → IsSecondAt (names ++ [a]) name i →
      IsSecondAt names name i := by
    intro name i hmem hi
    have htwice := (h.mem_iff name).1 hmem
    exact (isSecondAt_append_singleton.1 hi).resolve_right fun hnew => by omega
  have hordered := h.ordered.imp_of_mem fun {b c} hb hc hbc i j hi hj =>
    hbc i j (hold hb hi) (hold hc hj)
  split
  · next hone =>
    have hnew : a ∉ list := fun hmem => by
      have htwice := (h.mem_iff a).1 hmem
      omega
    refine ⟨fun name => ?_, List.nodup_append.2 ⟨h.nodup, by simp, ?_⟩,
      List.pairwise_append.2 ⟨hordered, List.pairwise_singleton _ _, ?_⟩⟩
    · rw [List.mem_append, List.mem_singleton, h.mem_iff, hcount]
      by_cases heq : a = name
      · subst heq
        simp [hone]
      · simp [heq, Ne.symm heq]
    · rintro b hb c hc rfl
      rw [List.mem_singleton.1 hc] at hb
      exact hnew hb
    · intro b hb c hc i j hi hj
      rw [List.mem_singleton.1 hc] at hj
      have hlt : i < names.length := (List.getElem?_eq_some_iff.1 (hold hb hi).1).1
      rcases isSecondAt_append_singleton.1 hj with hj | ⟨rfl, -, -⟩
      · have htwice := hj.two_le_count
        omega
      · exact hlt
  · next hone =>
    refine ⟨fun name => ?_, h.nodup, hordered⟩
    rw [h.mem_iff, hcount]
    split
    · next heq =>
      subst heq
      omega
    · rfl

end ListsRepeated

/-! ## Reading names in order -/

section

variable {α : Type} {key : α → String} {seen : List String} {l : List α}

/-- The last element is listed if its key has been met. -/
theorem repeatsAfter_append_singleton (x : α) : repeatsAfter key seen (l ++ [x]) =
    repeatsAfter key seen l ++ if key x ∈ seen ∨ key x ∈ l.map key then [x] else [] := by
  induction l generalizing seen with
  | nil => simp [repeatsAfter]
  | cons b l ih =>
    rw [List.cons_append, repeatsAfter, repeatsAfter]
    split
    · next hb =>
      have hmet : key x ∈ seen ∨ key x ∈ l.map key ↔ key x ∈ seen ∨ key x ∈ (b :: l).map key := by
        grind
      rw [ih, List.cons_append, if_congr hmet rfl rfl]
    · next hb =>
      have hmet : key x ∈ key b :: seen ∨ key x ∈ l.map key ↔
          key x ∈ seen ∨ key x ∈ (b :: l).map key := by grind
      rw [ih, if_congr hmet rfl rfl]

/-- The elements whose key is that of an element before them, in order. -/
theorem repeatsAfter_nil_eq (key : α → String) (l : List α) : repeatsAfter key [] l =
    (l.zipIdx.filter fun x => decide (key x.1 ∈ (l.take x.2).map key)).map (·.1) := by
  induction l using List.reverseRecOn with
  | nil => rfl
  | append_singleton l x ih =>
    have hbefore : l.zipIdx.filter (fun y => decide (key y.1 ∈ ((l ++ [x]).take y.2).map key)) =
        l.zipIdx.filter fun y => decide (key y.1 ∈ (l.take y.2).map key) := by
      refine List.filter_congr fun y hy => ?_
      rw [List.take_append_of_le_length (Nat.le_of_lt (List.snd_lt_of_mem_zipIdx hy))]
    rw [repeatsAfter_append_singleton, ih, List.zipIdx_append, List.filter_append, List.map_append,
      hbefore]
    congr 1
    by_cases hmet : ∃ b ∈ l, key b = key x <;> simp [hmet]

end

theorem mem_repeatsAfter_iff : name ∈ repeatsAfter id [] names ↔ 2 ≤ names.count name := by
  induction names using List.reverseRecOn with
  | nil => simp [repeatsAfter]
  | append_singleton names a ih =>
    have hmem : a ∈ names ↔ 0 < names.count a := List.count_pos_iff.symm
    simp only [repeatsAfter_append_singleton, List.mem_append, ih, List.count_append,
      List.count_singleton, List.map_id, id, List.not_mem_nil, false_or, hmem, beq_iff_eq]
    by_cases heq : a = name
    · subst heq
      rw [if_pos rfl]
      split
      · exact iff_of_true (.inr (List.mem_singleton_self a)) (by omega)
      · simp only [List.not_mem_nil, or_false]
        omega
    · rw [if_neg heq]
      split <;> simp [Ne.symm heq]

/-- A name is reported when it is read for the second time. -/
theorem repeated_append_singleton (names : List String) (a : String) :
    repeated (names ++ [a]) =
      if names.count a = 1 then repeated names ++ [a] else repeated names := by
  have hmem : a ∈ names ↔ 0 < names.count a := List.count_pos_iff.symm
  have hlisted : a ∈ repeatsAfter id [] names ↔ 2 ≤ names.count a := mem_repeatsAfter_iff
  simp only [repeated, repeatsAfter_append_singleton, List.eraseDups_append, List.map_id, id,
    List.not_mem_nil, false_or, hmem]
  by_cases hone : names.count a = 1
  · have hnew : a ∉ repeatsAfter id [] names := by
      rw [hlisted]
      omega
    simp [hone, List.removeAll, hnew, List.eraseDups_cons]
  · rw [if_neg hone]
    split
    · next hbefore =>
      have hold : a ∈ repeatsAfter id [] names := by
        rw [hlisted]
        omega
      simp [List.removeAll, hold]
    · simp [List.removeAll]

theorem listsRepeated_repeated (names : List String) : ListsRepeated names (repeated names) := by
  induction names using List.reverseRecOn with
  | nil => exact ⟨by simp [repeated, repeatsAfter], List.nodup_nil, List.Pairwise.nil⟩
  | append_singleton names a ih =>
    rw [repeated_append_singleton]
    exact ih.append_singleton a

example : repeated ["orders", "lines", "lines", "orders", "orders"] = ["lines", "orders"] := by
  decide +kernel

/-! ## Reports -/

/-- The columns of a table with the target name, up to case, of a column before them. -/
def Table.recurringColumns (t : Table) : List Column :=
  (t.columns.zipIdx.filter fun c => decide (Text.lower c.1.targetColumn ∈
    (t.columns.take c.2).map fun before => Text.lower before.targetColumn)).map (·.1)

theorem Table.repeatedColumns_eq (t : Table) :
    t.repeatedColumns = t.recurringColumns.map fun c => ⟨t.targetTable, c.targetColumn⟩ := by
  rw [repeatedColumns, repeatsAfter_nil_eq]
  rfl

namespace Mapping

variable {m : Mapping} {r : Rejection}

/-- The recurring columns of all tables, in the order of the tables. -/
def recurringColumns (m : Mapping) : List RepeatedColumn :=
  m.tables.flatMap fun t => t.recurringColumns.map fun c => ⟨t.targetTable, c.targetColumn⟩

/-- The report that a mapping should get. -/
inductive Reports (m : Mapping) : Rejection → Prop
  | targetTables {tables : List String} (hnames : ¬ m.names.Nodup)
    (htables : ListsRepeated m.names tables) : Reports m (.targetTablesRepeated tables)
  | documents {batch datalake : List String} (hnames : m.names.Nodup)
    (hdocuments : ¬ ((m.tables.map (·.batchDocument)).Nodup ∧
      (m.tables.map (·.datalakeDocument)).Nodup))
    (hbatch : ListsRepeated (m.tables.map (·.batchDocument)) batch)
    (hdatalake : ListsRepeated (m.tables.map (·.datalakeDocument)) datalake) :
    Reports m (.documentsRepeated (batch ++ datalake))
  | columns (hnames : m.names.Nodup) (hbatch : (m.tables.map (·.batchDocument)).Nodup)
    (hdatalake : (m.tables.map (·.datalakeDocument)).Nodup)
    (hcolumns : ∃ t ∈ m.tables, ¬ (t.columns.map fun c => Text.lower c.targetColumn).Nodup) :
    Reports m (.columnsRepeated m.recurringColumns)

theorem checkNames_eq_error_iff {names : List String} : checkNames names = .error r ↔
    ¬ names.Nodup ∧ ∃ tables, ListsRepeated names tables ∧ r = .targetTablesRepeated tables := by
  have hlists := listsRepeated_repeated names
  rw [← repeated_eq_nil_iff, checkNames]
  split
  · next hnil => exact iff_of_false (by simp) fun h => h.1 hnil
  · next hne =>
    constructor
    · rintro ⟨⟩
      exact ⟨hne, _, hlists, rfl⟩
    · rintro ⟨-, tables, htables, rfl⟩
      rw [htables.unique hlists]

theorem checkDocuments_eq_error_iff : m.checkDocuments = .error r ↔
    ¬ ((m.tables.map (·.batchDocument)).Nodup ∧ (m.tables.map (·.datalakeDocument)).Nodup) ∧
    ∃ batch datalake, ListsRepeated (m.tables.map (·.batchDocument)) batch ∧
      ListsRepeated (m.tables.map (·.datalakeDocument)) datalake ∧
      r = .documentsRepeated (batch ++ datalake) := by
  have hlists := listsRepeated_repeated (m.tables.map (·.batchDocument))
  have hlists' := listsRepeated_repeated (m.tables.map (·.datalakeDocument))
  rw [← repeated_eq_nil_iff, ← repeated_eq_nil_iff, ← List.append_eq_nil_iff, checkDocuments]
  split
  · next hnil => exact iff_of_false (by simp) fun h => h.1 hnil
  · next hne =>
    constructor
    · rintro ⟨⟩
      exact ⟨hne, _, _, hlists, hlists', rfl⟩
    · rintro ⟨-, batch, datalake, hbatch, hdatalake, rfl⟩
      rw [hbatch.unique hlists, hdatalake.unique hlists']

theorem checkColumns_eq_error_iff : m.checkColumns = .error r ↔
    (∃ t ∈ m.tables, ¬ (t.columns.map fun c => Text.lower c.targetColumn).Nodup) ∧
      r = .columnsRepeated m.recurringColumns := by
  have heq : m.tables.flatMap (·.repeatedColumns) = m.recurringColumns := by
    simp only [Table.repeatedColumns_eq, recurringColumns]
  have hnil : (∃ t ∈ m.tables, ¬ (t.columns.map fun c => Text.lower c.targetColumn).Nodup) ↔
      m.recurringColumns ≠ [] := by
    simp only [← Table.repeatedColumns_eq_nil_iff, ← heq, Ne, List.flatMap_eq_nil_iff]
    simp
  rw [hnil, checkColumns, heq]
  split
  · next hcolumns => exact iff_of_false (by simp) fun h => h.1 hcolumns
  · next hcolumns =>
    constructor
    · rintro ⟨⟩
      exact ⟨hcolumns, rfl⟩
    · rintro ⟨-, rfl⟩
      rfl

/-- The checks of any mapping pass exactly when no two tables have the same target name, no two
write the same document of a kind, and no table has a target column twice, up to case. When they
fail, they fail with the report that the mapping should get, and with no other one. -/
theorem check_reports (m : Mapping) :
    (m.check = .ok () ↔ m.names.Nodup ∧ (m.tables.map (·.batchDocument)).Nodup ∧
      (m.tables.map (·.datalakeDocument)).Nodup ∧
      ∀ t ∈ m.tables, (t.columns.map fun c => Text.lower c.targetColumn).Nodup) ∧
    ∀ r, m.check = .error r ↔ m.Reports r := by
  refine ⟨by rw [check_eq_ok_iff, and_assoc], fun r => ?_⟩
  simp only [check, bind_eq_error_iff, checkNames_eq_error_iff, checkDocuments_eq_error_iff,
    checkColumns_eq_error_iff]
  constructor
  · rintro (⟨hnames, tables, htables, rfl⟩ | ⟨_, hnames, hrest⟩)
    · exact .targetTables hnames htables
    · have hnames := checkNames_eq_ok_iff.1 hnames
      rcases hrest with ⟨hdocuments, batch, datalake, hbatch, hdatalake, rfl⟩ |
        ⟨_, hdocuments, hcolumns, rfl⟩
      · exact .documents hnames hdocuments hbatch hdatalake
      · obtain ⟨hbatch, hdatalake⟩ := checkDocuments_eq_ok_iff.1 hdocuments
        exact .columns hnames hbatch hdatalake hcolumns
  · rintro (⟨hnames, htables⟩ | ⟨hnames, hdocuments, hbatch, hdatalake⟩ |
      ⟨hnames, hbatch, hdatalake, hcolumns⟩)
    · exact .inl ⟨hnames, _, htables, rfl⟩
    · exact .inr ⟨(), checkNames_eq_ok_iff.2 hnames,
        .inl ⟨hdocuments, _, _, hbatch, hdatalake, rfl⟩⟩
    · exact .inr ⟨(), checkNames_eq_ok_iff.2 hnames,
        .inr ⟨(), checkDocuments_eq_ok_iff.2 ⟨hbatch, hdatalake⟩, hcolumns, rfl⟩⟩

end Mapping

end Intake
