import Intake.Proofs.Source.Closed

/-!
# What is tested

Which columns and tests the source document of a table declares, for any table and either kind. The
columns are those of the table, under their source names in the batch document and under their
target names in the datalake document. Columns that have to hold a value are tested for it, all
others are not. Keys are tested for uniqueness in the datalake document only: a single key column by
itself, several of them as one combination, and never both (`SourceTable.Covers`). All tests look at
the same rows, those of the current partition; `SelectsPartition` says which text selects them.
`Table.covers_sourceDocument` says that both documents of every table cover it in this sense.
-/

namespace Intake

/-- Does a test ask for uniqueness? The others ask for a value. -/
def ColumnTest.isUnique : ColumnTest → Bool
  | unique _ => true
  | notNull _ => false

/-- A condition that selects a partition. It compares each key, in order, with the variable of the
same name; without keys there is no condition. -/
inductive SelectsPartition : List String → Option String → Prop
  | everything : SelectsPartition [] none
  | last (key : String) : SelectsPartition [key]
    (some (key ++ "='\x7b\x7b var('" ++ key ++ "') \x7d\x7d'"))
  | and (key : String) {keys : List String} {condition : String}
    (h : SelectsPartition keys (some condition)) : SelectsPartition (key :: keys)
      (some (key ++ "='\x7b\x7b var('" ++ key ++ "') \x7d\x7d'" ++ " and " ++ condition))

namespace SourceColumn

/-- How many tests of a column ask for a value. -/
def valueTests (s : SourceColumn) : Nat := s.tests.countP (!·.isUnique)

/-- How many tests of a column ask for uniqueness. -/
def uniqueTests (s : SourceColumn) : Nat := s.tests.countP (·.isUnique)

end SourceColumn

namespace SourceTable

/-- Nothing is tested for uniqueness. -/
def NothingUnique (d : SourceTable) : Prop := d.tests = [] ∧ ∀ s ∈ d.columns, s.uniqueTests = 0

/-- The columns and the tests that a document of a table declares. -/
structure Covers (d : SourceTable) (t : Table) (kind : SourceKind) : Prop where
  sourceNames : kind = .batch → d.columns.map (·.name) = t.columns.map (·.sourceColumn)
  targetNames : kind = .datalake → d.columns.map (·.name) = t.columns.map (·.targetColumn)
  values : d.columns.map (·.valueTests) =
    t.columns.map fun c => if c.isNullable ∨ c.isPartition then 0 else 1
  uniqueFirst : ∀ s ∈ d.columns, s.tests.Pairwise fun a b => b.isUnique → a.isUnique
  batch : kind = .batch → d.NothingUnique
  keyless : kind = .datalake → t.columns.filter (·.isKey) = [] → d.NothingUnique
  singleKey : kind = .datalake → (t.columns.filter (·.isKey)).length = 1 → d.tests = [] ∧
    d.columns.map (·.uniqueTests) = t.columns.map fun c => if c.isKey then 1 else 0
  compoundKey : kind = .datalake → 2 ≤ (t.columns.filter (·.isKey)).length →
    d.tests.map (·.columns) = [(t.columns.filter (·.isKey)).map (·.targetColumn)] ∧
    ∀ s ∈ d.columns, s.uniqueTests = 0
  condition : ∃ condition, SelectsPartition t.partitions condition ∧
    (∀ test ∈ d.tests, test.condition = condition) ∧
    ∀ s ∈ d.columns, ∀ test ∈ s.tests, test.condition? = condition

end SourceTable

theorem selectsPartition_partitionPredicate? (keys : List String) :
    SelectsPartition keys (partitionPredicate? keys) := by
  induction keys with
  | nil => exact .everything
  | cons key rest ih =>
    cases rest with
    | nil => exact .last key
    | cons next rest =>
      have hand : partitionPredicate? (key :: next :: rest) = some (partitionComparison key ++
          " and " ++ " and ".intercalate ((next :: rest).map partitionComparison)) :=
        congrArg some (String.intercalate_cons_cons ..)
      rw [hand]
      exact .and key ih

namespace Table

variable {t : Table} {kind : SourceKind}

theorem hasCompoundKey_iff : t.hasCompoundKey = true ↔ 2 ≤ (t.columns.filter (·.isKey)).length := by
  simp [hasCompoundKey, keyColumns, Nat.succ_le_iff]

/-- A table with a key that is not compound has a single key column. -/
theorem testsUnique_iff {c : Column} (hc : c ∈ t.columns) : t.testsUnique c kind = true ↔
    kind = .datalake ∧ c.isKey = true ∧ (t.columns.filter (·.isKey)).length = 1 := by
  have hcompound := hasCompoundKey_iff (t := t)
  simp only [testsUnique, Bool.and_eq_true, Bool.not_eq_true', beq_iff_eq]
  constructor
  · rintro ⟨⟨hkind, hkey⟩, hsingle⟩
    have hpos : 0 < (t.columns.filter (·.isKey)).length :=
      List.length_pos_of_mem (List.mem_filter.2 ⟨hc, hkey⟩)
    have hle : ¬ 2 ≤ (t.columns.filter (·.isKey)).length := fun h => by
      simp [hcompound.2 h] at hsingle
    exact ⟨hkind, hkey, by omega⟩
  · rintro ⟨hkind, hkey, hsingle⟩
    refine ⟨⟨hkind, hkey⟩, ?_⟩
    rw [Bool.eq_false_iff, Ne, hcompound]
    omega

theorem uniqueTests_sourceColumn (c : Column) :
    (t.sourceColumn kind c).uniqueTests = if t.testsUnique c kind then 1 else 0 := by
  simp only [SourceColumn.uniqueTests, sourceColumn, columnTests, List.countP_append]
  split <;> split <;> rfl

theorem valueTests_sourceColumn (c : Column) : (t.sourceColumn kind c).valueTests =
    if c.isNullable ∨ c.isPartition then 0 else 1 := by
  have hvalue : testsNotNull c = true ↔ ¬ (c.isNullable = true ∨ c.isPartition = true) := by
    simp [testsNotNull]
  simp only [SourceColumn.valueTests, sourceColumn, columnTests, List.countP_append, hvalue,
    ite_not]
  split <;> split <;> rfl

/-- Uniqueness is tested before values. -/
theorem pairwise_columnTests (c : Column) :
    (t.columnTests c kind).Pairwise fun a b => b.isUnique → a.isUnique := by
  unfold columnTests
  split <;> split <;> simp [ColumnTest.isUnique]

theorem condition?_of_mem_columnTests {c : Column} {test : ColumnTest}
    (h : test ∈ t.columnTests c kind) : test.condition? = t.testCondition := by
  rcases List.mem_append.1 h with h | h
  all_goals
    split at h
    · rw [List.mem_singleton.1 h]
      rfl
    · simp at h

theorem condition_of_mem_combinationTests {test : CombinationTest}
    (h : test ∈ t.combinationTests kind) : test.condition = t.testCondition := by
  unfold combinationTests at h
  split at h
  · rw [List.mem_singleton.1 h]
  · simp at h

theorem combinationTests_eq_nil (h : kind = .batch ∨ (t.columns.filter (·.isKey)).length < 2) :
    t.combinationTests kind = [] := by
  have hcompound := hasCompoundKey_iff (t := t)
  refine if_neg ?_
  rw [Bool.and_eq_true, beq_iff_eq, hcompound]
  rintro ⟨rfl, hlength⟩
  rcases h with h | h
  · cases h
  · omega

/-- What a document says of its columns is said column by column. -/
theorem map_columns_sourceTableEntry {α : Type} {f : SourceColumn → α} {g : Column → α}
    (h : ∀ c ∈ t.columns, f (t.sourceColumn kind c) = g c) :
    (t.sourceTableEntry kind).columns.map f = t.columns.map g :=
  List.map_map.trans (List.map_congr_left h)

theorem forall_mem_columns_sourceTableEntry {p : SourceColumn → Prop} :
    (∀ s ∈ (t.sourceTableEntry kind).columns, p s) ↔ ∀ c ∈ t.columns, p (t.sourceColumn kind c) :=
  List.forall_mem_map

/-- Nothing is tested for uniqueness without a single key column, but for combinations. -/
theorem uniqueTests_eq_zero
    (h : kind = .datalake → (t.columns.filter (·.isKey)).length ≠ 1) :
    ∀ s ∈ (t.sourceTableEntry kind).columns, s.uniqueTests = 0 := by
  refine forall_mem_columns_sourceTableEntry.2 fun c hc => ?_
  rw [uniqueTests_sourceColumn, if_neg]
  rw [testsUnique_iff hc]
  exact fun ⟨hkind, _, hsingle⟩ => h hkind hsingle

theorem covers_sourceTableEntry (t : Table) (kind : SourceKind) :
    (t.sourceTableEntry kind).Covers t kind where
  sourceNames := by
    rintro rfl
    exact map_columns_sourceTableEntry fun _ _ => rfl
  targetNames := by
    rintro rfl
    exact map_columns_sourceTableEntry fun _ _ => rfl
  values := map_columns_sourceTableEntry fun c _ => valueTests_sourceColumn c
  uniqueFirst := forall_mem_columns_sourceTableEntry.2 fun c _ => pairwise_columnTests c
  batch hkind := ⟨combinationTests_eq_nil (.inl hkind), uniqueTests_eq_zero fun h => by simp_all⟩
  keyless _ hkeys :=
    ⟨combinationTests_eq_nil (.inr (by simp [hkeys])), uniqueTests_eq_zero fun _ => by simp [hkeys]⟩
  singleKey hkind hsingle := by
    refine ⟨combinationTests_eq_nil (.inr (by omega)), map_columns_sourceTableEntry fun c hc => ?_⟩
    rw [uniqueTests_sourceColumn]
    simp only [testsUnique_iff hc, hkind, hsingle, true_and, and_true]
  compoundKey hkind hcompound := by
    refine ⟨?_, uniqueTests_eq_zero fun _ => by omega⟩
    have htests : (t.sourceTableEntry kind).tests = [⟨t.keyColumns, t.testCondition⟩] := by
      refine if_pos ?_
      rw [Bool.and_eq_true, beq_iff_eq]
      exact ⟨hkind, hasCompoundKey_iff.2 hcompound⟩
    rw [htests]
    rfl
  condition := by
    refine ⟨t.testCondition, selectsPartition_partitionPredicate? t.partitions,
      fun test h => ?_, ?_⟩
    · exact condition_of_mem_combinationTests h
    · exact forall_mem_columns_sourceTableEntry.2 fun c _ test h => condition?_of_mem_columnTests h

/-- A source document declares one table, in the profile of its kind, and covers it. -/
theorem covers_sourceDocument (t : Table) (kind : SourceKind) : ∃ profile entry,
    (t.sourceDocument kind).sources = [⟨profile, [entry]⟩] ∧
    profile = (match kind with | .batch => t.batchProfile | .datalake => t.datalakeProfile) ∧
    entry.Covers t kind := by
  refine ⟨t.profile kind, t.sourceTableEntry kind, rfl, ?_, covers_sourceTableEntry t kind⟩
  cases kind <;> rfl

/-- Deliveries of parcels, identified by the parcel and the stop; each day is a partition. -/
def deliveries : Table :=
  { (default : Table) with
    datalakeProfile := "curated"
    columns :=
      [{ (default : Column) with sourceColumn := "col1", targetColumn := "parcel", isKey := true },
        { (default : Column) with sourceColumn := "col2", targetColumn := "stop", isKey := true },
        { (default : Column) with
          sourceColumn := "col3", targetColumn := "note", isNullable := true },
        { (default : Column) with
          sourceColumn := "partition_0", targetColumn := "day", isPartition := true }]
    partitions := ["month", "day"] }

theorem covers_sourceDocument_deliveries : ∃ entry,
    (deliveries.sourceDocument .datalake).sources = [⟨"curated", [entry]⟩] ∧
    entry.columns.map (·.name) = ["parcel", "stop", "note", "day"] ∧
    entry.columns.map (·.valueTests) = [1, 1, 0, 0] ∧
    entry.tests.map (·.columns) = [["parcel", "stop"]] ∧
    (∀ s ∈ entry.columns, s.uniqueTests = 0) ∧
    ∀ test ∈ entry.tests, test.condition =
      some "month='\x7b\x7b var('month') \x7d\x7d' and day='\x7b\x7b var('day') \x7d\x7d'" := by
  obtain ⟨_, entry, hsources, rfl, hcovers⟩ := covers_sourceDocument deliveries .datalake
  obtain ⟨htests, hunique⟩ := hcovers.compoundKey rfl (by decide)
  obtain ⟨_, hselects, hcondition, -⟩ := hcovers.condition
  refine ⟨entry, hsources, hcovers.targetNames rfl, hcovers.values, htests, hunique, ?_⟩
  cases hselects with
  | and _ hrest =>
    cases hrest with
    | last => exact hcondition
    | and _ hnone => cases hnone

end Table

end Intake
