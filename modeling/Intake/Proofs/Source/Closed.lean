import Intake.Proofs.Source.Names
import Intake.Proofs.Source.Predicate

/-!
# Tests that look at declared columns

A source document is closed when its tests only look at columns that it declares: the keys that its
conditions compare and the columns of its combinations (`SourceDocument.IsClosed`). Conditions are
made of the partition keys. Those are columns of the datalake document, and of the batch document
where they are names in the raw files. Where they are not, the batch document has columns for them
under positional names, and `Mapping.isClosed_sourceDocument` says when it is closed all the same.
-/

namespace Intake

/-- The condition of a test, if it has one. -/
def ColumnTest.condition? : ColumnTest → Option String
  | unique condition => condition
  | notNull condition => condition

namespace SourceDocument

/-- The conditions of all tests, those of tables and those of columns. -/
def conditions (d : SourceDocument) : List String :=
  d.sources.flatMap fun p => p.tables.flatMap fun t =>
    t.tests.filterMap (·.condition) ++ t.columns.flatMap fun c => c.tests.filterMap (·.condition?)

/-- The columns in the combinations that are tested for uniqueness. -/
def combinedColumns (d : SourceDocument) : List String :=
  d.sources.flatMap fun p => p.tables.flatMap fun t => t.tests.flatMap (·.columns)

/-- All tests look at declared columns only. -/
structure IsClosed (d : SourceDocument) : Prop where
  compared : ∀ condition ∈ d.conditions, ∀ key ∈ comparedKeys condition, key ∈ d.columnNames
  combined : ∀ name ∈ d.combinedColumns, name ∈ d.columnNames

instance (d : SourceDocument) : Decidable d.IsClosed :=
  decidable_of_iff ((∀ condition ∈ d.conditions, ∀ key ∈ comparedKeys condition,
      key ∈ d.columnNames) ∧ ∀ name ∈ d.combinedColumns, name ∈ d.columnNames)
    ⟨fun h => ⟨h.1, h.2⟩, fun h => ⟨h.compared, h.combined⟩⟩

end SourceDocument

namespace Table

variable {t : Table} {kind : SourceKind}

theorem conditions_sourceDocument (t : Table) (kind : SourceKind) :
    (t.sourceDocument kind).conditions = (t.combinationTests kind).filterMap (·.condition) ++
      t.columns.flatMap fun c => (t.columnTests c kind).filterMap (·.condition?) := by
  simp only [SourceDocument.conditions, sourceDocument, sourceTableEntry, List.flatMap_cons,
    List.flatMap_nil, List.append_nil, List.flatMap_map]
  rfl

theorem combinedColumns_sourceDocument (t : Table) (kind : SourceKind) :
    (t.sourceDocument kind).combinedColumns =
      (t.combinationTests kind).flatMap (·.columns) := by
  simp only [SourceDocument.combinedColumns, sourceDocument, sourceTableEntry, List.flatMap_cons,
    List.flatMap_nil, List.append_nil]

/-- Every test has the condition that selects the current partition. -/
theorem testCondition_of_mem_conditions {condition : String}
    (h : condition ∈ (t.sourceDocument kind).conditions) : t.testCondition = some condition := by
  rw [conditions_sourceDocument] at h
  rcases List.mem_append.1 h with h | h
  · obtain ⟨test, htest, hcondition⟩ := List.mem_filterMap.1 h
    unfold combinationTests at htest
    split at htest
    · rw [List.mem_singleton.1 htest] at hcondition
      exact hcondition
    · simp at htest
  · obtain ⟨c, -, h⟩ := List.mem_flatMap.1 h
    obtain ⟨test, htest, hcondition⟩ := List.mem_filterMap.1 h
    rcases List.mem_append.1 htest with htest | htest
    all_goals
      split at htest
      · rw [List.mem_singleton.1 htest] at hcondition
        exact hcondition
      · simp at htest

/-- The batch document has the condition when a column is tested for missing values. -/
theorem mem_conditions_batch {c : Column} (hc : c ∈ t.columns) (htest : testsNotNull c = true)
    {condition : String} (hcondition : t.testCondition = some condition) :
    condition ∈ (t.sourceDocument .batch).conditions := by
  rw [conditions_sourceDocument]
  refine List.mem_append_right _ (List.mem_flatMap.2 ⟨c, hc, ?_⟩)
  refine List.mem_filterMap.2 ⟨.notNull (some condition), ?_, rfl⟩
  simp [columnTests, htest, hcondition]

theorem conditions_batch_eq_nil (h : ∀ c ∈ t.columns, testsNotNull c = false) :
    (t.sourceDocument .batch).conditions = [] := by
  rw [conditions_sourceDocument, List.append_eq_nil_iff, List.flatMap_eq_nil_iff]
  refine ⟨by simp [combinationTests], fun c hc => ?_⟩
  simp [columnTests, testsUnique, h c hc]

theorem combinedColumns_batch (t : Table) : (t.sourceDocument .batch).combinedColumns = [] := by
  rw [combinedColumns_sourceDocument]
  simp [combinationTests]

/-- The columns of the combination are key columns. -/
theorem mem_columnNames_of_mem_combinedColumns {name : String}
    (h : name ∈ (t.sourceDocument .datalake).combinedColumns) :
    name ∈ (t.sourceDocument .datalake).columnNames := by
  rw [combinedColumns_sourceDocument] at h
  obtain ⟨test, htest, hname⟩ := List.mem_flatMap.1 h
  unfold combinationTests at htest
  split at htest
  · rw [List.mem_singleton.1 htest] at hname
    obtain ⟨c, hc, rfl⟩ := List.mem_map.1 hname
    rw [columnNames_sourceDocument]
    exact List.mem_map_of_mem (List.mem_filter.1 hc).1
  · simp at htest

/-- When the conditions of a document compare declared columns: there are none, or all partition
keys are declared. -/
theorem compared_iff (hkeys : ∀ key ∈ t.partitions, ' ' ∉ key.toList) :
    (∀ condition ∈ (t.sourceDocument kind).conditions, ∀ key ∈ comparedKeys condition,
        key ∈ (t.sourceDocument kind).columnNames) ↔
      (t.sourceDocument kind).conditions = [] ∨
        ∀ key ∈ t.partitions, key ∈ (t.sourceDocument kind).columnNames := by
  have hcompared : ∀ condition ∈ (t.sourceDocument kind).conditions,
      comparedKeys condition = t.partitions := fun condition hmem =>
    comparedKeys_eq (testCondition_of_mem_conditions hmem) hkeys
  constructor
  · intro h
    by_cases hnil : (t.sourceDocument kind).conditions = []
    · exact Or.inl hnil
    · obtain ⟨condition, hmem⟩ := List.exists_mem_of_ne_nil _ hnil
      exact Or.inr (hcompared condition hmem ▸ h condition hmem)
  · rintro (hnil | h) condition hmem key hkey
    · rw [hnil] at hmem
      simp at hmem
    · rw [hcompared condition hmem] at hkey
      exact h key hkey

/-- The batch document has conditions when a column is tested and there is a partition key. -/
theorem conditions_batch_eq_nil_iff (t : Table) : (t.sourceDocument .batch).conditions = [] ↔
    (∀ c ∈ t.columns, testsNotNull c = false) ∨ t.partitions = [] := by
  constructor
  · intro hnil
    by_contra hnot
    rw [not_or] at hnot
    obtain ⟨hcolumns, hpartitions⟩ := hnot
    simp only [not_forall, Bool.not_eq_false] at hcolumns
    obtain ⟨c, hc, htest⟩ := hcolumns
    have hcondition : t.testCondition =
        some (" and ".intercalate (t.partitions.map partitionComparison)) := by
      rw [testCondition, partitionPredicate?, if_neg (by simpa using hpartitions)]
    have hmem := mem_conditions_batch hc htest hcondition
    rw [hnil] at hmem
    simp at hmem
  · rintro (h | h)
    · exact conditions_batch_eq_nil h
    · rw [List.eq_nil_iff_forall_not_mem]
      intro condition hmem
      have hcondition := testCondition_of_mem_conditions hmem
      rw [testCondition, h] at hcondition
      simp [partitionPredicate?] at hcondition

end Table

/-! ## Tables that are built -/

namespace Mapping

variable {sheets : List Worksheet} {flow : String} {config : Config} {m : Mapping} {t : Table}

/-- Every partition key is a column of the datalake document. -/
theorem mem_columnNames_datalake (h : build sheets flow config = .ok m) (ht : t ∈ m.tables)
    {key : String} (hkey : key ∈ t.partitions) :
    key ∈ (t.sourceDocument .datalake).columnNames := by
  rw [Table.columnNames_sourceDocument, columns_of_build h ht, List.map_append]
  refine List.mem_append_right _ ?_
  rw [← map_targetColumn_partitionColumns t.partitions t.partitionStyle] at hkey
  exact hkey

/-- The datalake document of a table that is built is closed. The batch document is closed exactly
when partition keys are names in the raw files, no column is tested for missing values, or each key
happens to be the name of some column in the raw files. -/
theorem isClosed_sourceDocument (h : build sheets flow config = .ok m) (ht : t ∈ m.tables) :
    (t.sourceDocument .datalake).IsClosed ∧
    ((t.sourceDocument .batch).IsClosed ↔ t.partitionStyle = .hive ∨
      (∀ c ∈ t.columns, Table.testsNotNull c = false) ∨
      ∀ key ∈ t.partitions,
        key ∈ t.dataColumns.map (·.sourceColumn) ∨ key ∈ t.partitionSources) := by
  have hkeys : ∀ key ∈ t.partitions, ' ' ∉ key.toList := fun key hkey =>
    (isColumnName_of_mem_partitions h ht hkey).no_space
  have hnames (key : String) : key ∈ (t.sourceDocument .batch).columnNames ↔
      key ∈ t.dataColumns.map (·.sourceColumn) ∨ key ∈ t.partitionSources := by
    rw [Table.columnNames_batch (columns_of_build h ht), List.mem_append]
  refine ⟨⟨(Table.compared_iff hkeys).2 (Or.inr fun key hkey => ?_), fun name hname => ?_⟩, ?_⟩
  · exact mem_columnNames_datalake h ht hkey
  · exact Table.mem_columnNames_of_mem_combinedColumns hname
  · simp only [← hnames]
    constructor
    · intro hclosed
      rcases (Table.compared_iff hkeys).1 hclosed.compared with hnil | hdeclared
      · rcases (Table.conditions_batch_eq_nil_iff t).1 hnil with huntested | hpartitions
        · exact Or.inr (Or.inl huntested)
        · exact Or.inr (Or.inr (by simp [hpartitions]))
      · exact Or.inr (Or.inr hdeclared)
    · intro hcases
      refine ⟨(Table.compared_iff hkeys).2 ?_, by simp [Table.combinedColumns_batch]⟩
      rcases hcases with hstyle | huntested | hdeclared
      · refine Or.inr fun key hkey => (hnames key).2 (Or.inr ?_)
        rw [Table.partitionSources_hive hstyle]
        exact hkey
      · exact Or.inl ((Table.conditions_batch_eq_nil_iff t).2 (Or.inl huntested))
      · exact Or.inr hdeclared

/-- Two tables with the same columns and partition keys, which are names in the raw files of the
first one only. -/
def parcelsAndRoutes : List Worksheet :=
  [⟨"Parcels", [[.text "TYPE"], [.text "#INGESTION"], [.text "#CONFIG"],
      [.text "source_table", .text "parcels"],
      [.text "#SELECT"], [.text "source_name", .text "new_name", .text "data_type"],
      [.text "ID", .text "parcel_id", .text "integer"]]⟩,
    ⟨"Routes", [[.text "TYPE"], [.text "#INGESTION"], [.text "#CONFIG"],
      [.text "source_table", .text "routes"], [.text "partitions_style", .text "non-hive"],
      [.text "#SELECT"], [.text "source_name", .text "new_name", .text "data_type"],
      [.text "ID", .text "route_id", .text "integer"]]⟩]

/-- A batch document with positional partition columns is not closed. -/
theorem exists_not_isClosed_parcelsAndRoutes : ∃ m, build parcelsAndRoutes "post" {} = .ok m ∧
    ∃ t ∈ m.tables, ¬ (t.sourceDocument .batch).IsClosed := by
  have hok : (build parcelsAndRoutes "post" {}).toOption.map (fun m =>
      decide (∃ t ∈ m.tables, ¬ (t.sourceDocument .batch).IsClosed)) = some true := by
    decide +kernel
  obtain ⟨m, hm, hopen⟩ := exists_of_toOption_map hok
  exact ⟨m, hm, of_decide_eq_true hopen⟩

theorem isClosed_parcelsAndRoutes : ∃ m, build parcelsAndRoutes "post" {} = .ok m ∧
    m.tables.map (·.partitionStyle) = [.hive, .nonHive] ∧
    ∀ t ∈ m.tables, (t.sourceDocument .datalake).IsClosed ∧
      (t.partitionStyle = .hive → (t.sourceDocument .batch).IsClosed) := by
  have hok : (build parcelsAndRoutes "post" {}).toOption.map
      (fun m => m.tables.map (·.partitionStyle)) = some [.hive, .nonHive] := by decide +kernel
  obtain ⟨m, hm, hstyles⟩ := exists_of_toOption_map hok
  refine ⟨m, hm, hstyles, fun t ht => ?_⟩
  obtain ⟨hdatalake, hbatch⟩ := isClosed_sourceDocument hm ht
  exact ⟨hdatalake, fun hstyle => hbatch.2 (Or.inl hstyle)⟩

end Mapping

end Intake
