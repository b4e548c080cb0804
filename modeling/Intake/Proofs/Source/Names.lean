import Mathlib.Data.List.Nodup
import Intake.Proofs.Assembly
import Intake.Source.Render

/-!
# Column names of source documents

The datalake document names its columns by their target names, which the checks keep apart. The
batch document names them by their names in the raw files, and no check looks at those: declared
columns have the names of JSON fields or positional names, partition columns have the key or a
positional name, and the two may meet. `Mapping.nodup_columnNames` says that they do exactly when
they are not apart in the sense of `Table.SourceNamesApart`.
-/

namespace Intake

/-- The names of the columns that a source document declares, in order. -/
def SourceDocument.columnNames (d : SourceDocument) : List String :=
  d.sources.flatMap fun p => p.tables.flatMap fun t => t.columns.map (·.name)

/-! ## Positional names -/

theorem append_toString_injective (s : String) :
    Function.Injective fun i : Nat => s ++ toString i := by
  intro i j h
  have hchars : (s ++ toString i).toList = (s ++ toString j).toList := congrArg String.toList h
  rw [String.toList_append, String.toList_append, List.append_cancel_left_eq,
    Nat.toString_eq_ofList_toDigits, Nat.toString_eq_ofList_toDigits, String.toList_ofList,
    String.toList_ofList] at hchars
  have hvalue := congrArg (Nat.ofDigitChars 10 · 0) hchars
  simpa only [Nat.ofDigitChars_ten_toDigits] using hvalue

theorem nodup_positional (n : Nat) :
    ((List.range' 1 n).map fun i => "col" ++ toString i).Nodup :=
  List.Nodup.map (append_toString_injective "col") List.nodup_range'

theorem positional_ne_partition (i j : Nat) :
    "col" ++ toString i ≠ "partition_" ++ toString j := by
  intro h
  have hchars := congrArg String.toList h
  rw [String.toList_append, String.toList_append] at hchars
  exact absurd (List.cons.inj hchars).1 (by decide)

theorem nodup_mapIdx_partition (keys : List String) :
    (keys.mapIdx fun i _ => "partition_" ++ toString i).Nodup := by
  have hrange : (keys.mapIdx fun i _ => "partition_" ++ toString i) =
      (List.range keys.length).map fun i => "partition_" ++ toString i :=
    List.ext_getElem (by simp) fun i _ _ => by simp
  rw [hrange]
  exact List.Nodup.map (append_toString_injective "partition_") List.nodup_range

namespace Table

/-- The names of columns in the raw files do not meet. Names of fields have to differ from each
other and from those of the partition columns. Of positional names it is only asked that none of
them is a partition key, where keys are names in the raw files. -/
def SourceNamesApart (t : Table) : Prop :=
  if t.isJson then
    (t.dataColumns.map (·.sourceColumn)).Nodup ∧
      ∀ c ∈ t.dataColumns, c.sourceColumn ∉ t.partitionSources
  else
    t.partitionStyle = .hive →
      ∀ i ∈ List.range' 1 t.dataColumns.length, "col" ++ toString i ∉ t.partitions

instance (t : Table) : Decidable t.SourceNamesApart :=
  inferInstanceAs (Decidable (if t.isJson then _ else _))

theorem columnNames_sourceDocument (t : Table) (kind : SourceKind) :
    (t.sourceDocument kind).columnNames = t.columns.map fun c => columnName c kind := by
  simp only [SourceDocument.columnNames, sourceDocument, sourceTableEntry, List.flatMap_cons,
    List.flatMap_nil, List.append_nil, List.map_map]
  rfl

theorem partitionSources_hive {t : Table} (h : t.partitionStyle = .hive) :
    t.partitionSources = t.partitions := by
  rw [partitionSources, h]
  exact List.ext_getElem (by simp) fun i _ _ => by simp [partitionSource]

theorem partitionSources_nonHive {t : Table} (h : t.partitionStyle = .nonHive) :
    t.partitionSources = t.partitions.mapIdx fun i _ => "partition_" ++ toString i := by
  rw [partitionSources, h]
  rfl

/-- The batch document lists the declared columns, then those of the partition keys. -/
theorem columnNames_batch {t : Table}
    (h : t.columns = t.dataColumns ++ partitionColumns t.partitions t.partitionStyle) :
    (t.sourceDocument .batch).columnNames =
      t.dataColumns.map (·.sourceColumn) ++ t.partitionSources := by
  rw [columnNames_sourceDocument, h, List.map_append]
  exact congrArg _ (map_sourceColumn_partitionColumns t.partitions t.partitionStyle)

end Table

/-! ## Tables that are built -/

namespace Mapping

variable {sheets : List Worksheet} {flow : String} {config : Config} {m : Mapping} {t : Table}

/-- The names of the partition columns in the raw files never meet. -/
theorem nodup_partitionSources_of_build (h : build sheets flow config = .ok m)
    (ht : t ∈ m.tables) : t.partitionSources.Nodup := by
  cases hstyle : t.partitionStyle with
  | hive =>
    rw [Table.partitionSources_hive hstyle]
    exact nodup_partitions_of_build h ht
  | nonHive =>
    rw [Table.partitionSources_nonHive hstyle]
    exact nodup_mapIdx_partition t.partitions

/-- The names of a batch document meet among the declared columns, or of these with a partition
column. -/
theorem nodup_batch_iff (h : build sheets flow config = .ok m) (ht : t ∈ m.tables) :
    (t.sourceDocument .batch).columnNames.Nodup ↔ (t.dataColumns.map (·.sourceColumn)).Nodup ∧
      ∀ c ∈ t.dataColumns, c.sourceColumn ∉ t.partitionSources := by
  rw [Table.columnNames_batch (columns_of_build h ht), List.nodup_append]
  constructor
  · rintro ⟨hdata, -, hapart⟩
    exact ⟨hdata, fun c hc hmem => hapart _ (List.mem_map_of_mem hc) _ hmem rfl⟩
  · rintro ⟨hdata, hapart⟩
    refine ⟨hdata, nodup_partitionSources_of_build h ht, fun name hname other hother heq => ?_⟩
    obtain ⟨c, hc, rfl⟩ := List.mem_map.1 hname
    exact hapart c hc (heq ▸ hother)

/-- Positional names only meet a partition key that looks like one of them. -/
theorem nodup_batch_positional_iff (h : build sheets flow config = .ok m) (ht : t ∈ m.tables)
    (hjson : t.isJson = false) : (t.sourceDocument .batch).columnNames.Nodup ↔
      ∀ i ∈ List.range' 1 t.dataColumns.length, "col" ++ toString i ∉ t.partitionSources := by
  have hnames := map_sourceColumn_of_build h ht hjson
  rw [nodup_batch_iff h ht, hnames, iff_true_intro (nodup_positional _), true_and]
  have hforall : (∀ c ∈ t.dataColumns, c.sourceColumn ∉ t.partitionSources) ↔
      ∀ name ∈ t.dataColumns.map (·.sourceColumn), name ∉ t.partitionSources := by
    rw [List.forall_mem_map]
  rw [hforall, hnames, List.forall_mem_map]

/-- The batch document declares no column twice exactly when the names in the raw files do not
meet. -/
theorem nodup_batch_iff_sourceNamesApart (h : build sheets flow config = .ok m)
    (ht : t ∈ m.tables) :
    (t.sourceDocument .batch).columnNames.Nodup ↔ t.SourceNamesApart := by
  unfold Table.SourceNamesApart
  cases hjson : t.isJson with
  | true => exact nodup_batch_iff h ht
  | false =>
    rw [nodup_batch_positional_iff h ht hjson, if_neg (by simp)]
    cases hstyle : t.partitionStyle with
    | hive =>
      rw [Table.partitionSources_hive hstyle]
      exact ⟨fun hapart _ => hapart, fun hapart => hapart rfl⟩
    | nonHive =>
      refine iff_of_true (fun i _ hmem => ?_) fun hhive => nomatch hhive
      rw [Table.partitionSources_nonHive hstyle] at hmem
      obtain ⟨j, -, heq⟩ := List.mem_mapIdx.1 hmem
      exact positional_ne_partition i j heq.symm

/-- The datalake document of a table that is built declares no column twice, and the batch document
declares none twice exactly when the names in the raw files are apart. -/
theorem nodup_columnNames (h : build sheets flow config = .ok m) (ht : t ∈ m.tables) :
    (t.sourceDocument .datalake).columnNames.Nodup ∧
      ((t.sourceDocument .batch).columnNames.Nodup ↔ t.SourceNamesApart) := by
  refine ⟨?_, nodup_batch_iff_sourceNamesApart h ht⟩
  rw [Table.columnNames_sourceDocument]
  exact nodup_targetColumns_of_build h ht

/-- JSON records of which one field is declared under two names, delimited records with a partition
key that is also a positional name, and the same where keys are no names in the raw files. -/
def clicksAndVisits : List Worksheet :=
  [⟨"Clicks", [[.text "TYPE"], [.text "#INGESTION"], [.text "#CONFIG"],
      [.text "source_table", .text "clicks"], [.text "source_format", .text "json"],
      [.text "#SELECT"], [.text "source_name", .text "new_name", .text "data_type"],
      [.text "ID", .text "click_id", .text "integer"],
      [.text "id", .text "visit_id", .text "integer"]]⟩,
    ⟨"Visits", [[.text "TYPE"], [.text "#INGESTION"], [.text "#CONFIG"],
      [.text "source_table", .text "visits"], [.text "partitions", .text "col1"],
      [.text "#SELECT"], [.text "source_name", .text "new_name", .text "data_type"],
      [.text "ID", .text "visit_id", .text "integer"]]⟩,
    ⟨"Logs", [[.text "TYPE"], [.text "#INGESTION"], [.text "#CONFIG"],
      [.text "source_table", .text "logs"], [.text "partitions", .text "col1"],
      [.text "partitions_style", .text "non-hive"],
      [.text "#SELECT"], [.text "source_name", .text "new_name", .text "data_type"],
      [.text "ID", .text "visit_id", .text "integer"]]⟩]

/-- Batch documents of both kinds of records declare a column twice. -/
theorem repeated_columnNames_clicksAndVisits : ∃ m, build clicksAndVisits "web" {} = .ok m ∧
    (∃ t ∈ m.tables, t.isJson = true ∧ ¬ (t.sourceDocument .batch).columnNames.Nodup) ∧
    (∃ t ∈ m.tables, t.isJson = false ∧ ¬ (t.sourceDocument .batch).columnNames.Nodup) := by
  have hok : (build clicksAndVisits "web" {}).toOption.map (fun m => decide
      ((∃ t ∈ m.tables, t.isJson = true ∧ ¬ (t.sourceDocument .batch).columnNames.Nodup) ∧
        ∃ t ∈ m.tables, t.isJson = false ∧ ¬ (t.sourceDocument .batch).columnNames.Nodup)) =
      some true := by decide +kernel
  obtain ⟨m, hm, hrepeated⟩ := exists_of_toOption_map hok
  exact ⟨m, hm, of_decide_eq_true hrepeated⟩

/-- The batch documents without a repeated column are found from the names in the raw files. -/
theorem nodup_columnNames_clicksAndVisits : ∃ m, build clicksAndVisits "web" {} = .ok m ∧
    m.tables.map (fun t => decide t.SourceNamesApart) = [false, false, true] ∧
    ∀ t ∈ m.tables, (t.sourceDocument .datalake).columnNames.Nodup ∧
      ((t.sourceDocument .batch).columnNames.Nodup ↔ t.SourceNamesApart) := by
  have hok : (build clicksAndVisits "web" {}).toOption.map
      (fun m => m.tables.map fun t => decide t.SourceNamesApart) = some [false, false, true] := by
    decide +kernel
  obtain ⟨m, hm, hapart⟩ := exists_of_toOption_map hok
  exact ⟨m, hm, hapart, fun t ht => nodup_columnNames hm ht⟩

end Mapping

end Intake
