import Intake.Mapping.Build
import Intake.Proofs.Check
import Intake.Proofs.Column

/-!
# How tables and mappings are assembled

What each step from the worksheets to the mapping has done when it succeeds. A table consists of
its resolved parts and of nothing else (`Declaration.table_eq_ok_iff`); the tables of a mapping are
those of the declarations that are not excluded, in order (`assembleTables_eq_ok_iff`); and a
mapping that is built has passed all checks (`Mapping.build_eq_ok_iff`). What holds of every table
of every mapping is therefore proved of the table of one declaration (`Mapping.exists_of_build`),
such as where its columns come from (`Mapping.columns_of_build`).
-/

namespace Intake

namespace Table

/-- The columns that are declared, in order. -/
def dataColumns (t : Table) : List Column := t.columns.filter fun c => !c.isPartition

/-- The names in the raw files of the columns of the partition keys, in order. -/
def partitionSources (t : Table) : List String :=
  t.partitions.mapIdx (partitionSource t.partitionStyle)

end Table

namespace Declaration

variable {d : Declaration} {flow target : String} {config : Config}

/-! ## Names -/

/-- The name of a source table has been brought into the namespace of the flow. -/
theorem exists_withFlowPrefix_sourceTable {source : String} (h : d.sourceTable flow = .ok source) :
    ∃ name, source = withFlowPrefix name flow := by
  unfold sourceTable at h
  split at h
  · cases h
    exact ⟨_, rfl⟩
  · split at h
    · next name hname =>
      cases h
      obtain ⟨filename, -, hf⟩ := Option.bind_eq_some_iff.1 hname
      exact exists_withFlowPrefix_of_filename hf
    · simp at h

/-- The name of a target table has been brought into the namespace of the flow. -/
theorem exists_withFlowPrefix_targetTable (h : d.targetTable flow = .ok target) :
    ∃ name, target = withFlowPrefix name flow := by
  unfold targetTable at h
  split at h
  · cases h
    exact ⟨_, rfl⟩
  · exact exists_withFlowPrefix_sourceTable h

theorem hasFlowPrefix_sourceTable {source : String} (h : d.sourceTable flow = .ok source) :
    HasFlowPrefix flow source := by
  obtain ⟨name, rfl⟩ := exists_withFlowPrefix_sourceTable h
  exact withFlowPrefix_hasFlowPrefix name flow

theorem hasFlowPrefix_targetTable (h : d.targetTable flow = .ok target) :
    HasFlowPrefix flow target := by
  obtain ⟨name, rfl⟩ := exists_withFlowPrefix_targetTable h
  exact withFlowPrefix_hasFlowPrefix name flow

/-! ## Partitions -/

theorem checkPartitions_eq_ok_iff {table : String} {keys keys' : List String} :
    checkPartitions table keys = .ok keys' ↔
      keys' = keys ∧ ∀ key ∈ keys, hasForbidden key = false := by
  induction keys generalizing keys' with
  | nil =>
    rw [checkPartitions, Except.ok.injEq]
    exact ⟨fun h => ⟨h.symm, by simp⟩, fun h => h.1.symm⟩
  | cons key rest ih =>
    unfold checkPartitions
    split
    · next h => simp [h]
    · next h =>
      rw [map_eq_ok_iff, List.forall_mem_cons]
      simp only [ih]
      constructor
      · rintro ⟨_, ⟨rfl, hr⟩, rfl⟩
        exact ⟨rfl, by simpa using h, hr⟩
      · rintro ⟨rfl, -, hr⟩
        exact ⟨rest, ⟨rfl, hr⟩, rfl⟩

theorem partitions_eq_ok_iff {keys : List String} : d.partitions target config = .ok keys ↔
    keys = d.partitionKeys config ∧ ∀ key ∈ keys, hasForbidden key = false := by
  unfold partitions
  rw [checkPartitions_eq_ok_iff]
  exact ⟨fun ⟨h, hk⟩ => ⟨h, h ▸ hk⟩, fun ⟨h, hk⟩ => ⟨h, h ▸ hk⟩⟩

/-- Every partition key of a table may be the name of a column. -/
theorem isColumnName_partition {keys : List String} (h : d.partitions target config = .ok keys)
    {key : String} (hk : key ∈ keys) : IsColumnName key := by
  obtain ⟨rfl, hf⟩ := partitions_eq_ok_iff.1 h
  refine isColumnName_iff.2 ⟨?_, hf key hk⟩
  simpa using (List.mem_filter.1 hk).2

/-! ## Tables -/

/-- A table is the completion of resolved parts. -/
theorem table_eq_ok_iff {t : Table} : d.table target flow config = .ok t ↔
    ∃ source keys style columns, d.sourceTable flow = .ok source ∧
      d.partitions target config = .ok keys ∧ d.partitionStyle target config = .ok style ∧
      Column.ofEntries d.entries (d.columnContext target config) = .ok columns ∧
      d.complete target flow config source keys style columns = t := by
  simp only [table, bind_eq_ok_iff, pure_eq_ok_iff]
  constructor
  · rintro ⟨source, hs, keys, hk, style, hp, columns, hc, h⟩
    exact ⟨source, keys, style, columns, hs, hk, hp, hc, h⟩
  · rintro ⟨source, keys, style, columns, hs, hk, hp, hc, h⟩
    exact ⟨source, hs, keys, hk, style, hp, columns, hc, h⟩

theorem isJson_complete (source : String) (keys : List String) (style : PartitionStyle)
    (columns : List Column) : (d.complete target flow config source keys style columns).isJson =
      (d.columnContext target config).isJson := by
  simp only [Table.isJson, complete, columnContext]

theorem dataColumns_complete {source : String} {keys : List String} {style : PartitionStyle}
    {columns : List Column}
    (h : Column.ofEntries d.entries (d.columnContext target config) = .ok columns) :
    (d.complete target flow config source keys style columns).dataColumns = columns := by
  have hdata : columns.filter (fun c => !c.isPartition) = columns := by
    rw [List.filter_eq_self]
    intro c hc
    rw [Column.isPartition_of_mem h hc]
    rfl
  have hparts : (partitionColumns keys style).filter (fun c => !c.isPartition) = [] := by
    rw [List.filter_eq_nil_iff]
    intro c hc
    rw [isPartition_of_mem_partitionColumns hc]
    simp
  rw [Table.dataColumns, complete, List.filter_append, hdata, hparts, List.append_nil]

/-- The columns of a table: the declared ones, then those of the partition keys. -/
theorem columns_table {t : Table} (h : d.table target flow config = .ok t) :
    t.columns = t.dataColumns ++ partitionColumns t.partitions t.partitionStyle := by
  obtain ⟨source, keys, style, columns, -, -, -, hcolumns, rfl⟩ := table_eq_ok_iff.1 h
  rw [dataColumns_complete hcolumns]
  rfl

/-- Columns of raw files that do not name them are named by position. -/
theorem map_sourceColumn_table {t : Table} (h : d.table target flow config = .ok t)
    (hjson : t.isJson = false) : t.dataColumns.map (·.sourceColumn) =
      (List.range' 1 t.dataColumns.length).map fun i => "col" ++ toString i := by
  obtain ⟨source, keys, style, columns, -, -, -, hcolumns, rfl⟩ := table_eq_ok_iff.1 h
  rw [isJson_complete] at hjson
  rw [dataColumns_complete hcolumns]
  exact Column.map_sourceColumn_of_not_isJson hcolumns hjson

end Declaration

/-! ## Mappings -/

/-- The tables of a list of declarations, one for each that is not excluded. -/
theorem assembleTables_eq_ok_iff {flow : String} {config : Config}
    {declared : List (String × Declaration)} {tables : List Table} :
    assembleTables flow config declared = .ok tables ↔
      List.Forall₂ (fun e t => e.2.table e.1 flow config = .ok t)
        (declared.filter fun e => !e.2.isExcluded) tables := by
  induction declared generalizing tables with
  | nil => simp [assembleTables, eq_comm]
  | cons e rest ih =>
    obtain ⟨target, d⟩ := e
    unfold assembleTables
    by_cases hx : d.isExcluded = true
    · simp [hx, ih]
    · simp only [hx, Bool.false_eq_true, if_false, bind_eq_ok_iff, pure_eq_ok_iff, ih,
        Bool.not_false, List.filter_cons_of_pos, List.forall₂_cons_left_iff]
      constructor
      · rintro ⟨t, ht, ts, hts, rfl⟩
        exact ⟨t, ts, ht, hts, rfl⟩
      · rintro ⟨t, ts, ht, hts, rfl⟩
        exact ⟨t, ht, ts, hts, rfl⟩

/-- Every declaration that is read bears the target name that it resolves to. -/
theorem targetTable_of_mem_declarations {flow : String} {sheets : List Worksheet}
    {declared : List (String × Declaration)} (h : declarations flow sheets = .ok declared)
    {e : String × Declaration} (he : e ∈ declared) : e.2.targetTable flow = .ok e.1 := by
  induction sheets generalizing declared with
  | nil =>
    cases h
    simp at he
  | cons sheet rest ih =>
    simp only [declarations, bind_eq_ok_iff] at h
    obtain ⟨read, -, h⟩ := h
    cases read with
    | none => exact ih h he
    | some d =>
      simp only [bind_eq_ok_iff, pure_eq_ok_iff] at h
      obtain ⟨target, ht, others, ho, rfl⟩ := h
      rcases List.mem_cons.1 he with rfl | he
      · exact ht
      · exact ih ho he

namespace Mapping

variable {sheets : List Worksheet} {flow : String} {config : Config} {m : Mapping}

theorem build_eq_ok_iff : build sheets flow config = .ok m ↔
    ∃ declared, declarations (normalFlow flow) sheets = .ok declared ∧
      (declared.map (·.1)).Nodup ∧
      assembleTables (normalFlow flow) config declared = .ok m.tables ∧ m.check = .ok () := by
  simp only [build, bind_eq_ok_iff, pure_eq_ok_iff]
  constructor
  · rintro ⟨declared, hd, _, hn, tables, ht, _, hc, rfl⟩
    exact ⟨declared, hd, checkNames_eq_ok_iff.1 hn, ht, hc⟩
  · rintro ⟨declared, hd, hn, ht, hc⟩
    exact ⟨declared, hd, (), checkNames_eq_ok_iff.2 hn, m.tables, ht, (), hc, rfl⟩

/-- Every table of a mapping is the table of a declaration under its target name. -/
theorem exists_of_build (h : build sheets flow config = .ok m) {t : Table} (ht : t ∈ m.tables) :
    ∃ d target, Declaration.targetTable d (normalFlow flow) = .ok target ∧
      Declaration.table d target (normalFlow flow) config = .ok t := by
  obtain ⟨declared, hd, -, hm, -⟩ := build_eq_ok_iff.1 h
  rw [assembleTables_eq_ok_iff, List.forall₂_iff_get] at hm
  obtain ⟨hlen, hget⟩ := hm
  obtain ⟨i, hi, rfl⟩ := List.mem_iff_getElem.1 ht
  have he := (List.mem_filter.1 (List.getElem_mem (hlen ▸ hi))).1
  exact ⟨_, _, targetTable_of_mem_declarations hd he, hget i (hlen ▸ hi) hi⟩

theorem check_of_build (h : build sheets flow config = .ok m) : m.check = .ok () := by
  obtain ⟨_, -, -, -, hc⟩ := build_eq_ok_iff.1 h
  exact hc

/-! ## Columns of the tables of a mapping -/

section Columns

variable {t : Table}

theorem columns_of_build (h : build sheets flow config = .ok m) (ht : t ∈ m.tables) :
    t.columns = t.dataColumns ++ partitionColumns t.partitions t.partitionStyle := by
  obtain ⟨d, target, -, htable⟩ := exists_of_build h ht
  exact Declaration.columns_table htable

theorem map_sourceColumn_of_build (h : build sheets flow config = .ok m) (ht : t ∈ m.tables)
    (hjson : t.isJson = false) : t.dataColumns.map (·.sourceColumn) =
      (List.range' 1 t.dataColumns.length).map fun i => "col" ++ toString i := by
  obtain ⟨d, target, -, htable⟩ := exists_of_build h ht
  exact Declaration.map_sourceColumn_table htable hjson

theorem nodup_targetColumns_of_build (h : build sheets flow config = .ok m)
    (ht : t ∈ m.tables) : (t.columns.map (·.targetColumn)).Nodup := by
  have hlower := (check_eq_ok_iff.1 (check_of_build h)).2.2 t ht
  rw [← Function.comp_def Text.lower, ← List.map_map] at hlower
  exact List.Nodup.of_map _ hlower

theorem nodup_partitions_of_build (h : build sheets flow config = .ok m) (ht : t ∈ m.tables) :
    t.partitions.Nodup := by
  have htarget := nodup_targetColumns_of_build h ht
  rw [columns_of_build h ht, List.map_append, map_targetColumn_partitionColumns] at htarget
  exact (List.nodup_append.1 htarget).2.1

theorem isColumnName_of_mem_partitions (h : build sheets flow config = .ok m)
    (ht : t ∈ m.tables) {key : String} (hkey : key ∈ t.partitions) : IsColumnName key := by
  obtain ⟨d, target, -, htable⟩ := exists_of_build h ht
  obtain ⟨source, keys, style, columns, -, hkeys, -, -, rfl⟩ :=
    Declaration.table_eq_ok_iff.1 htable
  exact Declaration.isColumnName_partition hkeys hkey

end Columns

end Mapping

end Intake
