import Intake.Proofs.Assembly

/-!
# Mappings are consistent

`Mapping.Consistent` is what the readers of a mapping rely on: its tables belong to one flow and
bear its prefix, no two of them meet under a target name or in a document, their locations are
directories, and their columns are data columns followed by one column for each partition key, all
under names that a table may have and that differ from each other in more than case.

`Mapping.consistent_of_build` says that every mapping that is built is consistent, whatever the
worksheets hold and whichever names and locations are declared or derived. The part about a single
table is `Declaration.wellFormed_table`; that no names meet is what the checks have decided.
-/

namespace Intake

/-! ## The invariant -/

/-- The column that a partition key at an index adds to a table. -/
structure Column.StandsFor (style : PartitionStyle) (index : Nat) (key : String) (c : Column) :
    Prop where
  isPartition : c.isPartition = true
  targetColumn : c.targetColumn = key
  sourceColumn : c.sourceColumn =
    match style with
    | .hive => key
    | .nonHive => "partition_" ++ toString index
  isKey : c.isKey = false
  isNullable : c.isNullable = false

/-- The columns of a table: data columns, then one column for each partition key in order. -/
def Table.ColumnsInOrder (t : Table) : Prop :=
  ∃ data parts, t.columns = data ++ parts ∧ (∀ c ∈ data, c.isPartition = false) ∧
    List.Forall₂ (fun key c => c.StandsFor t.partitionStyle key.2 key.1) t.partitions.zipIdx parts

/-- A table on which its readers can rely, but for the columns that it has twice. -/
structure Table.WellFormed (flow : String) (t : Table) : Prop where
  flow_eq : t.flow = flow
  sourceTable : HasFlowPrefix flow t.sourceTable
  targetTable : HasFlowPrefix flow t.targetTable
  sourceLocation : Path.endsWithSlash t.sourceLocation = true
  targetLocation : Path.endsWithSlash t.targetLocation = true
  columns : t.ColumnsInOrder
  columnNames : ∀ c ∈ t.columns, IsColumnName c.targetColumn

/-- A mapping on which its readers can rely. -/
structure Mapping.Consistent (flow : String) (m : Mapping) : Prop where
  wellFormed : ∀ t ∈ m.tables, t.WellFormed flow
  targetTables : (m.tables.map (·.targetTable)).Nodup
  batchDocuments : (m.tables.map (·.batchDocument)).Nodup
  datalakeDocuments : (m.tables.map (·.datalakeDocument)).Nodup
  targetColumns : ∀ t ∈ m.tables, (t.columns.map fun c => Text.lower c.targetColumn).Nodup

/-! ## Partition columns -/

theorem standsFor_partitionColumn (style : PartitionStyle) (index : Nat) (key : String) :
    (partitionColumn style index key).StandsFor style index key where
  isPartition := rfl
  targetColumn := rfl
  sourceColumn := by cases style <;> rfl
  isKey := rfl
  isNullable := rfl

theorem forall₂_standsFor_partitionColumns (keys : List String) (style : PartitionStyle) :
    List.Forall₂ (fun key c => Column.StandsFor style key.2 key.1 c) keys.zipIdx
      (partitionColumns keys style) := by
  rw [partitionColumns, List.mapIdx_eq_zipIdx_map, List.forall₂_map_right_iff, List.forall₂_same]
  exact fun key _ => standsFor_partitionColumn style key.2 key.1

/-! ## One table -/

namespace Declaration

variable {d : Declaration} {target flow source : String} {config : Config} {keys : List String}
  {style : PartitionStyle} {columns : List Column}

theorem endsWithSlash_sourceLocation :
    Path.endsWithSlash
      (d.complete target flow config source keys style columns).sourceLocation = true := by
  simp only [complete]
  split
  · exact endsWithSlash_ensureTrailingSlash _
  · exact endsWithSlash_tableLocation _ _ _

theorem endsWithSlash_targetLocation :
    Path.endsWithSlash
      (d.complete target flow config source keys style columns).targetLocation = true := by
  simp only [complete]
  split
  · exact endsWithSlash_ensureTrailingSlash _
  · exact endsWithSlash_tableLocation _ _ _

/-- The table of a declaration is well formed under every target name of the flow. -/
theorem wellFormed_table {t : Table} (htarget : HasFlowPrefix flow target)
    (h : d.table target flow config = .ok t) : t.WellFormed flow := by
  obtain ⟨source, keys, style, columns, hsource, hkeys, -, hcolumns, rfl⟩ := table_eq_ok_iff.1 h
  refine ⟨rfl, hasFlowPrefix_sourceTable hsource, htarget, endsWithSlash_sourceLocation,
    endsWithSlash_targetLocation, ?_, fun c hc => ?_⟩
  · exact ⟨columns, partitionColumns keys style, rfl,
      fun c hc => Column.isPartition_of_mem hcolumns hc,
      forall₂_standsFor_partitionColumns keys style⟩
  · rcases List.mem_append.1 hc with hc | hc
    · exact Column.isColumnName_of_mem hcolumns hc
    · exact isColumnName_partition hkeys (targetColumn_mem_of_mem_partitionColumns hc)

end Declaration

/-! ## All tables -/

namespace Mapping

variable {sheets : List Worksheet} {flow : String} {config : Config} {m : Mapping}

theorem wellFormed_of_build (h : build sheets flow config = .ok m) {t : Table}
    (ht : t ∈ m.tables) : t.WellFormed (normalFlow flow) := by
  obtain ⟨d, target, htarget, htable⟩ := exists_of_build h ht
  exact Declaration.wellFormed_table (Declaration.hasFlowPrefix_targetTable htarget) htable

/-- Every mapping that is built from worksheets is consistent. -/
theorem consistent_of_build (h : build sheets flow config = .ok m) :
    m.Consistent (normalFlow flow) := by
  obtain ⟨hnames, ⟨hbatch, hdatalake⟩, hcolumns⟩ := check_eq_ok_iff.1 (check_of_build h)
  exact ⟨fun t ht => wellFormed_of_build h ht, hnames, hbatch, hdatalake, hcolumns⟩

/-- A worksheet that declares its names, and one that leaves them to its filename. -/
def ordersAndRefunds : List Worksheet :=
  [⟨"Orders", [[.text "TYPE"], [.text "#INGESTION"], [.text "#CONFIG"],
      [.text "Source_Table", .text " Orders "], [.text "source_location", .text "s3://raw/orders"],
      [.text "#SELECT"], [.text "source_name", .text "new_name", .text "data_type"],
      [.text "ID", .text "Order_Id", .text "integer"], [],
      [.text "AMOUNT", .text "amount", .text "decimal"]]⟩,
    ⟨"Notes", [[.text "free text"]]⟩,
    ⟨"Refunds", [[.text "TYPE"], [.text "#INGESTION"], [.text "#CONFIG"],
      [.text "source_filename", .text "{{ ds }}-Refunds.json.gz"],
      [.text "source_format", .text "json"], [.text "partitions_style", .text "non-hive"],
      [.text "partitions", .text "Year, source"],
      [.text "#SELECT"], [.text "new_name", .text "data_type"],
      [.text "Refund_Id", .text "bigint"]]⟩]

theorem consistent_ordersAndRefunds : ∃ m, build ordersAndRefunds " Sales" {} = .ok m ∧
    m.names = ["sales_orders", "sales_refunds"] ∧ m.Consistent (normalFlow " Sales") := by
  have hok : (build ordersAndRefunds " Sales" {}).toOption.map names =
      some ["sales_orders", "sales_refunds"] := by decide +kernel
  obtain ⟨m, hm, hn⟩ := exists_of_toOption_map hok
  exact ⟨m, hm, hn, consistent_of_build hm⟩

end Mapping

end Intake
