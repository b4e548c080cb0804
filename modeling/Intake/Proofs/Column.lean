import Mathlib.Data.List.Forall2
import Intake.Column
import Intake.Proofs.Naming
import Intake.Proofs.Outcome

/-!
# Columns that are resolved

What an entry has to hold to be resolved to a column (`Column.ofEntry_eq_ok_iff`), and that the
columns of a list of entries are those of its entries one by one, numbered from one
(`Column.ofEntries_eq_ok_iff`). The names of the columns, declared ones and partition keys alike,
are column names (`IsColumnName`): not empty, and without the characters that a target column may
not contain.
-/

namespace Intake

/-- A name that a column of a compiled table may have. -/
structure IsColumnName (name : String) : Prop where
  ne_empty : name ≠ ""
  no_point : '.' ∉ name.toList
  no_space : ' ' ∉ name.toList
  no_hyphen : '-' ∉ name.toList

theorem isColumnName_iff {name : String} :
    IsColumnName name ↔ name ≠ "" ∧ hasForbidden name = false := by
  have hplain : hasForbidden name = false ↔
      '.' ∉ name.toList ∧ ' ' ∉ name.toList ∧ '-' ∉ name.toList := by
    simp only [hasForbidden, isForbidden, List.any_eq_false, Bool.or_eq_true, beq_iff_eq, not_or]
    exact ⟨fun h => ⟨fun hc => (h _ hc).1.1 rfl, fun hc => (h _ hc).1.2 rfl,
      fun hc => (h _ hc).2 rfl⟩, fun ⟨h1, h2, h3⟩ c hc => ⟨⟨fun e => h1 (e ▸ hc),
      fun e => h2 (e ▸ hc)⟩, fun e => h3 (e ▸ hc)⟩⟩
  rw [hplain]
  exact ⟨fun ⟨h, h1, h2, h3⟩ => ⟨h, h1, h2, h3⟩, fun ⟨h, h1, h2, h3⟩ => ⟨h, h1, h2, h3⟩⟩

/-! ## Entries -/

namespace ColumnEntry

variable {e : ColumnEntry} {context : ColumnContext}

theorem text?_ne_empty {field : Option Cell} {s : String} (h : text? field = some s) :
    s ≠ "" := by
  obtain ⟨c, -, hc⟩ := Option.bind_eq_some_iff.1 h
  exact Cell.text?_ne_empty hc

theorem target_eq_ok_iff {name : String} : e.target context = .ok name ↔
    ∃ s, text? e.newName = some s ∧ name = Text.lower s ∧ hasForbidden name = false := by
  unfold target
  cases text? e.newName with
  | none => simp
  | some s =>
    by_cases hf : hasForbidden (Text.lower s) = true
    · simp only [hf, if_true, reduceCtorEq, Option.some.injEq, false_iff]
      rintro ⟨s', rfl, rfl, h⟩
      simp [hf] at h
    · simp only [hf, Option.some.injEq]
      constructor
      · rintro h
        cases h
        exact ⟨s, rfl, rfl, by simpa using hf⟩
      · rintro ⟨s', rfl, rfl, -⟩
        rfl

/-- The target name of a resolved entry is a column name. -/
theorem isColumnName_target {name : String} (h : e.target context = .ok name) :
    IsColumnName name := by
  obtain ⟨s, hs, rfl, hf⟩ := target_eq_ok_iff.1 h
  refine isColumnName_iff.2 ⟨fun he => ?_, hf⟩
  exact text?_ne_empty hs (Text.lower_eq_empty_iff.1 he)

end ColumnEntry

/-! ## Declared columns -/

namespace Column

variable {context : ColumnContext}

theorem ofEntry_eq_ok_iff {e : ColumnEntry} {position : Nat} {c : Column} :
    ofEntry e position context = .ok c ↔ ∃ target type, e.target context = .ok target ∧
      e.type context = .ok type ∧ resolved e position context target type = c := by
  simp only [ofEntry, bind_eq_ok_iff, pure_eq_ok_iff]
  exact ⟨fun ⟨target, ht, type, hy, h⟩ => ⟨target, type, ht, hy, h⟩,
    fun ⟨target, type, ht, hy, h⟩ => ⟨target, ht, type, hy, h⟩⟩

theorem ofEntriesFrom_eq_ok_iff {entries : List ColumnEntry} {position : Nat}
    {columns : List Column} : ofEntriesFrom context position entries = .ok columns ↔
      List.Forall₂ (fun e c => ofEntry e.1 e.2 context = .ok c)
        (entries.zipIdx position) columns := by
  induction entries generalizing position columns with
  | nil => simp [ofEntriesFrom, eq_comm]
  | cons e rest ih =>
    simp only [ofEntriesFrom, bind_eq_ok_iff, pure_eq_ok_iff, ih, List.zipIdx_cons,
      List.forall₂_cons_left_iff]
    exact ⟨fun ⟨c, hc, cs, hcs, h⟩ => ⟨c, cs, hc, hcs, h.symm⟩,
      fun ⟨c, cs, hc, hcs, h⟩ => ⟨c, hc, cs, hcs, h.symm⟩⟩

/-- The columns of a list of entries are the columns of those that are not blank, in order, the
first of them at position one. -/
theorem ofEntries_eq_ok_iff {entries : List ColumnEntry} {columns : List Column} :
    ofEntries entries context = .ok columns ↔
      List.Forall₂ (fun e c => ofEntry e.1 e.2 context = .ok c)
        ((entries.filter fun e => !e.isBlank).zipIdx 1) columns :=
  ofEntriesFrom_eq_ok_iff

/-- Each declared column is resolved from an entry of its own. -/
theorem exists_ofEntry_of_mem {entries : List ColumnEntry} {columns : List Column}
    (h : ofEntries entries context = .ok columns) {c : Column} (hc : c ∈ columns) :
    ∃ e position, ofEntry e position context = .ok c := by
  rw [ofEntries_eq_ok_iff, List.forall₂_iff_get] at h
  obtain ⟨hlen, hget⟩ := h
  obtain ⟨i, hi, rfl⟩ := List.mem_iff_getElem.1 hc
  exact ⟨_, _, hget i (hlen ▸ hi) hi⟩

theorem isPartition_of_mem {entries : List ColumnEntry} {columns : List Column}
    (h : ofEntries entries context = .ok columns) {c : Column} (hc : c ∈ columns) :
    c.isPartition = false := by
  obtain ⟨e, position, he⟩ := exists_ofEntry_of_mem h hc
  obtain ⟨target, type, -, -, rfl⟩ := ofEntry_eq_ok_iff.1 he
  rfl

theorem isColumnName_of_mem {entries : List ColumnEntry} {columns : List Column}
    (h : ofEntries entries context = .ok columns) {c : Column} (hc : c ∈ columns) :
    IsColumnName c.targetColumn := by
  obtain ⟨e, position, he⟩ := exists_ofEntry_of_mem h hc
  obtain ⟨target, type, ht, -, rfl⟩ := ofEntry_eq_ok_iff.1 he
  exact ColumnEntry.isColumnName_target ht

/-- Where the raw files do not name their columns, the declared ones are named by position. -/
theorem map_sourceColumn_of_not_isJson {entries : List ColumnEntry} {columns : List Column}
    (h : ofEntries entries context = .ok columns) (hjson : context.isJson = false) :
    columns.map (·.sourceColumn) =
      (List.range' 1 columns.length).map fun i => "col" ++ toString i := by
  rw [ofEntries_eq_ok_iff, List.forall₂_iff_get] at h
  obtain ⟨hlen, hget⟩ := h
  refine List.ext_getElem (by simp) fun i hi _ => ?_
  rw [List.length_map] at hi
  have hc := hget i (hlen ▸ hi) hi
  obtain ⟨target, type, -, -, hresolved⟩ := ofEntry_eq_ok_iff.1 hc
  simp only [List.get_eq_getElem] at hresolved
  simp [← hresolved, resolved, sourceName, hjson]

end Column

/-! ## Partition columns -/

theorem targetColumn_mem_of_mem_partitionColumns {keys : List String} {style : PartitionStyle}
    {c : Column} (h : c ∈ partitionColumns keys style) : c.targetColumn ∈ keys := by
  obtain ⟨i, hi, rfl⟩ := List.mem_mapIdx.1 h
  exact List.getElem_mem hi

theorem isPartition_of_mem_partitionColumns {keys : List String} {style : PartitionStyle}
    {c : Column} (h : c ∈ partitionColumns keys style) : c.isPartition = true := by
  obtain ⟨i, hi, rfl⟩ := List.mem_mapIdx.1 h
  rfl

theorem map_targetColumn_partitionColumns (keys : List String) (style : PartitionStyle) :
    (partitionColumns keys style).map (·.targetColumn) = keys := by
  rw [partitionColumns, List.mapIdx_eq_zipIdx_map, List.map_map]
  exact List.zipIdx_map_fst 0 keys

theorem map_sourceColumn_partitionColumns (keys : List String) (style : PartitionStyle) :
    (partitionColumns keys style).map (·.sourceColumn) = keys.mapIdx (partitionSource style) := by
  rw [partitionColumns, List.mapIdx_eq_zipIdx_map, List.mapIdx_eq_zipIdx_map, List.map_map]
  rfl

end Intake
