import Intake.Proofs.Json.Fields
import Intake.Table.Json

/-!
# Tables read back

A table that a document can hold (`Table.Storable`) is read back from the object that is written
for it (`Table.ofTerm?_toJson`), and every table that is read is one (`Table.storable_of_ofTerm?`).
Extra settings stand beside the fields: one that bore the name of a field would be taken for it,
and one that is too deep is not read at all.
-/

namespace Intake

open Json

/-! ## Columns -/

namespace Column

theorem ofMembers?_eq_some {members : List (String × Term)} {c : Column}
    (h : Carries members c.fields) : ofMembers? members = some c := by
  simp only [Carries, fields, List.forall_mem_cons] at h
  obtain ⟨source, formula, target, description, type, format, key, index, nullable, partition, -⟩ :=
    h
  simp only [ofMembers?, requiredText?_of_field? source, optionalText?_of_field? formula,
    requiredText?_of_field? target, textOrEmpty?_of_field? description,
    requiredText?_of_field? type, optionalText?_of_field? format, flag?_of_field? key,
    flag?_of_field? index, flag?_of_field? nullable, flag?_of_field? partition]
  rfl

/-- A column is read back from its object. -/
theorem ofTerm?_toJson (c : Column) : ofTerm? (Term.ofValue c.toJson) = some c := by
  have hnames : (c.fields.map (·.1)).Nodup := by
    rw [show c.fields.map (·.1) = fieldNames from rfl]
    decide
  have hcarries : Carries (Term.ofFields (presentMembers c.fields)) c.fields := by
    have h : Carries (Term.ofFields (presentMembers c.fields ++ [])) c.fields :=
      carries_presentMembers hnames (by simp)
    rwa [List.append_nil] at h
  have hmembers := members?_object (presentMembers c.fields)
  rw [Term.ofValue] at hmembers
  rw [toJson, Term.ofValue, ofTerm?, hmembers, Option.bind_some, ofMembers?_eq_some hcarries]
  exact fun _ h => nomatch h

theorem numbers_toJson (c : Column) : c.toJson.numbers = [] :=
  membersNumbers_presentMembers (by simp [fields, Value.numbers])

theorem listOfTerm?_array (columns : List Column) :
    listOfTerm? (Term.ofValue (.array (columns.map toJson))) = some columns := by
  rw [Term.ofValue, Term.ofValues_eq_map, listOfTerm?, List.map_map]
  exact mapM_map_eq_some fun c _ => ofTerm?_toJson c

end Column

namespace Table

/-- The extra settings do not bear the name of a field and are not too deep for a document. -/
structure Storable (t : Table) : Prop where
  notField : ∀ e ∈ t.extra.members, e.1 ∉ fieldNames
  depth : ∀ e ∈ t.extra.members, e.2.depth ≤ documentLevels - 2

variable {levels : Nat} {members : List (String × Term)} {t : Table}

theorem map_fst_fields (t : Table) : t.fields.map (·.1) = fieldNames := rfl

theorem ofMembers?_eq_some (h : Carries members t.fields)
    (he : settledMembers? levels (members.filter fun m => !fieldNames.contains m.1) =
      some ⟨t.extra.members, Value.membersSettled_iff.1 t.extra.settled.2⟩) :
    ofMembers? levels members = some t := by
  simp only [Carries, fields, List.forall_mem_cons] at h
  obtain ⟨flow, worksheet, batchProfile, datalakeProfile, batchLocation, datalakeLocation,
    sourceFilename, sourceFormat, sourceSchema, sourceTable, sourceLocation, fieldDelimiter,
    targetSchema, targetTable, targetLocation, condition, partitions, partitionStyle, description,
    tags, compression, usesSourceName, columns, -⟩ := h
  have hextra : Object.ofMembers t.extra.members
      (Value.membersSettled_iff.1 t.extra.settled.2) = t.extra := by
    simp only [Object.ofMembers, sortEntries_eq_self t.extra.settled.1]
  have hpartitions : requiredField? Term.texts? members "partitions" = some t.partitions := by
    rw [requiredField?_of_field? partitions, texts?_array]
  have hstyle : requiredField? PartitionStyle.ofTerm? members "partitions_style" =
      some t.partitionStyle := by
    rw [requiredField?_of_field? partitionStyle]
    exact PartitionStyle.ofName?_name t.partitionStyle
  have hcolumns : requiredField? Column.listOfTerm? members "columns" = some t.columns := by
    rw [requiredField?_of_field? columns, Column.listOfTerm?_array]
  simp only [ofMembers?, he, requiredText?_of_field? flow, requiredText?_of_field? worksheet,
    requiredText?_of_field? batchProfile, requiredText?_of_field? datalakeProfile,
    requiredText?_of_field? batchLocation, requiredText?_of_field? datalakeLocation,
    optionalText?_of_field? sourceFilename, requiredText?_of_field? sourceFormat,
    requiredText?_of_field? sourceSchema, requiredText?_of_field? sourceTable,
    requiredText?_of_field? sourceLocation, requiredText?_of_field? fieldDelimiter,
    requiredText?_of_field? targetSchema, requiredText?_of_field? targetTable,
    requiredText?_of_field? targetLocation, optionalText?_of_field? condition, hpartitions, hstyle,
    optionalText?_of_field? description, optionalText?_of_field? tags,
    optionalText?_of_field? compression, flag?_of_field? usesSourceName, hcolumns,
    Option.bind_eq_bind, Option.bind_some, hextra]
  rfl

/-- The members beside the fields of a table are its extra settings. -/
theorem filter_ofFields_toJson (h : ∀ e ∈ t.extra.members, e.1 ∉ fieldNames) :
    (Term.ofFields (presentMembers t.fields ++ t.extra.members)).filter
      (fun m => !fieldNames.contains m.1) = Term.ofFields t.extra.members := by
  have hfields : t.fields.filter (fun f => !fieldNames.contains f.1) = [] := by
    rw [List.filter_eq_nil_iff]
    intro f hf
    have hname : f.1 ∈ fieldNames := map_fst_fields t ▸ List.mem_map_of_mem hf
    simp [hname]
  have hextra : t.extra.members.filter (fun e => !fieldNames.contains e.1) = t.extra.members := by
    rw [List.filter_eq_self]
    intro e he
    simp [h e he]
  rw [filter_ofFields fun name => !fieldNames.contains name, List.filter_append,
    filter_presentMembers fun name => !fieldNames.contains name, hfields, hextra]
  rfl

/-- All numbers in the object of a table are those of its extra settings. -/
theorem mem_numbers_toJson {n : Number} (h : n ∈ t.toJson.numbers) :
    ∃ e ∈ t.extra.members, n ∈ e.2.numbers := by
  have hpartitions : Value.itemsNumbers (t.partitions.map .string) = [] :=
    Value.itemsNumbers_eq_nil (by simp [Value.numbers])
  have hcolumns : Value.itemsNumbers (t.columns.map Column.toJson) = [] :=
    Value.itemsNumbers_eq_nil (by simp [Column.numbers_toJson])
  have hfields : Value.membersNumbers (presentMembers t.fields) = [] :=
    membersNumbers_presentMembers (by simp [fields, Value.numbers, hpartitions, hcolumns])
  rw [toJson, Value.numbers, Value.mem_membersNumbers] at h
  obtain ⟨e, he, hn⟩ := h
  rcases List.mem_append.1 he with he | he
  · have hmem := Value.mem_membersNumbers.2 ⟨e, he, hn⟩
    rw [hfields] at hmem
    simp at hmem
  · exact ⟨e, he, hn⟩

/-- A table that a document can hold is read back from its object. -/
theorem ofTerm?_toJson (h : t.Storable) :
    ofTerm? (documentLevels - 2) (Term.ofValue t.toJson) = some t := by
  have hnames : (t.fields.map (·.1)).Nodup := by
    rw [map_fst_fields]
    decide
  have hcarries := carries_presentMembers hnames (map_fst_fields t ▸ h.notField)
  have hsettled := Value.membersSettled_iff.1 t.extra.settled.2
  rw [ofTerm?, toJson, members?_object, Option.bind_some]
  refine ofMembers?_eq_some hcarries ?_
  rw [filter_ofFields_toJson h.notField]
  exact settledMembers?_ofFields hsettled h.depth

/-- Every table that is read is one that a document can hold. -/
theorem storable_of_ofTerm? {term : Term} (h : ofTerm? (documentLevels - 2) term = some t) :
    t.Storable := by
  obtain ⟨members, -, hread⟩ := Option.bind_eq_some_iff.1 h
  unfold ofMembers? at hread
  obtain ⟨extra, hextra, hread⟩ := Option.bind_eq_some_iff.1 hread
  -- Of the fields nothing has to be known: the table carries what was read beside them.
  iterate 23 obtain ⟨_, -, hread⟩ := Option.bind_eq_some_iff.1 hread
  cases hread
  have hmem := forall_mem_of_settledMembers? hextra
  constructor
  · refine Value.forall_mem_sortEntries fun e he => ?_
    obtain ⟨m, hm, hkey⟩ := List.mem_map.1 (hmem e he).1
    rw [← hkey]
    simpa using (List.mem_filter.1 hm).2
  · exact Value.forall_mem_sortEntries fun e he => (hmem e he).2

end Table

end Intake
