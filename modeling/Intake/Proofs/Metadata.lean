import Intake.Mapping.Json
import Intake.Proofs.Assembly
import Intake.Proofs.Table

/-!
# The metadata document is lossless

Reading the document of a mapping gives the mapping exactly when all of its tables can be held by a
document (`Mapping.Storable`): no extra setting bears the name of a field, and none is too deep for
the reader. Mappings that are built from worksheets are of this kind, since the settings that fill
a field or bear the name of one are reserved (`Declaration.storable_table`), and so are mappings
that were read. Nothing is lost on any further way through a document (`Mapping.document_lossless`).

Integers read back whatever they are. A floating-point number does when the digits written for it
are read as itself, which is asked of those in the extra settings (`Mapping.FloatsReadBack`).
-/

namespace Intake

open Json

/-! ## Tables of declarations -/

namespace Declaration

variable {d : Declaration} {target flow : String} {config : Config}

/-- Every name of a field is reserved. -/
theorem fieldNames_subset_reservedSettings : Table.fieldNames ⊆ reservedSettings := by
  decide

theorem depth_toJson_eq_zero (c : Cell) : c.toJson.depth = 0 := by
  cases c with
  | number x =>
    simp only [Cell.toJson]
    split
    · rfl
    · split <;> rfl
  | _ => rfl

theorem exists_setting_of_mem_extra {e : String × Value} (he : e ∈ d.extra.members) :
    e.1 ∉ reservedSettings ∧ ∃ c : Cell, e.2 = c.toJson := by
  refine Value.forall_mem_sortEntries (P := fun e => e.1 ∉ reservedSettings ∧
    ∃ c : Cell, e.2 = c.toJson) (fun e he => ?_) e he
  obtain ⟨s, hs, rfl⟩ := List.mem_map.1 he
  exact ⟨by simpa using (List.mem_filter.1 hs).2, s.2, rfl⟩

/-- A document can hold the table of every declaration. -/
theorem storable_table {t : Table} (h : d.table target flow config = .ok t) : t.Storable := by
  obtain ⟨source, keys, style, columns, -, -, -, -, rfl⟩ := table_eq_ok_iff.1 h
  refine ⟨fun e he hname => ?_, fun e he => ?_⟩
  · exact (exists_setting_of_mem_extra he).1 (fieldNames_subset_reservedSettings hname)
  · obtain ⟨-, c, hc⟩ := exists_setting_of_mem_extra he
    rw [hc, depth_toJson_eq_zero]
    exact Nat.zero_le _

end Declaration

/-! ## Mappings -/

namespace Mapping

/-- A document can hold all tables of the mapping. -/
def Storable (m : Mapping) : Prop := ∀ t ∈ m.tables, t.Storable

/-- The floating-point numbers in the extra settings of all tables read back. -/
def FloatsReadBack (m : Mapping) : Prop :=
  ∀ t ∈ m.tables, ∀ e ∈ t.extra.members, e.2.FloatsReadBack

instance (m : Mapping) : Decidable m.FloatsReadBack :=
  inferInstanceAs (Decidable (∀ t ∈ m.tables, ∀ e ∈ t.extra.members, e.2.FloatsReadBack))

variable {m : Mapping}

theorem storable_of_build {sheets : List Worksheet} {flow : String} {config : Config}
    (h : build sheets flow config = .ok m) : m.Storable := by
  intro t ht
  obtain ⟨d, target, -, htable⟩ := exists_of_build h ht
  exact Declaration.storable_table htable

/-- Under whatever key a table is read, it is one that a document can hold. -/
theorem storable_of_tableOfMember? {member : String × Term} {t : Table}
    (h : tableOfMember? member = some t) : t.Storable := by
  obtain ⟨t', ht', rfl⟩ := Option.map_eq_some_iff.1 h
  have hs := Table.storable_of_ofTerm? ht'
  exact ⟨hs.notField, hs.depth⟩

theorem storable_of_ofText? {text : String} (h : ofText? text = some m) : m.Storable := by
  obtain ⟨term, -, hm⟩ := Option.bind_eq_some_iff.1 h
  obtain ⟨tables, htables, rfl⟩ := Option.map_eq_some_iff.1 hm
  obtain ⟨members, -, hread⟩ := Option.bind_eq_some_iff.1 htables
  intro t ht
  obtain ⟨member, -, hmember⟩ := exists_of_mapM_eq_some hread ht
  exact storable_of_tableOfMember? hmember

/-- All numbers in the document of a mapping read back. -/
theorem readsBack_of_mem_numbers (hf : m.FloatsReadBack) :
    ∀ n ∈ m.toJson.numbers, n.ReadsBack := by
  intro n hn
  rw [toJson, Value.numbers, Value.mem_membersNumbers] at hn
  obtain ⟨e, he, hn⟩ := hn
  obtain ⟨t, ht, rfl⟩ := List.mem_map.1 he
  obtain ⟨e, he, hn⟩ := Table.mem_numbers_toJson hn
  have hsettled := Value.membersSettled_iff.1 t.extra.settled.2 e he
  exact Value.readsBack_of_mem_numbers hsettled (hf t ht e he) n hn

theorem ofTerm?_toJson (h : m.Storable) : ofTerm? (Term.ofValue m.toJson) = some m := by
  have hread : (Term.ofFields (m.tables.map fun t => (t.targetTable, t.toJson))).mapM
      tableOfMember? = some m.tables := by
    rw [Term.ofFields, List.map_map]
    refine mapM_map_eq_some fun t ht => ?_
    simp only [tableOfMember?, Function.comp_apply, Table.ofTerm?_toJson (h t ht), Option.map_some]
  rw [ofTerm?, toJson, members?_object, Option.bind_some, hread]
  rfl

/-- The document of a mapping is read as the mapping. -/
theorem ofText?_document (h : m.Storable) (hf : m.FloatsReadBack) :
    ofText? m.document = some m := by
  rw [ofText?, document, Term.read?_pretty (readsBack_of_mem_numbers hf), Option.bind_some,
    ofTerm?_toJson h]

/-- A mapping is read back from its document exactly when a document can hold its tables, and all
mappings that are built or read are of this kind. -/
theorem document_lossless :
    (∀ m : Mapping, m.FloatsReadBack → (ofText? m.document = some m ↔ m.Storable)) ∧
    (∀ (sheets : List Worksheet) (flow : String) (config : Config) (m : Mapping),
      build sheets flow config = .ok m → m.Storable) ∧
    (∀ (text : String) (m : Mapping), ofText? text = some m → m.Storable) ∧
    (∀ (text : String) (m : Mapping), ofText? text = some m → m.FloatsReadBack →
      ofText? m.document = some m) := by
  refine ⟨fun m hf => ⟨storable_of_ofText?, fun h => ofText?_document h hf⟩,
    fun _ _ _ _ h => storable_of_build h, fun _ _ h => storable_of_ofText? h,
    fun _ _ h hf => ofText?_document (storable_of_ofText? h) hf⟩

/-- A worksheet with settings that fill no field, one of them a floating-point number. -/
def readings : List Worksheet :=
  [⟨"Readings", [[.text "TYPE"], [.text "#INGESTION"], [.text "#CONFIG"],
      [.text "target_table", .text "Readings"], [.text "source_table", .text "readings"],
      [.text "Threshold", .number (Binary64.ofDecimal false 182 (-1))],
      [.text "Columns", .text "ignored"], [.text "retries", .number (Binary64.ofNat 3)],
      [.text "#SELECT"], [.text "source_name", .text "new_name", .text "data_type"],
      [.text "T", .text "temperature", .text "double"]]⟩]

theorem document_lossless_readings : ∃ m, build readings "plant" {} = .ok m ∧
    (m.tables.map fun t => t.extra.members.map (·.1)) = [["retries", "threshold"]] ∧
    m.FloatsReadBack ∧ m.Storable ∧ ofText? m.document = some m := by
  have hok : (build readings "plant" {}).toOption.map (fun m =>
      (m.tables.map fun t => t.extra.members.map (·.1), decide m.FloatsReadBack)) =
      some ([["retries", "threshold"]], true) := by decide +kernel
  obtain ⟨m, hm, h⟩ := exists_of_toOption_map hok
  obtain ⟨hextra, hf⟩ := Prod.mk.inj h
  have hf := of_decide_eq_true hf
  have hread := (document_lossless.1 m hf).2 (document_lossless.2.1 readings "plant" {} m hm)
  exact ⟨m, hm, hextra, hf, document_lossless.2.2.1 m.document m hread,
    document_lossless.2.2.2 m.document m hread hf⟩

end Mapping

end Intake
