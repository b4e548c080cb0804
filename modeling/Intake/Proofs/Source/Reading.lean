import Mathlib.Data.List.Nodup
import Intake.Compilation
import Intake.Proofs.KeyMap
import Intake.Proofs.Outcome
import Intake.Proofs.Yaml.Keys
import Intake.Source.Reading

/-!
# Source documents read back

A source document is written as records in records, from which absent fields are left out, and read
by asking for one field after the other. `Holds` says that the fields of a value are those of
a list, as far as these are there; the fields of a record that is written from the list are
(`exists_holds`), and the readers of single fields then give back what was written. So every record
of a document is read back from its value, level by level (`SourceDocument.ofYaml?_toTree`).

`Table.sourceDocument_lossless` is the result for the text of a document. It supposes of YAML that
the value of this text is the one that was written. Texts in a document may then look like anything
else, and a field, a test or the condition of a test that is absent is so again.
-/

namespace Intake

open Yaml (Tree Value requiredSetting? settingOr? optionalSetting? requiredSetting?_present
  settingOr?_missing settingOr?_present)

/-! ## Values of trees -/

namespace Yaml

namespace Tree

theorem itemsToValues_eq_map (items : List Tree) : itemsToValues items = items.map toValue := by
  induction items with
  | nil => rfl
  | cons t rest ih => rw [itemsToValues, ih, List.map_cons]

/-- The fields of a record with the values that they denote. -/
def fieldValues (fields : List (String × Tree)) : List (String × Value) :=
  fields.map fun f => (f.1, f.2.toValue)

theorem fields?_toValue_record (fields : List (String × Tree)) :
    (record fields).toValue.fields? = some (fieldValues fields) := by
  have hentries : fieldsToEntries fields =
      fields.map fun f => ((.text f.1, f.2.toValue) : Value × Value) := by
    induction fields with
    | nil => rfl
    | cons f rest ih =>
      obtain ⟨name, t⟩ := f
      rw [fieldsToEntries, ih, List.map_cons]
  rw [toValue, hentries, Value.fields?_mapping, if_pos (by simp [Value.text?, Value.untagged]),
    Value.namedEntries, List.filterMap_map, fieldValues]
  exact congrArg (some <| · fields) List.filterMap_eq_map'

theorem toValue_ne_null (t : Tree) : t.toValue ≠ .null := by
  cases t <;> simp [toValue]

/-- Items that are read back one by one are read back from the value of their list. -/
theorem items?_toValue_list {α : Type} {write : α → Tree} {read : Value → Option α}
    {items : List α} (h : ∀ a ∈ items, read (write a).toValue = some a) :
    (list (items.map write)).toValue.items? read = some items := by
  rw [toValue, itemsToValues_eq_map, List.map_map]
  exact mapM_map_eq_some h

end Tree

/-! ## Fields of records -/

/-- The fields of a record that are there. -/
def presentFields (fields : List (String × Option Tree)) : List (String × Tree) :=
  fields.filterMap fun f => f.2.map fun t => (f.1, t)

/-- A list that is there unless it is empty. -/
def listTree? (items : List Tree) : Option Tree := if items = [] then none else some (.list items)

/-- The fields of a value are those of a list, as far as these are there, each of them once. -/
def Holds (values : List (String × Value)) (fields : List (String × Option Tree)) : Prop :=
  ∀ f ∈ fields, values.filter (fun v => v.1 == f.1) = (f.2.map fun t => (f.1, t.toValue)).toList

theorem filter_fieldValues (name : String) (fields : List (String × Option Tree)) :
    (Tree.fieldValues (presentFields fields)).filter (fun v => v.1 == name) =
      Tree.fieldValues (presentFields (fields.filter fun f => f.1 == name)) := by
  induction fields with
  | nil => rfl
  | cons f rest ih =>
    obtain ⟨n, o⟩ := f
    cases o <;> cases hname : n == name <;>
      simpa [presentFields, Tree.fieldValues, hname] using ih

/-- The value of a record that is written from a list of fields holds these fields. -/
theorem exists_holds {fields : List (String × Option Tree)} (h : (fields.map (·.1)).Nodup) :
    ∃ values, (Tree.record (presentFields fields)).toValue.fields? = some values ∧
      Holds values fields := by
  refine ⟨_, Tree.fields?_toValue_record _, fun f hf => ?_⟩
  rw [filter_fieldValues, filter_key_eq h hf]
  cases hfield : f.2 <;> simp [presentFields, Tree.fieldValues, hfield]

section Holds

variable {α : Type} {read : Value → Option α} {default : α} {values : List (String × Value)}
  {name : String} {fields : List (String × Option Tree)}

theorem requiredSetting?_of_holds {t : Tree} (h : values.filter (fun v => v.1 == name) =
    ((some t).map fun t => (name, t.toValue)).toList) :
    requiredSetting? read values name = read t.toValue :=
  requiredSetting?_present h

/-- A setting is read back, or its default where nothing is written. -/
theorem settingOr?_of_holds {o : Option Tree} (h : values.filter (fun v => v.1 == name) =
    (o.map fun t => (name, t.toValue)).toList) : settingOr? read default values name =
      o.elim (some default) fun t => read t.toValue := by
  cases o with
  | none => exact settingOr?_missing h
  | some t => exact settingOr?_present h t.toValue_ne_null

theorem optionalSetting?_of_holds {o : Option String}
    (h : values.filter (fun v => v.1 == name) =
      ((o.map Tree.text).map fun t => (name, t.toValue)).toList) :
    optionalSetting? values name = some o := by
  rw [optionalSetting?, settingOr?_of_holds h]
  cases o <;> rfl

/-- A list that may be left out is read back. -/
theorem listSetting?_of_holds {write : α → Tree} {items : List α}
    (hread : ∀ a ∈ items, read (write a).toValue = some a)
    (h : values.filter (fun v => v.1 == name) =
      ((listTree? (items.map write)).map fun t => (name, t.toValue)).toList) :
    settingOr? (Value.items? read) [] values name = some items := by
  rw [settingOr?_of_holds h]
  cases items with
  | nil => rfl
  | cons a rest => exact Tree.items?_toValue_list hread

end Holds

end Yaml

/-! ## Records of a source document -/

open Yaml (presentFields listTree? exists_holds requiredSetting?_of_holds
  settingOr?_of_holds optionalSetting?_of_holds listSetting?_of_holds)

theorem textItems?_toValue (texts : List String) :
    (Tree.list (texts.map .text)).toValue.items? Value.text? = some texts :=
  Tree.items?_toValue_list fun _ _ => rfl

theorem conditionOf?_toValue (condition : Option String) :
    conditionOf? (conditionTree condition).toValue = some condition := by
  have hnames : (([("where", condition.map Tree.text)] : List (String × Option Tree)).map
    (·.1)).Nodup := List.nodup_singleton _
  have htree : conditionTree condition =
      .record (presentFields [("where", condition.map .text)]) := by cases condition <;> rfl
  obtain ⟨values, hvalues, hholds⟩ := exists_holds hnames
  rw [htree, conditionOf?, hvalues]
  exact optionalSetting?_of_holds (hholds _ (List.mem_singleton_self _))

namespace ColumnTest

/-- The fields of a test, of which one is there. -/
def fields : ColumnTest → List (String × Option Tree)
  | unique condition => [("unique_where", some (conditionTree condition)), ("not_null", none)]
  | notNull condition => [("unique_where", none), ("not_null", some (conditionTree condition))]

/-- A test of a column is read back from its record. -/
theorem ofYaml?_toTree (t : ColumnTest) : ofYaml? t.toTree.toValue = some t := by
  have htree : t.toTree = .record (presentFields t.fields) := by cases t <;> rfl
  have hnames : (t.fields.map (·.1)).Nodup := by cases t <;> simp [fields]
  obtain ⟨values, hvalues, hholds⟩ := exists_holds hnames
  rw [htree, ofYaml?, hvalues]
  cases t with
  | unique condition =>
    simp only [Yaml.Holds, fields, List.forall_mem_cons] at hholds
    obtain ⟨hunique, hnull, -⟩ := hholds
    simp only [settingOr?_of_holds hunique, settingOr?_of_holds hnull, Option.elim_some,
      Option.elim_none, conditionOf?_toValue, Option.map_some, Option.bind_eq_bind,
      Option.bind_some]
  | notNull condition =>
    simp only [Yaml.Holds, fields, List.forall_mem_cons] at hholds
    obtain ⟨hunique, hnull, -⟩ := hholds
    simp only [settingOr?_of_holds hunique, settingOr?_of_holds hnull, Option.elim_some,
      Option.elim_none, conditionOf?_toValue, Option.map_some, Option.bind_eq_bind,
      Option.bind_some]

end ColumnTest

namespace CombinationTest

/-- The fields of a test. -/
def fields (t : CombinationTest) : List (String × Option Tree) :=
  [("combination_of_columns", some (.list (t.columns.map .text))),
    ("where", t.condition.map .text)]

theorem toTree_eq (t : CombinationTest) : t.toTree = .record (presentFields
    [("unique_columns_where", some (.record (presentFields t.fields)))]) := by
  obtain ⟨columns, condition⟩ := t
  cases condition <;> rfl

/-- A test of several columns is read back from its record. -/
theorem ofYaml?_toTree (t : CombinationTest) : ofYaml? t.toTree.toValue = some t := by
  have hname : (([("unique_columns_where", some (Tree.record (presentFields t.fields)))] :
    List (String × Option Tree)).map (·.1)).Nodup := List.nodup_singleton _
  have hnames : (t.fields.map (·.1)).Nodup := by simp [fields]
  obtain ⟨values, hvalues, hholds⟩ := exists_holds hname
  obtain ⟨inner, hinner, hfields⟩ := exists_holds hnames
  simp only [Yaml.Holds, fields, List.forall_mem_cons] at hfields
  obtain ⟨hcolumns, hcondition, -⟩ := hfields
  rw [toTree_eq, ofYaml?, hvalues, Option.bind_eq_bind, Option.bind_some,
    requiredSetting?_of_holds (hholds _ (List.mem_singleton_self _)), hinner, Option.bind_some,
    ofFields?, requiredSetting?_of_holds hcolumns, textItems?_toValue,
    optionalSetting?_of_holds hcondition]
  rfl

end CombinationTest

namespace SourceColumn

/-- The fields of a column. -/
def fields (c : SourceColumn) : List (String × Option Tree) :=
  [("name", some (.text c.name)), ("description", some (.text c.description)),
    ("data_type", some (.text c.dataType)), ("tests", listTree? (c.tests.map ColumnTest.toTree)),
    ("meta", c.partitionMark.map fun mark => .record [("partition", .text mark)])]

theorem toTree_eq (c : SourceColumn) : c.toTree = .record (presentFields c.fields) := by
  obtain ⟨name, description, type, tests, mark⟩ := c
  cases tests <;> cases mark <;> rfl

/-- A column is read back from its record. -/
theorem ofYaml?_toTree (c : SourceColumn) : ofYaml? c.toTree.toValue = some c := by
  have hnames : (c.fields.map (·.1)).Nodup := by simp [fields]
  obtain ⟨values, hvalues, hholds⟩ := exists_holds hnames
  simp only [Yaml.Holds, fields, List.forall_mem_cons] at hholds
  obtain ⟨hname, hdescription, htype, htests, hmark, -⟩ := hholds
  have hread : settingOr? markOf? none values "meta" = some c.partitionMark := by
    rw [settingOr?_of_holds hmark]
    cases c.partitionMark <;> rfl
  rw [toTree_eq, ofYaml?, hvalues, Option.bind_eq_bind, Option.bind_some,
    requiredSetting?_of_holds hname, requiredSetting?_of_holds hdescription,
    requiredSetting?_of_holds htype,
    listSetting?_of_holds (fun t _ => ColumnTest.ofYaml?_toTree t) htests, hread]
  rfl

end SourceColumn

namespace Storage

/-- The fields of a storage. -/
def fields (s : Storage) : List (String × Option Tree) :=
  [("flow", some (.text s.flow)), ("field_delimiter", s.fieldDelimiter.map .text),
    ("file_format", some (.text s.fileFormat)), ("location", some (.text s.location)),
    ("format", s.format.map .text),
    ("table_properties", some (.record (s.properties.entries.map fun e => (e.1, .text e.2))))]

theorem toTree_eq (s : Storage) : s.toTree = .record (presentFields s.fields) := by
  obtain ⟨flow, delimiter, file, location, format, properties⟩ := s
  cases delimiter <;> cases format <;> rfl

/-- The properties of files are read back from their record. -/
theorem propertiesOf?_toValue (properties : KeyMap String) :
    propertiesOf? (Tree.record (properties.entries.map fun e => (e.1, .text e.2))).toValue =
      some properties := by
  have hvalues : Tree.fieldValues (properties.entries.map fun e => (e.1, .text e.2)) =
      properties.entries.map fun e => (e.1, .text e.2) := by
    rw [Tree.fieldValues, List.map_map]
    rfl
  have hread : (properties.entries.map fun e => (e.1, Value.text e.2)).mapM
      (fun f => f.2.text?.map fun s => (f.1, s)) = some properties.entries :=
    mapM_map_eq_some fun _ _ => rfl
  have hsorted : KeyMap.ofList properties.entries = properties := by
    simp only [KeyMap.ofList, sortEntries_eq_self properties.increasing]
  rw [propertiesOf?, Tree.fields?_toValue_record, hvalues, Option.bind_eq_bind, Option.bind_some]
  exact (congrArg (·.bind fun entries => some (KeyMap.ofList entries)) hread).trans
    (congrArg some hsorted)

/-- A storage is read back from its record. -/
theorem ofYaml?_toTree (s : Storage) : ofYaml? s.toTree.toValue = some s := by
  have hnames : (s.fields.map (·.1)).Nodup := by simp [fields]
  obtain ⟨values, hvalues, hholds⟩ := exists_holds hnames
  simp only [Yaml.Holds, fields, List.forall_mem_cons] at hholds
  obtain ⟨hflow, hdelimiter, hfile, hlocation, hformat, hproperties, -⟩ := hholds
  rw [toTree_eq, ofYaml?, hvalues, Option.bind_eq_bind, Option.bind_some,
    requiredSetting?_of_holds hflow, optionalSetting?_of_holds hdelimiter,
    requiredSetting?_of_holds hfile, requiredSetting?_of_holds hlocation,
    optionalSetting?_of_holds hformat, requiredSetting?_of_holds hproperties,
    propertiesOf?_toValue]
  rfl

end Storage

namespace SourceTable

/-- The fields of a table. -/
def fields (t : SourceTable) : List (String × Option Tree) :=
  [("name", some (.text t.name)), ("description", some (.text t.description)),
    ("identifier", some (.text t.identifier)), ("meta", some t.storage.toTree),
    ("tests", listTree? (t.tests.map CombinationTest.toTree)),
    ("tags", t.tags.map fun tags => .list (tags.map .text)),
    ("columns", some (.list (t.columns.map SourceColumn.toTree)))]

theorem toTree_eq (t : SourceTable) : t.toTree = .record (presentFields t.fields) := by
  obtain ⟨name, description, identifier, storage, tests, tags, columns⟩ := t
  cases tests <;> cases tags <;> rfl

/-- A table is read back from its record. -/
theorem ofYaml?_toTree (t : SourceTable) : ofYaml? t.toTree.toValue = some t := by
  have hnames : (t.fields.map (·.1)).Nodup := by simp [fields]
  obtain ⟨values, hvalues, hholds⟩ := exists_holds hnames
  simp only [Yaml.Holds, fields, List.forall_mem_cons] at hholds
  obtain ⟨hname, hdescription, hidentifier, hstorage, htests, htags, hcolumns, -⟩ := hholds
  have hread : settingOr? (fun v => (v.items? Value.text?).map some) none values "tags" =
      some t.tags := by
    rw [settingOr?_of_holds htags]
    cases t.tags with
    | none => rfl
    | some tags => exact congrArg (Option.map some) (textItems?_toValue tags)
  rw [toTree_eq, ofYaml?, hvalues, Option.bind_eq_bind, Option.bind_some,
    requiredSetting?_of_holds hname, requiredSetting?_of_holds hdescription,
    requiredSetting?_of_holds hidentifier, requiredSetting?_of_holds hstorage,
    Storage.ofYaml?_toTree,
    listSetting?_of_holds (fun c _ => CombinationTest.ofYaml?_toTree c) htests, hread,
    requiredSetting?_of_holds hcolumns,
    Tree.items?_toValue_list fun c _ => SourceColumn.ofYaml?_toTree c]
  rfl

end SourceTable

namespace SourceProfile

/-- The fields of a profile. -/
def fields (p : SourceProfile) : List (String × Option Tree) :=
  [("name", some (.text p.name)), ("tables", some (.list (p.tables.map SourceTable.toTree)))]

/-- A profile is read back from its record. -/
theorem ofYaml?_toTree (p : SourceProfile) : ofYaml? p.toTree.toValue = some p := by
  have htree : p.toTree = .record (presentFields p.fields) := rfl
  have hnames : (p.fields.map (·.1)).Nodup := by simp [fields]
  obtain ⟨values, hvalues, hholds⟩ := exists_holds hnames
  simp only [Yaml.Holds, fields, List.forall_mem_cons] at hholds
  obtain ⟨hname, htables, -⟩ := hholds
  rw [htree, ofYaml?, hvalues, Option.bind_eq_bind, Option.bind_some,
    requiredSetting?_of_holds hname, requiredSetting?_of_holds htables,
    Tree.items?_toValue_list fun t _ => SourceTable.ofYaml?_toTree t]
  rfl

end SourceProfile

theorem versionOf?_toValue {version : Nat} (h : version < twoPow 32) :
    versionOf? (Tree.number version).toValue = some version := by
  have hrange : (0 : Int) ≤ version ∧ (version : Int) < twoPow 32 := by omega
  rw [Tree.toValue, versionOf?, if_pos hrange, Int.toNat_natCast]

namespace SourceDocument

/-- The fields of a source document. -/
def fields (d : SourceDocument) : List (String × Option Tree) :=
  [("version", some (.number d.version)),
    ("sources", some (.list (d.sources.map SourceProfile.toTree)))]

/-- A source document is read back from its value, whichever of its fields are absent. -/
theorem ofYaml?_toTree (d : SourceDocument) (h : d.version < twoPow 32) :
    ofYaml? d.toTree.toValue = some d := by
  have htree : d.toTree = .record (presentFields d.fields) := rfl
  have hnames : (d.fields.map (·.1)).Nodup := by simp [fields]
  obtain ⟨values, hvalues, hholds⟩ := exists_holds hnames
  simp only [Yaml.Holds, fields, List.forall_mem_cons] at hholds
  obtain ⟨hversion, hsources, -⟩ := hholds
  rw [htree, ofYaml?, hvalues, Option.bind_eq_bind, Option.bind_some,
    requiredSetting?_of_holds hversion, versionOf?_toValue h, requiredSetting?_of_holds hsources,
    Tree.items?_toValue_list fun p _ => SourceProfile.ofYaml?_toTree p]
  rfl

end SourceDocument

theorem SourceDocument.write_toTree (d : SourceDocument) :
    d.toTree.write = String.ofList (Tree.writeFields 0 []
      [("version", .number d.version), ("sources", .list (d.sources.map SourceProfile.toTree))]) :=
  rfl

namespace Table

/-- The source documents of a table are read back from the texts that are written for them. -/
theorem sourceDocument_lossless (t : Table) (kind : SourceKind)
    (hyaml : Value.ofText? (t.sourceDocument kind).toTree.write =
      some (t.sourceDocument kind).toTree.toValue) :
    ∃ text, String.fromUTF8? (t.sourceText kind) = some text ∧
      SourceDocument.ofText? text = some (t.sourceDocument kind) := by
  have hversion : (t.sourceDocument kind).version < twoPow 32 := by
    change SourceDocument.formatVersion < twoPow 32
    decide
  refine ⟨_, fromUTF8?_eq_some_iff.2 rfl, ?_⟩
  rw [SourceDocument.ofText?, hyaml, Option.bind_some]
  exact SourceDocument.ofYaml?_toTree _ hversion

/-- A table whose texts look like other values or are more than a line, and whose only test has no
condition. -/
def odd : Table :=
  { (default : Table) with
    datalakeProfile := "null"
    targetTable := "1"
    description := some "a: \"b\"\n\tc"
    columns := [{ (default : Column) with targetColumn := "~", dataType := "int" }] }

theorem sourceDocument_lossless_odd :
    ∃ text, String.fromUTF8? (odd.sourceText .datalake) = some text ∧
      SourceDocument.ofText? text = some (odd.sourceDocument .datalake) := by
  have hyaml : Value.ofText? (odd.sourceDocument .datalake).toTree.write =
      some (odd.sourceDocument .datalake).toTree.toValue := by
    -- Making a text of the characters and taking it apart again would take the most time.
    rw [SourceDocument.write_toTree, Value.ofText?, Yaml.tokens?, Yaml.readableChars?,
      String.toList_ofList]
    decide +kernel
  exact sourceDocument_lossless odd .datalake hyaml

end Table

end Intake
