import Intake.Proofs.Outcome
import Intake.Proofs.Path
import Intake.Proofs.Yaml.Keys

/-!
# What a configuration is read from

`Config.keys_in_any_case` says that the case of letters in keys does not count, as deep as mappings
reach, that of keys that differ in nothing else the last one does, with its whole value, and that
the letters of values are left as they are written. It is put together from three parts.

* With keys in lower case, values whose keys are spelled differently are the same, and values of
  which one lacks overridden entries differ in the order of entries, which no reader depends on
  (`bind_ofFields?_eq_of_rearranged`).
* A field of the value in lower case is what the last key with its name is written with
  (`Value.exists_at?`). `Value.at?` finds it in the value itself, so that each part of a
  configuration is read from a text that no key has an influence on (`Config.isWrittenIn`).
* Partition keys are cut out of texts (`exists_isInfix_of_partitionList?`).
-/

namespace Intake

open Yaml (Value requiredSetting? settingOr? requiredSetting?_perm settingOr?_perm
  requiredSetting?_value settingOr?_value exists_of_requiredSetting? settingOr?_cases)

namespace Yaml.Value

/-! ## Reading rearranged values -/

variable {v w : Value}

/-- What cannot be read from a mapping is the same of a rearranged value. -/
theorem Rearranged.read_eq {α : Type} {read : Value → Option α}
    (hread : ∀ entries, read (mapping entries) = none) (h : Rearranged v w) : read w = read v := by
  induction h with
  | refl v => rfl
  | trans _ _ ih ih' => rw [ih', ih]
  | order _ => rw [hread, hread]
  | value _ _ => rw [hread, hread]

theorem Rearranged.eq_null_iff (h : Rearranged v w) : w = .null ↔ v = .null := by
  induction h with
  | refl v => rfl
  | trans _ _ ih ih' => rw [ih', ih]
  | order _ => exact iff_of_false nofun nofun
  | value _ _ => exact iff_of_false nofun nofun

/-- What is read from the fields of a value is the same of a rearranged one, when it depends neither
on the order of fields nor on how their values are arranged. -/
theorem Rearranged.bind_fields?_eq {α : Type} {read : List (String × Value) → Option α}
    (hperm : ∀ {fields fields'}, fields.Perm fields' → read fields' = read fields)
    (hvalue : ∀ {before after name v w}, Rearranged v w →
      read (before ++ (name, w) :: after) = read (before ++ (name, v) :: after))
    (h : Rearranged v w) : w.fields?.bind read = v.fields?.bind read := by
  induction h with
  | refl v => rfl
  | trans _ _ ih ih' => rw [ih', ih]
  | @order es fs h =>
    have hall : es.all (fun e => e.1.text?.isSome) = fs.all fun e => e.1.text?.isSome := by
      rw [Bool.eq_iff_iff, List.all_eq_true, List.all_eq_true]
      simp only [h.mem_iff]
    rw [fields?_mapping, fields?_mapping, hall]
    split
    · exact hperm (h.filterMap _)
    · rfl
  | @value before after k v w hv _ =>
    have hall : ∀ u : Value, (before ++ (k, u) :: after).all (fun e => e.1.text?.isSome) =
        (before.all (fun e => e.1.text?.isSome) && (k.text?.isSome &&
          after.all fun e => e.1.text?.isSome)) := by simp
    rw [fields?_mapping, fields?_mapping, hall, hall]
    split
    · simp only [namedEntries, List.filterMap_append, List.filterMap_cons, Option.bind_some]
      cases k.text? with
      | none => rfl
      | some name => exact hvalue hv
    · rfl

end Yaml.Value

open Yaml.Value (Rearranged Respelled Overridden)

theorem text?_mapping (entries : List (Value × Value)) : (Value.mapping entries).text? = none := rfl

theorem partitionList?_mapping (entries : List (Value × Value)) :
    partitionList? (.mapping entries) = none := rfl

theorem partitionStyle_mapping (entries : List (Value × Value)) :
    PartitionStyle.ofYaml? (.mapping entries) = none := rfl

section Rearranged

variable {v w : Value}

theorem textPair?_eq_of_rearranged (first second : String) (h : Rearranged v w) :
    textPair? first second w = textPair? first second v := by
  refine h.bind_fields?_eq (fun {fields fields'} hperm => ?_)
    (fun {before after name v w} hv => ?_)
  · simp only [requiredSetting?_perm hperm]
  · simp only [requiredSetting?_value (hv.read_eq text?_mapping)]

/-- The order of the entries of mappings does not count for a configuration. -/
theorem bind_ofFields?_eq_of_rearranged (h : Rearranged v w) :
    w.fields?.bind Config.ofFields? = v.fields?.bind Config.ofFields? := by
  refine h.bind_fields?_eq (fun {fields fields'} hperm => ?_)
    (fun {before after name v w} hv => ?_)
  · simp only [Config.ofFields?, requiredSetting?_perm hperm, settingOr?_perm hperm]
  · simp only [Config.ofFields?, requiredSetting?_value (textPair?_eq_of_rearranged _ _ hv),
      settingOr?_value (hv.read_eq partitionList?_mapping) hv.eq_null_iff,
      settingOr?_value (hv.read_eq partitionStyle_mapping) hv.eq_null_iff,
      settingOr?_value (hv.read_eq text?_mapping) hv.eq_null_iff]

end Rearranged

/-! ## Where a configuration is written -/

namespace Yaml.Value

/-- The value under a name in the fields of a record, the last one. -/
def lastField? (name : String) (fields : List (String × Value)) : Option Value :=
  (fields.filter fun f => f.1 == name).getLast?.map (·.2)

/-- The value that names lead to, where keys count as they are written. -/
def exactly? : List String → Value → Option Value
  | [], v => some v
  | name :: path, v => ((v.fields?.bind (lastField? name)).bind (exactly? path))

/-- The value of the last entry whose key is a name in some case of letters. -/
def lastNamed? (name : String) (entries : List (Value × Value)) : Option Value :=
  (entries.filter fun e => e.1.lowerKey.text? == some name).getLast?.map (·.2)

/-- The value that names in lower case lead to, where the case of letters in keys does not count and
the last of several entries does. Under a tag keys count as they are written. -/
def at? : List String → Value → Option Value
  | [], v => some v
  | name :: path, mapping entries => (lastNamed? name entries).bind (at? path)
  | name :: path, v => exactly? (name :: path) v

/-- A setting that is read in some way when there is one, and else has a default. -/
def settingAt? {α : Type} (read : Value → Option α) (default : α) (name : String) (v : Value) :
    Option α :=
  match v.at? [name] with
  | none => some default
  | some .null => some default
  | some w => read w

theorem settingAt?_of_ne_null {α : Type} {read : Value → Option α} {default : α} {name : String}
    {v w : Value} (h : v.at? [name] = some w) (hw : w ≠ .null) :
    v.settingAt? read default name = read w := by
  rw [settingAt?, h]
  cases w with
  | null => exact absurd rfl hw
  | _ => rfl

theorem lowerKeys_of_forall_ne {v : Value} (h : ∀ entries, v ≠ mapping entries) :
    v.lowerKeys = v := by
  cases v with
  | mapping entries => exact absurd rfl (h entries)
  | _ => rfl

theorem read_lowerKeys {α : Type} {read : Value → Option α}
    (hread : ∀ entries, read (mapping entries) = none) (v : Value) :
    read v.lowerKeys = read v := by
  cases v with
  | mapping entries => rw [lowerKeys_mapping, hread, hread]
  | _ => rfl

theorem lowerKeys_eq_null_iff {v : Value} : v.lowerKeys = .null ↔ v = .null := by
  cases v with
  | mapping entries => exact iff_of_false (by rw [lowerKeys_mapping]; nofun) nofun
  | _ => rfl

variable {entries : List (Value × Value)} {fields : List (String × Value)} {name : String}

theorem filter_fields_of_lowerKeys (h : (mapping entries).lowerKeys.fields? = some fields)
    (name : String) : fields.filter (fun f => f.1 == name) =
      (mergeEntries ((entries.filter fun e => e.1.lowerKey.text? == some name).map
        lowerEntry)).map fun e => (name, e.2) := by
  rw [lowerKeys_mapping, fields?_mapping] at h
  split at h
  · cases h
    have hkind : ∀ {k l : Value}, same k l = true →
        (k.text? == some name) = (l.text? == some name) :=
      fun hkl => by rw [text?_eq_of_same hkl]
    rw [filter_namedEntries, filter_mergeEntries hkind, List.filter_map]
    rfl
  · cases h

/-- A name without fields is a name without keys. -/
theorem lastNamed?_eq_none (h : (mapping entries).lowerKeys.fields? = some fields)
    (hnone : fields.filter (fun f => f.1 == name) = []) : lastNamed? name entries = none := by
  rw [filter_fields_of_lowerKeys h, List.map_eq_nil_iff, mergeEntries_eq_nil_iff,
    List.map_eq_nil_iff] at hnone
  rw [lastNamed?, hnone]
  rfl

/-- The only field with a name has the value of the last key with this name. -/
theorem exists_lastNamed? (h : (mapping entries).lowerKeys.fields? = some fields) {n : String}
    {x : Value} (hone : fields.filter (fun f => f.1 == name) = [(n, x)]) :
    ∃ w, lastNamed? name entries = some w ∧ x = w.lowerKeys := by
  rw [filter_fields_of_lowerKeys h, List.map_eq_singleton_iff] at hone
  obtain ⟨e, hmerged, he⟩ := hone
  cases he
  have hlast := getLast?_of_mergeEntries_eq hmerged
  rw [List.getLast?_map, Option.map_map, Option.map_eq_some_iff] at hlast
  obtain ⟨last, hlast, hvalue⟩ := hlast
  exact ⟨last.2, by rw [lastNamed?, hlast]; rfl, hvalue.symm⟩

section Names

variable {v : Value}

theorem at?_cons_of_forall_ne (h : ∀ entries, v ≠ mapping entries) (name : String)
    (path : List String) : v.at? (name :: path) = v.exactly? (name :: path) := by
  cases v with
  | mapping entries => exact absurd rfl (h entries)
  | _ => rfl

theorem at?_eq_none (h : v.lowerKeys.fields? = some fields)
    (hnone : fields.filter (fun f => f.1 == name) = []) : v.at? [name] = none := by
  by_cases hmapping : ∃ entries, v = mapping entries
  · obtain ⟨entries, rfl⟩ := hmapping
    rw [at?, lastNamed?_eq_none h hnone]
    rfl
  · have hne := not_exists.1 hmapping
    rw [lowerKeys_of_forall_ne hne] at h
    rw [at?_cons_of_forall_ne hne, exactly?, h, Option.bind_some, lastField?, hnone]
    rfl

theorem exactly?_cons {n : String} {x : Value} (h : v.fields? = some fields)
    (hone : fields.filter (fun f => f.1 == name) = [(n, x)]) (path : List String) :
    v.exactly? (name :: path) = x.exactly? path := by
  rw [exactly?, h, Option.bind_some, lastField?, hone]
  rfl

/-- The only field with a name is read from the value under the name, whose keys are in lower case
unless they stand under a tag. -/
theorem exists_at? {n : String} {x : Value} (h : v.lowerKeys.fields? = some fields)
    (hone : fields.filter (fun f => f.1 == name) = [(n, x)]) : ∃ w, v.at? [name] = some w ∧
      ((x = w.lowerKeys ∧ ∀ path, v.at? (name :: path) = w.at? path) ∨
        (x = w ∧ ∀ path, v.at? (name :: path) = w.exactly? path)) := by
  by_cases hmapping : ∃ entries, v = mapping entries
  · obtain ⟨entries, rfl⟩ := hmapping
    obtain ⟨w, hw, hx⟩ := exists_lastNamed? h hone
    have hpath : ∀ path, (mapping entries).at? (name :: path) = w.at? path := by
      intro path
      rw [at?, hw, Option.bind_some]
    exact ⟨w, (hpath []).trans rfl, .inl ⟨hx, hpath⟩⟩
  · have hne := not_exists.1 hmapping
    rw [lowerKeys_of_forall_ne hne] at h
    have hpath : ∀ path, v.at? (name :: path) = x.exactly? path := by
      intro path
      rw [at?_cons_of_forall_ne hne, exactly?_cons h hone]
    exact ⟨x, (hpath []).trans rfl, .inr ⟨rfl, hpath⟩⟩

end Names

end Yaml.Value

section Reading

variable {α : Type} {read : Value → Option α} {default a : α} {name : String} {v : Value}
  {fields : List (String × Value)}

theorem text?_at? {s : String} (h : v.lowerKeys.fields? = some fields)
    (hs : requiredSetting? Value.text? fields name = some s) :
    (v.at? [name]).bind Value.text? = some s := by
  obtain ⟨n, x, hone, hx⟩ := exists_of_requiredSetting? hs
  obtain ⟨w, hw, ⟨rfl, -⟩ | ⟨rfl, -⟩⟩ := Value.exists_at? h hone
  · rw [hw, Option.bind_some, ← hx, Value.read_lowerKeys text?_mapping]
  · rw [hw, Option.bind_some, hx]

theorem text?_exactly? {s : String} (h : v.fields? = some fields)
    (hs : requiredSetting? Value.text? fields name = some s) :
    (v.exactly? [name]).bind Value.text? = some s := by
  obtain ⟨n, x, hone, hx⟩ := exists_of_requiredSetting? hs
  rw [Value.exactly?_cons h hone]
  exact hx

/-- The texts of a section stand under its name and theirs. -/
theorem texts_at? {first second : String} {pair : String × String}
    (h : v.lowerKeys.fields? = some fields)
    (hpair : requiredSetting? (textPair? first second) fields name = some pair) :
    (v.at? [name, first]).bind Value.text? = some pair.1 ∧
      (v.at? [name, second]).bind Value.text? = some pair.2 := by
  obtain ⟨n, x, hone, hx⟩ := exists_of_requiredSetting? hpair
  simp only [textPair?, Option.bind_eq_bind, Option.bind_eq_some_iff, Option.pure_def,
    Option.some.injEq] at hx
  obtain ⟨inner, hinner, s, hs, t, ht, rfl⟩ := hx
  obtain ⟨w, -, ⟨rfl, hpath⟩ | ⟨rfl, hpath⟩⟩ := Value.exists_at? h hone
  · rw [hpath, hpath]
    exact ⟨text?_at? hinner hs, text?_at? hinner ht⟩
  · rw [hpath, hpath]
    exact ⟨text?_exactly? hinner hs, text?_exactly? hinner ht⟩

/-- A setting is read from the value under its name. -/
theorem settingAt?_eq (hread : ∀ entries, read (.mapping entries) = none)
    (h : v.lowerKeys.fields? = some fields)
    (ha : settingOr? read default fields name = some a) :
    v.settingAt? read default name = some a := by
  rcases settingOr?_cases ha with ⟨hnone, rfl⟩ | ⟨n, hone, rfl⟩ | ⟨n, x, hone, hx, hxa⟩
  · rw [Value.settingAt?, Value.at?_eq_none h hnone]
  · obtain ⟨w, hw, ⟨hnull, -⟩ | ⟨hnull, -⟩⟩ := Value.exists_at? h hone
    · rw [Value.settingAt?, hw, Value.lowerKeys_eq_null_iff.1 hnull.symm]
    · rw [Value.settingAt?, hw, ← hnull]
  · obtain ⟨w, hw, ⟨rfl, -⟩ | ⟨rfl, -⟩⟩ := Value.exists_at? h hone
    · rw [Value.settingAt?_of_ne_null hw (mt Value.lowerKeys_eq_null_iff.2 hx), ← hxa,
        Value.read_lowerKeys hread]
    · rw [Value.settingAt?_of_ne_null hw hx, hxa]

end Reading

/-! ## The texts of partition keys -/

/-- A part between separators is a part of the text. -/
theorem isInfix_of_mem_splitOn {sep : Char} {cs piece : List Char}
    (h : piece ∈ Text.splitOn sep cs) : piece <:+: cs := by
  have hjoined : ∀ pieces : List (List Char), piece ∈ pieces →
      piece <:+: [sep].intercalate pieces := by
    intro pieces hpiece
    induction pieces with
    | nil => cases hpiece
    | cons p rest ih =>
      rcases rest with _ | ⟨q, rest⟩
      · simp only [List.mem_singleton.1 hpiece, List.intercalate_singleton, List.infix_rfl]
      · rw [List.intercalate_cons_of_ne_nil (by simp)]
        rcases List.mem_cons.1 hpiece with rfl | hrest
        · rw [List.append_assoc]
          exact (List.prefix_append _ _).isInfix
        · exact (ih hrest).trans (List.suffix_append _ _).isInfix
  rw [Text.splitOn_eq] at h
  have hpiece := hjoined _ h
  rwa [List.intercalate_splitOn] at hpiece

theorem isInfix_of_trimmed? {s name : String} (h : Text.trimmed? s = some name) :
    name.toList <:+: s.toList := by
  unfold Text.trimmed? at h
  split at h
  · cases h
  · cases h
    obtain ⟨as, bs, hs, -, -⟩ := Text.exists_eq_append_stripEnds Text.isBlank s.toList
    rw [Text.toList_trim]
    exact ⟨as, bs, hs.symm⟩

/-- The texts that partition keys are written with: one text, or a list of them. -/
def Yaml.Value.texts : Value → List String
  | text s => [s]
  | list items => items.filterMap plainText?
  | _ => []

/-- Partition keys are parts of the texts they are written with. -/
theorem exists_isInfix_of_partitionList? {v : Value} {names : List String}
    (h : partitionList? v = some names) {name : String} (hname : name ∈ names) :
    ∃ s ∈ v.texts, name.toList <:+: s.toList := by
  cases v with
  | text s =>
    cases h
    obtain ⟨piece, hpiece, htrimmed⟩ := List.mem_filterMap.1 hname
    have hinfix := isInfix_of_trimmed? htrimmed
    rw [String.toList_ofList] at hinfix
    exact ⟨s, List.mem_singleton_self _, hinfix.trans (isInfix_of_mem_splitOn hpiece)⟩
  | list items =>
    obtain ⟨texts, htexts, rfl⟩ := Option.map_eq_some_iff.1 h
    obtain ⟨s, hs, htrimmed⟩ := List.mem_filterMap.1 hname
    obtain ⟨item, hitem, hread⟩ := exists_of_mapM_eq_some htexts hs
    exact ⟨s, List.mem_filterMap.2 ⟨item, hitem, hread⟩, isInfix_of_trimmed? htrimmed⟩
  | _ => cases h

/-! ## Configurations -/

namespace Config

/-- Each value of a configuration is the one that is written under its name, in whatever case the
letters of the name are, or its default where none is written. -/
structure IsWrittenIn (c : Config) (v : Value) : Prop where
  sourceSchema : (v.at? ["db", "source_schema"]).bind Value.text? = some c.sourceSchema
  targetSchema : (v.at? ["db", "target_schema"]).bind Value.text? = some c.targetSchema
  batchProfile : (v.at? ["dbt", "batch_profile"]).bind Value.text? = some c.batchProfile
  datalakeProfile : (v.at? ["dbt", "datalake_profile"]).bind Value.text? = some c.datalakeProfile
  batchLocation : (v.at? ["s3", "batch_location"]).bind Value.text? = some c.batchLocation
  datalakeLocation : (v.at? ["s3", "datalake_location"]).bind Value.text? = some c.datalakeLocation
  defaultPartitions : v.settingAt? partitionList? ["year", "month", "day"] "default_partitions" =
    some c.defaultPartitions
  /-- The letters of a partition key are as they are written. -/
  partitionKeys : ∀ w, v.at? ["default_partitions"] = some w → w ≠ .null →
    ∀ name ∈ c.defaultPartitions, ∃ s ∈ w.texts, name.toList <:+: s.toList
  defaultPartitionStyle : v.settingAt? PartitionStyle.ofYaml? .hive "partitions_style" =
    some c.defaultPartitionStyle
  defaultSourceFormat : v.settingAt? Value.text? "csv" "source_format" = some c.defaultSourceFormat
  defaultFieldDelimiter : v.settingAt? Value.text? "|" "field_delimiter" =
    some c.defaultFieldDelimiter
  ingestionPath : v.settingAt? Value.text? "ingestion" "ingestion_path" = some c.ingestionPath

theorem isWrittenIn {c : Config} {v : Value} (h : ofYaml? v = some c) : c.IsWrittenIn v := by
  obtain ⟨fields, hfields, h⟩ := Option.bind_eq_some_iff.1 h
  simp only [ofFields?, Option.bind_eq_bind, Option.bind_eq_some_iff, Option.pure_def,
    Option.some.injEq] at h
  obtain ⟨db, hdb, dbt, hdbt, s3, hs3, partitions, hpartitions, style, hstyle, format, hformat,
    delimiter, hdelimiter, path, hpath, rfl⟩ := h
  have hsetting := settingAt?_eq partitionList?_mapping hfields hpartitions
  exact {
    sourceSchema := (texts_at? hfields hdb).1
    targetSchema := (texts_at? hfields hdb).2
    batchProfile := (texts_at? hfields hdbt).1
    datalakeProfile := (texts_at? hfields hdbt).2
    batchLocation := (texts_at? hfields hs3).1
    datalakeLocation := (texts_at? hfields hs3).2
    defaultPartitions := hsetting
    partitionKeys := by
      intro w hw hnull name hname
      rw [Value.settingAt?_of_ne_null hw hnull] at hsetting
      exact exists_isInfix_of_partitionList? hsetting hname
    defaultPartitionStyle := settingAt?_eq partitionStyle_mapping hfields hstyle
    defaultSourceFormat := settingAt?_eq text?_mapping hfields hformat
    defaultFieldDelimiter := settingAt?_eq text?_mapping hfields hdelimiter
    ingestionPath := settingAt?_eq text?_mapping hfields hpath }

/-- A configuration whose first section and first text have names in some spelling. -/
def spelledText (db schema : String) : String :=
  db ++ ":\n  " ++ schema ++ ": Raw\n  target_schema: Lake\ndbt:\n  batch_profile: Batch\n" ++
    "  datalake_profile: Lake\ns3:\n  batch_location: s3://Batch\n" ++
    "  datalake_location: s3://Lake\nDefault_Partitions: [Year, ' Month ']\n"

/-- The entries of the value that this configuration denotes. -/
def spelledEntries (db schema : String) : List (Value × Value) := [
  (.text db, .mapping [(.text schema, .text "Raw"), (.text "target_schema", .text "Lake")]),
  (.text "dbt", .mapping [(.text "batch_profile", .text "Batch"),
    (.text "datalake_profile", .text "Lake")]),
  (.text "s3", .mapping [(.text "batch_location", .text "s3://Batch"),
    (.text "datalake_location", .text "s3://Lake")]),
  (.text "Default_Partitions", .list [.text "Year", .text " Month "])]

/-- The configuration that they are read as. -/
def spelledConfig : Config where
  sourceSchema := "Raw"
  targetSchema := "Lake"
  batchProfile := "Batch"
  datalakeProfile := "Lake"
  batchLocation := "s3://Batch"
  datalakeLocation := "s3://Lake"
  defaultPartitions := ["Year", "Month"]

end Config

end Intake
