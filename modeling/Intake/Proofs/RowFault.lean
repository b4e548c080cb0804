import Intake.Proofs.Casing
import Intake.Proofs.Column
import Intake.Proofs.Declaration

/-!
# Rows that declare columns and rows at fault

Which rows of a worksheet become columns, and which row a fault is reported for. A row below the
headers of its section has an entry (`Worksheet.EntryAt`). The entry declares a column if it has a
source name (`ColumnEntry.HasSource`), and it is valid if its target name is one that a column may
have and its declared type is known (`ColumnEntry.Valid`). An entry that is not valid is at fault in
the first of four ways that applies (`ColumnEntry.Offends`).

Resolving a list of entries fails with the fault of the first entry that is not valid
(`Column.ofEntriesFrom_eq_error_iff`). Entries stand in the order of their rows, and so the columns
of a worksheet are those of its rows with a source name, numbered from one without gaps, or the
fault is that of the topmost such row that is not valid, and cites that row
(`Worksheet.ofEntries_of_declaration`).
-/

namespace Intake

/-! ## Declared types -/

/-- A text that a worksheet may declare as a type, in any case and with blanks around it. -/
def IsTypeName (declared : String) : Prop :=
  ∃ t : TypeName, Text.lower (Text.trim declared) = t.name

theorem TypeName.mem_all (t : TypeName) : t ∈ all := by
  cases t <;> decide

theorem TypeName.ofText?_isSome_iff {declared : String} :
    (ofText? declared).isSome ↔ IsTypeName declared := by
  rw [ofText?, List.find?_isSome]
  simp only [mem_all, true_and, beq_iff_eq]
  exact exists_congr fun t => eq_comm

theorem ColumnType.ofDeclared?_isSome_iff {declared : String} {length : Option String} :
    (ofDeclared? declared length).isSome ↔ IsTypeName declared := by
  rw [ofDeclared?, Option.isSome_map, TypeName.ofText?_isSome_iff]

/-- A name with forbidden characters has them in lower case, too. -/
theorem isColumnName_lower_iff {name : String} :
    IsColumnName (Text.lower name) ↔ IsColumnName name := by
  have hmem : ∀ {d : Char}, Text.IsMark d → (d ∉ (Text.lower name).toList ↔ d ∉ name.toList) :=
    fun hd => not_congr (Text.mem_lower_iff hd)
  constructor
  · rintro ⟨hne, hpoint, hspace, hhyphen⟩
    exact ⟨mt Text.lower_eq_empty_iff.2 hne, (hmem (by decide)).1 hpoint,
      (hmem (by decide)).1 hspace, (hmem (by decide)).1 hhyphen⟩
  · rintro ⟨hne, hpoint, hspace, hhyphen⟩
    exact ⟨mt Text.lower_eq_empty_iff.1 hne, (hmem (by decide)).2 hpoint,
      (hmem (by decide)).2 hspace, (hmem (by decide)).2 hhyphen⟩

/-! ## One entry -/

/-- A cell that sets a flag: a true one, the number one, or a text that says yes, in any case and
with blanks around it. -/
inductive Cell.SetsFlag : Cell → Prop
  | bool : SetsFlag (.bool true)
  | number {x : Binary64} (hone : x.toInt? = some 1) : SetsFlag (.number x)
  | text {s : String} (hyes : Text.lower (Text.trim s) ∈ ["yes", "y", "true", "t", "si", "1"]) :
    SetsFlag (.text s)

theorem Cell.isTrue_iff {c : Cell} : c.isTrue = true ↔ c.SetsFlag := by
  constructor
  · intro h
    cases c with
    | empty => cases h
    | text s =>
      rw [isTrue, List.contains_iff_mem] at h
      exact .text h
    | number x =>
      rw [isTrue, Binary64.isOne, beq_iff_eq] at h
      exact .number h
    | bool b =>
      obtain rfl : b = true := h
      exact .bool
  · intro h
    cases h with
    | bool => rfl
    | number hone => rw [isTrue, Binary64.isOne, hone, beq_self_eq_true]
    | text hyes =>
      rw [isTrue, List.contains_iff_mem]
      exact hyes

namespace ColumnEntry

theorem flag_iff {field : Option Cell} :
    flag field = true ↔ ∃ cell, field = some cell ∧ cell.SetsFlag := by
  simp [flag, Option.any_eq_true, Cell.isTrue_iff]

/-- The source name of an entry. The new name stands in for it only on worksheets without such a
column, not where its cell is blank. -/
inductive HasSource (e : ColumnEntry) (source : String) : Prop
  | own (hsource : text? e.sourceName = some source)
  | standIn (habsent : e.sourceName = none) (hnew : text? e.newName = some source)

/-- An entry with a target name that a column may have and with a type that may be declared. -/
structure Valid (e : ColumnEntry) : Prop where
  target : ∃ name, text? e.newName = some name ∧ IsColumnName name
  type : ∃ declared, text? e.dataType = some declared ∧ IsTypeName declared

/-- The first thing that is wrong with the entry of a row. -/
inductive Offends (e : ColumnEntry) (table : String) (row : Nat) : Rejection → Prop
  | targetMissing (hnew : text? e.newName = none) :
    Offends e table row (.targetColumnMissing table row)
  | targetInvalid {name : String} (hnew : text? e.newName = some name)
    (hname : ¬ IsColumnName name) :
    Offends e table row (.targetColumnInvalid table row (Text.lower name))
  | typeMissing {name : String} (hnew : text? e.newName = some name) (hname : IsColumnName name)
    (htype : text? e.dataType = none) : Offends e table row (.dataTypeMissing table row)
  | typeInvalid {name declared : String} (hnew : text? e.newName = some name)
    (hname : IsColumnName name) (htype : text? e.dataType = some declared)
    (hdeclared : ¬ IsTypeName declared) : Offends e table row (.dataTypeInvalid table row declared)

variable {e : ColumnEntry} {context : ColumnContext} {r : Rejection}

theorem sourceText?_eq_some_iff {source : String} :
    e.sourceText? = some source ↔ e.HasSource source := by
  unfold sourceText?
  constructor
  · intro h
    split at h
    · exact .own h
    · next habsent => exact .standIn habsent h
  · rintro (hsource | ⟨habsent, hnew⟩)
    · split
      · exact hsource
      · next habsent => simp [habsent, text?] at hsource
    · simpa [habsent] using hnew

theorem isBlank_eq_false_iff : e.isBlank = false ↔ ∃ source, e.HasSource source := by
  simp only [← sourceText?_eq_some_iff, ← Option.isSome_iff_exists, isBlank]
  cases e.sourceText? <;> simp

theorem hasForbidden_lower_eq_false_iff {name : String} (h : text? e.newName = some name) :
    hasForbidden (Text.lower name) = false ↔ IsColumnName name := by
  rw [← isColumnName_lower_iff, isColumnName_iff]
  exact (and_iff_right (mt Text.lower_eq_empty_iff.1 (text?_ne_empty h))).symm

theorem target_eq_error_iff : e.target context = .error r ↔
    (text? e.newName = none ∧ r = .targetColumnMissing context.table e.row) ∨
    ∃ name, text? e.newName = some name ∧ ¬ IsColumnName name ∧
      r = .targetColumnInvalid context.table e.row (Text.lower name) := by
  unfold target
  cases hnew : text? e.newName with
  | none => simp [eq_comm]
  | some name =>
    have hname := hasForbidden_lower_eq_false_iff hnew
    by_cases hforbidden : hasForbidden (Text.lower name) = true
    · have hnot : ¬ IsColumnName name := by rw [← hname, hforbidden]; simp
      simp [hforbidden, hnot, eq_comm]
    · have hvalid : IsColumnName name := hname.1 (by simpa using hforbidden)
      simp [hforbidden, hvalid]

theorem exists_target_eq_ok_iff : (∃ name, e.target context = .ok name) ↔
    ∃ name, text? e.newName = some name ∧ IsColumnName name := by
  simp only [target_eq_ok_iff]
  constructor
  · rintro ⟨-, name, hnew, rfl, hforbidden⟩
    exact ⟨name, hnew, (hasForbidden_lower_eq_false_iff hnew).1 hforbidden⟩
  · rintro ⟨name, hnew, hname⟩
    exact ⟨_, name, hnew, rfl, (hasForbidden_lower_eq_false_iff hnew).2 hname⟩

theorem type_eq_ok_iff {type : ColumnType} : e.type context = .ok type ↔ ∃ declared,
    text? e.dataType = some declared ∧
      ColumnType.ofDeclared? declared (text? e.length) = some type := by
  unfold ColumnEntry.type
  cases text? e.dataType with
  | none => simp
  | some declared =>
    cases hresolved : ColumnType.ofDeclared? declared (text? e.length) <;> simp [hresolved]

theorem type_eq_error_iff : e.type context = .error r ↔
    (text? e.dataType = none ∧ r = .dataTypeMissing context.table e.row) ∨
    ∃ declared, text? e.dataType = some declared ∧ ¬ IsTypeName declared ∧
      r = .dataTypeInvalid context.table e.row declared := by
  unfold ColumnEntry.type
  cases text? e.dataType with
  | none => simp [eq_comm]
  | some declared =>
    have hknown : (ColumnType.ofDeclared? declared (text? e.length)).isSome ↔ IsTypeName declared :=
      ColumnType.ofDeclared?_isSome_iff
    cases hresolved : ColumnType.ofDeclared? declared (text? e.length) with
    | none =>
      have hnot : ¬ IsTypeName declared := by simp [← hknown, hresolved]
      simp [hresolved, hnot, eq_comm]
    | some type =>
      have hname : IsTypeName declared := by simp [← hknown, hresolved]
      simp [hresolved, hname]

end ColumnEntry

namespace Column

variable {context : ColumnContext} {e : ColumnEntry} {entries : List ColumnEntry} {r : Rejection}

theorem ofEntry_eq_error_iff {position : Nat} :
    ofEntry e position context = .error r ↔ e.Offends context.table e.row r := by
  simp only [ofEntry, bind_eq_error_iff, ColumnEntry.target_eq_error_iff,
    ColumnEntry.type_eq_error_iff, pure_ne_error, and_false, exists_false, or_false,
    exists_and_right, ColumnEntry.exists_target_eq_ok_iff]
  constructor
  · rintro ((⟨hnew, rfl⟩ | ⟨name, hnew, hname, rfl⟩) | ⟨⟨name, hnew, hname⟩, htype⟩)
    · exact .targetMissing hnew
    · exact .targetInvalid hnew hname
    · rcases htype with ⟨htype, rfl⟩ | ⟨declared, htype, hdeclared, rfl⟩
      · exact .typeMissing hnew hname htype
      · exact .typeInvalid hnew hname htype hdeclared
  · rintro (hnew | ⟨hnew, hname⟩ | ⟨hnew, hname, htype⟩ | ⟨hnew, hname, htype, hdeclared⟩)
    · exact .inl (.inl ⟨hnew, rfl⟩)
    · exact .inl (.inr ⟨_, hnew, hname, rfl⟩)
    · exact .inr ⟨⟨_, hnew, hname⟩, .inl ⟨htype, rfl⟩⟩
    · exact .inr ⟨⟨_, hnew, hname⟩, .inr ⟨_, htype, hdeclared, rfl⟩⟩

theorem exists_ofEntry_eq_ok_iff {position : Nat} :
    (∃ c, ofEntry e position context = .ok c) ↔ e.Valid := by
  constructor
  · rintro ⟨c, hc⟩
    obtain ⟨target, type, htarget, htype, -⟩ := ofEntry_eq_ok_iff.1 hc
    obtain ⟨declared, hdeclared, hresolved⟩ := ColumnEntry.type_eq_ok_iff.1 htype
    exact ⟨ColumnEntry.exists_target_eq_ok_iff.1 ⟨target, htarget⟩, declared, hdeclared,
      ColumnType.ofDeclared?_isSome_iff.1 (Option.isSome_of_eq_some hresolved)⟩
  · rintro ⟨htarget, declared, hdeclared, hname⟩
    obtain ⟨target, htarget⟩ := ColumnEntry.exists_target_eq_ok_iff.2 htarget
    obtain ⟨type, hresolved⟩ :=
      Option.isSome_iff_exists.1 (ColumnType.ofDeclared?_isSome_iff.2 hname)
    exact ⟨_, ofEntry_eq_ok_iff.2 ⟨target, type, htarget,
      ColumnEntry.type_eq_ok_iff.2 ⟨declared, hdeclared, hresolved⟩, rfl⟩⟩

/-! ## A list of entries -/

/-- Resolving entries fails with the fault of the first of them that is not valid. -/
theorem ofEntriesFrom_eq_error_iff {position : Nat} :
    ofEntriesFrom context position entries = .error r ↔ ∃ before e after,
      entries = before ++ e :: after ∧ (∀ e' ∈ before, e'.Valid) ∧
        e.Offends context.table e.row r := by
  induction entries generalizing position with
  | nil => simp [ofEntriesFrom]
  | cons first rest ih =>
    simp only [ofEntriesFrom, bind_eq_error_iff, pure_ne_error, and_false, exists_false, or_false,
      ih, ofEntry_eq_error_iff]
    constructor
    · rintro (hfirst | ⟨c, hc, before, e, after, rfl, hbefore, he⟩)
      · exact ⟨[], first, rest, rfl, by simp, hfirst⟩
      · have hvalid := exists_ofEntry_eq_ok_iff.1 ⟨c, hc⟩
        exact ⟨first :: before, e, after, rfl, List.forall_mem_cons.2 ⟨hvalid, hbefore⟩, he⟩
    · rintro ⟨before, e, after, heq, hbefore, he⟩
      cases before with
      | nil =>
        obtain ⟨rfl, -⟩ := List.cons.inj heq
        exact .inl he
      | cons b before =>
        obtain ⟨rfl, rfl⟩ := List.cons.inj heq
        obtain ⟨hvalid, hbefore⟩ := List.forall_mem_cons.1 hbefore
        obtain ⟨c, hc⟩ := exists_ofEntry_eq_ok_iff.2 hvalid
        exact .inr ⟨c, hc, before, e, after, rfl, hbefore, he⟩

theorem exists_ofEntriesFrom_eq_ok_iff {position : Nat} :
    (∃ columns, ofEntriesFrom context position entries = .ok columns) ↔
      ∀ e ∈ entries, e.Valid := by
  induction entries generalizing position with
  | nil => simp [ofEntriesFrom]
  | cons first rest ih =>
    rw [List.forall_mem_cons, ← @ih (position + 1),
      ← @exists_ofEntry_eq_ok_iff context first position]
    simp only [ofEntriesFrom, bind_eq_ok_iff, pure_eq_ok_iff]
    constructor
    · rintro ⟨-, c, hc, columns, hcolumns, -⟩
      exact ⟨⟨c, hc⟩, columns, hcolumns⟩
    · rintro ⟨⟨c, hc⟩, columns, hcolumns⟩
      exact ⟨_, c, hc, columns, hcolumns, rfl⟩

theorem mem_filter_isBlank_iff {e : ColumnEntry} :
    e ∈ entries.filter (fun e => !e.isBlank) ↔ e ∈ entries ∧ ∃ source, e.HasSource source := by
  rw [List.mem_filter, Bool.not_eq_true', ColumnEntry.isBlank_eq_false_iff]

/-- Resolving entries succeeds when every one of them that has a source name is valid. -/
theorem exists_ofEntries_eq_ok_iff : (∃ columns, ofEntries entries context = .ok columns) ↔
    ∀ e ∈ entries, (∃ source, e.HasSource source) → e.Valid := by
  rw [ofEntries, exists_ofEntriesFrom_eq_ok_iff]
  simp only [mem_filter_isBlank_iff, and_imp]

/-- Among entries in the order of their rows, the first that is not valid is in the topmost such
row. -/
theorem ofEntries_eq_error_iff (hentries : entries.Pairwise (·.row < ·.row)) :
    ofEntries entries context = .error r ↔ ∃ e ∈ entries, (∃ source, e.HasSource source) ∧
      e.Offends context.table e.row r ∧ ∀ e' ∈ entries, (∃ source, e'.HasSource source) →
        e'.row < e.row → e'.Valid := by
  have hrows := hentries.sublist (List.filter_sublist (p := fun e => !e.isBlank))
  rw [ofEntries, ofEntriesFrom_eq_error_iff]
  constructor
  · rintro ⟨before, e, after, heq, hbefore, he⟩
    have hmem : e ∈ entries.filter fun e => !e.isBlank := by simp [heq]
    obtain ⟨he', hsource⟩ := mem_filter_isBlank_iff.1 hmem
    refine ⟨e, he', hsource, he, fun e' hmem' hsource' hlt => hbefore e' ?_⟩
    have hmem' := mem_filter_isBlank_iff.2 ⟨hmem', hsource'⟩
    rw [heq] at hmem' hrows
    rcases List.mem_append.1 hmem' with hbefore | hrest
    · exact hbefore
    · rcases List.mem_cons.1 hrest with rfl | hafter
      · exact absurd hlt (Nat.lt_irrefl _)
      · have hbelow := (List.pairwise_cons.1 (List.pairwise_append.1 hrows).2.1).1 e' hafter
        exact absurd hlt (Nat.not_lt_of_gt hbelow)
  · rintro ⟨e, hmem, hsource, he, habove⟩
    obtain ⟨before, after, heq⟩ := List.append_of_mem (mem_filter_isBlank_iff.2 ⟨hmem, hsource⟩)
    refine ⟨before, e, after, heq, fun e' hmem' => ?_, he⟩
    have hlisted : e' ∈ entries.filter fun e => !e.isBlank := by
      rw [heq]
      exact List.mem_append_left _ hmem'
    obtain ⟨hentry, hsource'⟩ := mem_filter_isBlank_iff.1 hlisted
    rw [heq] at hrows
    exact habove e' hentry hsource' ((List.pairwise_append.1 hrows).2.2 e' hmem' e (by simp))

/-- What a column has from the entry that declares it, at a position among the columns. -/
structure DeclaredBy (c : Column) (e : ColumnEntry) (position : Nat) (context : ColumnContext) :
    Prop where
  byPosition : context.isJson = false → c.sourceColumn = "col" ++ toString position
  byName : context.isJson = true → ∃ source, e.HasSource source ∧ c.sourceColumn = Text.lower source
  /-- The declared name is kept where the files have columns by position, and only on demand. -/
  formula : ∀ source, c.sourceFormula = some source ↔
    context.isJson = false ∧ context.keepsSourceName = true ∧ e.HasSource source
  target : ∃ name, ColumnEntry.text? e.newName = some name ∧ c.targetColumn = Text.lower name
  description : ColumnEntry.text? e.description = some c.description ∨
    ColumnEntry.text? e.description = none ∧ c.description = ""
  type : ∃ declared type, ColumnEntry.text? e.dataType = some declared ∧
    ColumnType.ofDeclared? declared (ColumnEntry.text? e.length) = some type ∧
      c.dataType = type.dataType ∧ c.format = type.format
  key : c.isKey = true ↔ ∃ cell, e.key = some cell ∧ cell.SetsFlag
  index : c.isIndex = true ↔ ∃ cell, e.index = some cell ∧ cell.SetsFlag
  nullable : c.isNullable = true ↔ ∃ cell, e.nullable = some cell ∧ cell.SetsFlag
  noPartition : c.isPartition = false

theorem declaredBy_of_ofEntry {position : Nat} {c : Column} (hsource : ∃ source, e.HasSource source)
    (h : ofEntry e position context = .ok c) : c.DeclaredBy e position context := by
  obtain ⟨target, type, htarget, htype, rfl⟩ := ofEntry_eq_ok_iff.1 h
  obtain ⟨source, hsource⟩ := hsource
  obtain ⟨name, hnew, rfl, -⟩ := ColumnEntry.target_eq_ok_iff.1 htarget
  obtain ⟨declared, hdeclared, hresolved⟩ := ColumnEntry.type_eq_ok_iff.1 htype
  have htext := ColumnEntry.sourceText?_eq_some_iff.2 hsource
  exact
    { byPosition hjson := by simp [resolved, sourceName, hjson]
      byName hjson := ⟨source, hsource, by simp [resolved, sourceName, hjson, htext]⟩
      formula other := by
        rw [← ColumnEntry.sourceText?_eq_some_iff, htext]
        simp [resolved, htext, and_assoc]
      target := ⟨name, hnew, rfl⟩
      description := by
        cases hdescription : ColumnEntry.text? e.description <;> simp [resolved, hdescription]
      type := ⟨declared, type, hdeclared, hresolved, rfl, rfl⟩
      key := ColumnEntry.flag_iff
      index := ColumnEntry.flag_iff
      nullable := ColumnEntry.flag_iff
      noPartition := rfl }

end Column

/-! ## The rows of a worksheet -/

namespace Worksheet

variable {sheet : Worksheet} {d : Declaration}

/-- Row `i` of a worksheet, counted from one, has an entry. -/
def EntryAt (sheet : Worksheet) (i : Nat) (e : ColumnEntry) : Prop :=
  ∃ header cells, sheet.DeclaresColumn i header cells ∧ IsEntry header cells i e

/-- A declaration that has been read is the one that the worksheet means. -/
theorem declares_of_declaration? (h : sheet.declaration? = .ok (some d)) : sheet.Declares d := by
  unfold declaration? at h
  split at h
  · simp at h
  · split at h
    · simp at h
    · obtain ⟨d', hread, heq⟩ := map_eq_ok_iff.1 h
      obtain rfl := Option.some.inj heq
      exact readBelow_start.readRows (Nat.le_refl 2) rfl hread

theorem Declares.mem_entries_iff_entryAt (h : sheet.Declares d) {e : ColumnEntry} {i : Nat} :
    e ∈ d.entries ∧ e.row = i ↔ sheet.EntryAt i e := by
  rw [h.mem_entries_iff]
  constructor
  · rintro ⟨⟨i', header, cells, hcolumn, hentry⟩, rfl⟩
    rw [hentry.row]
    exact ⟨header, cells, hcolumn, hentry⟩
  · rintro ⟨header, cells, hcolumn, hentry⟩
    exact ⟨⟨i, header, cells, hcolumn, hentry⟩, hentry.row⟩

/-- The columns are those of the rows with a source name. -/
theorem Declares.exists_rows (h : sheet.Declares d) {context : ColumnContext}
    {columns : List Column} (hcolumns : Column.ofEntries d.entries context = .ok columns) :
    ∃ rows : List (Nat × ColumnEntry), rows.Pairwise (·.1 < ·.1) ∧
      (∀ i e, (i, e) ∈ rows ↔ sheet.EntryAt i e ∧ ∃ source, e.HasSource source) ∧
      List.Forall₂ (fun x c => c.DeclaredBy x.1.2 x.2 context) (rows.zipIdx 1) columns := by
  refine ⟨(d.entries.filter fun e => !e.isBlank).map fun e => (e.row, e), ?_, fun i e => ?_, ?_⟩
  · exact List.pairwise_map.2 (h.entries_ordered.sublist List.filter_sublist)
  · rw [← h.mem_entries_iff_entryAt, List.mem_map]
    constructor
    · rintro ⟨e', hmem, heq⟩
      obtain ⟨rfl, rfl⟩ := Prod.mk.inj heq
      obtain ⟨hentry, hsource⟩ := Column.mem_filter_isBlank_iff.1 hmem
      exact ⟨⟨hentry, rfl⟩, hsource⟩
    · rintro ⟨⟨hentry, rfl⟩, hsource⟩
      exact ⟨e, Column.mem_filter_isBlank_iff.2 ⟨hentry, hsource⟩, rfl⟩
  · rw [Column.ofEntries_eq_ok_iff, List.forall₂_iff_zip] at hcolumns
    obtain ⟨hlength, hzip⟩ := hcolumns
    rw [List.zipIdx_map, List.forall₂_map_left_iff, List.forall₂_iff_zip]
    refine ⟨hlength, fun {x c} hmem => ?_⟩
    have hlisted := List.fst_mem_of_mem_zipIdx (List.of_mem_zip hmem).1
    exact Column.declaredBy_of_ofEntry (Column.mem_filter_isBlank_iff.1 hlisted).2 (hzip hmem)

/-- The columns of a worksheet that is read, row by row.

They are resolved exactly when each row with a source name is valid. Then the columns are those of
the rows with a source name, in order, numbered from one; other rows neither have a column nor
count. Otherwise the fault is what is first wrong with the topmost row that has a source name and is
not valid, and it cites the number of that row in the worksheet. -/
theorem ofEntries_of_declaration (hread : sheet.declaration? = .ok (some d))
    (context : ColumnContext) :
    ((∃ columns, Column.ofEntries d.entries context = .ok columns) ↔
      ∀ i e, sheet.EntryAt i e → (∃ source, e.HasSource source) → e.Valid) ∧
    (∀ columns, Column.ofEntries d.entries context = .ok columns →
      ∃ rows : List (Nat × ColumnEntry), rows.Pairwise (·.1 < ·.1) ∧
        (∀ i e, (i, e) ∈ rows ↔ sheet.EntryAt i e ∧ ∃ source, e.HasSource source) ∧
        List.Forall₂ (fun x c => c.DeclaredBy x.1.2 x.2 context) (rows.zipIdx 1) columns) ∧
    (∀ r, Column.ofEntries d.entries context = .error r ↔ ∃ i e, sheet.EntryAt i e ∧
      (∃ source, e.HasSource source) ∧ e.Offends context.table i r ∧
      ∀ i' e', sheet.EntryAt i' e' → (∃ source, e'.HasSource source) → i' < i → e'.Valid) := by
  have hdeclares := declares_of_declaration? hread
  refine ⟨?_, fun columns => hdeclares.exists_rows, fun r => ?_⟩
  · rw [Column.exists_ofEntries_eq_ok_iff]
    simp only [← hdeclares.mem_entries_iff_entryAt]
    exact ⟨fun h i e he => h e he.1, fun h e he => h e.row e ⟨he, rfl⟩⟩
  · rw [Column.ofEntries_eq_error_iff hdeclares.entries_ordered]
    simp only [← hdeclares.mem_entries_iff_entryAt]
    constructor
    · rintro ⟨e, he, hsource, hoffends, habove⟩
      refine ⟨e.row, e, ⟨he, rfl⟩, hsource, hoffends, ?_⟩
      rintro i e' ⟨he', rfl⟩ hsource' hlt
      exact habove e' he' hsource' hlt
    · rintro ⟨i, e, ⟨he, rfl⟩, hsource, hoffends, habove⟩
      exact ⟨e, he, hsource, hoffends, fun e' he' => habove e'.row e' ⟨he', rfl⟩⟩

/-- Columns under two rows of headers, the first of them without source names, and a row whose
source name is blank, whatever else it has. -/
def soundSections : Worksheet :=
  ⟨"Orders", [[.text "TYPE"], [.text "#INGESTION"], [.text "#SELECT"],
    [.text "new_name", .text "data_type"], [.text "id", .text "integer"], [],
    [.text "#SELECT"], [.text "source_name", .text "new_name", .text "data_type", .text "key"],
    [.text " ", .text "no name", .text "?"],
    [.text "QTY", .text "Qty", .text "Decimal", .text " Yes"]]⟩

/-- The columns that they declare, with their source names kept. -/
def soundColumns : List Column :=
  [{ (default : Column) with
      sourceColumn := "col1", sourceFormula := some "id", targetColumn := "id",
      dataType := "integer" },
    { (default : Column) with
      sourceColumn := "col2", sourceFormula := some "QTY", targetColumn := "qty",
      dataType := "decimal(18,2)", isKey := true }]

/-- The same sections with two rows at fault at the end. -/
def splitSections : Worksheet :=
  ⟨"Orders", soundSections.rows ++
    [[.text "NOTE", .text "Order Note"], [.text "AGE", .text "age", .text "years"]]⟩

theorem ofEntries_of_declaration_splitSections :
    (∃ d, splitSections.declaration? = .ok (some d) ∧
      Column.ofEntries d.entries ⟨"sales_orders", false, false⟩ =
        .error (.targetColumnInvalid "sales_orders" 11 "order note") ∧
      ∃ i e, splitSections.EntryAt i e ∧ (∃ source, e.HasSource source) ∧
        e.Offends "sales_orders" i (.targetColumnInvalid "sales_orders" 11 "order note") ∧
        ∀ i' e', splitSections.EntryAt i' e' → (∃ source, e'.HasSource source) → i' < i →
          e'.Valid) ∧
    ∃ d, soundSections.declaration? = .ok (some d) ∧
      Column.ofEntries d.entries ⟨"sales_orders", false, true⟩ = .ok soundColumns ∧
      ∃ rows : List (Nat × ColumnEntry), rows.Pairwise (·.1 < ·.1) ∧
        (∀ i e, (i, e) ∈ rows ↔ soundSections.EntryAt i e ∧ ∃ source, e.HasSource source) ∧
        List.Forall₂ (fun x c => c.DeclaredBy x.1.2 x.2 ⟨"sales_orders", false, true⟩)
          (rows.zipIdx 1) soundColumns := by
  constructor
  · have hok : splitSections.declaration?.toOption.map (fun d? => d?.map fun d =>
        Column.ofEntries d.entries ⟨"sales_orders", false, false⟩) =
        some (some (.error (.targetColumnInvalid "sales_orders" 11 "order note"))) := by
      decide +kernel
    obtain ⟨d?, hread, hresult⟩ := exists_of_toOption_map hok
    obtain ⟨d, rfl, hcolumns⟩ := Option.map_eq_some_iff.1 hresult
    exact ⟨d, hread, hcolumns, ((ofEntries_of_declaration hread _).2.2 _).1 hcolumns⟩
  · have hok : soundSections.declaration?.toOption.map (fun d? => d?.map fun d =>
        Column.ofEntries d.entries ⟨"sales_orders", false, true⟩) =
        some (some (.ok soundColumns)) := by
      decide +kernel
    obtain ⟨d?, hread, hresult⟩ := exists_of_toOption_map hok
    obtain ⟨d, rfl, hcolumns⟩ := Option.map_eq_some_iff.1 hresult
    exact ⟨d, hread, hcolumns, (ofEntries_of_declaration hread _).2.1 _ hcolumns⟩

end Worksheet

end Intake
