import Mathlib.Data.List.Sort
import Intake.Declaration.Directive
import Intake.Proofs.KeyMap

/-!
# What a worksheet declares

The meaning of a worksheet, stated without reading it in order. Rows are counted from one. A row
below the first two is either a directive or governed by the nearest directive above it
(`Worksheet.Governed`). A row that `#CONFIG` or `#WHERE` governs sets a key, unless its first cell
is blank (`Worksheet.Sets`), and of the rows that set a key the last one counts. Of the rows that a
`#SELECT` governs the first holds the headers, and every other one declares a column
(`Worksheet.DeclaresColumn`) whose fields are the cells under the known headers (`IsEntry`).
`Worksheet.Declares` collects this.

Reading a worksheet row by row keeps an invariant, `Worksheet.ReadBelow`: what has been read is the
meaning of the rows so far, and the mode says which directive governs the next one. Each row keeps
it (`ReadBelow.readRow`), hence so does a run over all rows (`ReadBelow.readRows`).
`Worksheet.declaration?_eq_iff` is the result: reading a worksheet fails exactly when its third row
is no directive, and gives otherwise the one declaration that the worksheet means.
-/

namespace Intake

/-! ## The cells of a row -/

/-- The text of the first cell of a row, unless that cell is blank. -/
def firstText? (cells : List Cell) : Option String := (cells.headD .empty).text?

/-- The value that the second cell of a setting stands for. -/
inductive IsSettingValue : Option Cell → Cell → Prop
  | missing : IsSettingValue none .empty
  | blanks {s : String} : Text.isBlankText s = true → IsSettingValue (some (.text s)) (.text s)
  | text {s : String} : Text.isBlankText s = false →
      IsSettingValue (some (.text s)) (.text (Text.trim s))
  | other {c : Cell} : (∀ s, c ≠ .text s) → IsSettingValue (some c) c

theorem isSettingValue_iff {cell : Option Cell} {value : Cell} :
    IsSettingValue cell value ↔ value = settingValue cell := by
  constructor
  · rintro (_ | h | h | h)
    · rfl
    · simp [settingValue, h]
    · simp [settingValue, h]
    · cases value with
      | text s => exact absurd rfl (h s)
      | _ => rfl
  · rintro rfl
    cases cell with
    | none => exact .missing
    | some c =>
      cases c with
      | text s =>
        cases h : Text.isBlankText s
        · simpa [settingValue, h] using IsSettingValue.text h
        · simpa [settingValue, h] using IsSettingValue.blanks h
      | _ => exact .other (by simp)

/-- A cell of a header row is a label, up to case and blanks around it. -/
def HasLabel (header : List Cell) (label : String) (column : Nat) : Prop :=
  ∃ c, header[column]? = some c ∧ c.text?.map Text.lower = some label

/-- What a row holds under a label: nothing without a column of that label, and otherwise the cell
in the last such column, which is empty where the row ends. -/
inductive IsField (header cells : List Cell) (label : String) : Option Cell → Prop
  | absent : (∀ k, ¬ HasLabel header label k) → IsField header cells label none
  | present {k : Nat} {c : Cell} : HasLabel header label k →
      (∀ k', HasLabel header label k' → k' ≤ k) → cells[k]? = some c →
      IsField header cells label (some c.trimmed)
  | beyond {k : Nat} : HasLabel header label k → (∀ k', HasLabel header label k' → k' ≤ k) →
      cells[k]? = none → IsField header cells label (some .empty)

/-- The fields of an entry under their labels. -/
def ColumnEntry.fields (e : ColumnEntry) : List (String × Option Cell) :=
  [("source_name", e.sourceName), ("new_name", e.newName), ("description", e.description),
    ("data_type", e.dataType), ("length", e.length), ("key", e.key), ("index", e.index),
    ("nullable", e.nullable)]

/-- An entry holds what a row, of a number, holds under the known labels. -/
structure IsEntry (header cells : List Cell) (row : Nat) (e : ColumnEntry) : Prop where
  row : e.row = row
  fields : ∀ f ∈ e.fields, IsField header cells f.1 f.2

namespace Header

variable {label : String} {h : Header}

theorem columnFrom?_eq_none_iff {start : Nat} :
    columnFrom? label start h = none ↔ ∀ l ∈ h, l ≠ some label := by
  induction h generalizing start with
  | nil => simp [columnFrom?]
  | cons l rest ih =>
    rw [columnFrom?, List.forall_mem_cons]
    cases hrest : columnFrom? label (start + 1) rest with
    | some i =>
      have hne := mt ih.2 (by simp [hrest] : ¬ columnFrom? label (start + 1) rest = none)
      exact iff_of_false (by simp) fun hall => hne hall.2
    | none =>
      by_cases hl : l = some label
      · simp [hl]
      · simpa [hl] using ih.1 hrest

theorem columnFrom?_eq_some {start column : Nat} (hc : columnFrom? label start h = some column) :
    ∃ k, column = start + k ∧ h[k]? = some (some label) ∧
      ∀ k', h[k']? = some (some label) → k' ≤ k := by
  induction h generalizing start column with
  | nil => simp [columnFrom?] at hc
  | cons l rest ih =>
    rw [columnFrom?] at hc
    cases hrest : columnFrom? label (start + 1) rest with
    | some i =>
      rw [hrest] at hc
      cases hc
      obtain ⟨k, rfl, hk, hlast⟩ := ih hrest
      refine ⟨k + 1, by omega, by simpa using hk, fun k' hk' => ?_⟩
      cases k' with
      | zero => omega
      | succ k' => exact Nat.succ_le_succ (hlast k' (by simpa using hk'))
    | none =>
      rw [hrest] at hc
      obtain ⟨hl, rfl⟩ : l = some label ∧ start = column := by simpa using hc
      refine ⟨0, rfl, by simp [hl], fun k' hk' => ?_⟩
      cases k' with
      | zero => rfl
      | succ k' =>
        have hmem : some label ∈ rest := List.mem_of_getElem? (by simpa using hk')
        exact absurd rfl (columnFrom?_eq_none_iff.1 hrest _ hmem)

theorem getElem?_ofRow_eq_iff {header : List Cell} {k : Nat} :
    (ofRow header)[k]? = some (some label) ↔ HasLabel header label k := by
  simp [ofRow, HasLabel]

theorem column?_eq_none_iff {header : List Cell} :
    (ofRow header).column? label = none ↔ ∀ k, ¬ HasLabel header label k := by
  rw [column?, columnFrom?_eq_none_iff]
  constructor
  · intro hall k hk
    exact hall _ (List.mem_of_getElem? (getElem?_ofRow_eq_iff.2 hk)) rfl
  · rintro hall l hl rfl
    obtain ⟨k, hk⟩ := List.mem_iff_getElem?.1 hl
    exact hall k (getElem?_ofRow_eq_iff.1 hk)

theorem column?_eq_some_iff {header : List Cell} {k : Nat} :
    (ofRow header).column? label = some k ↔
      HasLabel header label k ∧ ∀ k', HasLabel header label k' → k' ≤ k := by
  constructor
  · intro hk
    obtain ⟨k', rfl, hlabel, hlast⟩ := columnFrom?_eq_some hk
    rw [Nat.zero_add]
    exact ⟨getElem?_ofRow_eq_iff.1 hlabel, fun j hj => hlast j (getElem?_ofRow_eq_iff.2 hj)⟩
  · rintro ⟨hlabel, hlast⟩
    cases hc : (ofRow header).column? label with
    | none => exact absurd hlabel (column?_eq_none_iff.1 hc k)
    | some k' =>
      obtain ⟨j, rfl, hj, hjlast⟩ := columnFrom?_eq_some hc
      have h₁ := hlast _ (getElem?_ofRow_eq_iff.1 hj)
      have h₂ := hjlast _ (getElem?_ofRow_eq_iff.2 hlabel)
      exact congrArg some (by omega)

/-- The cell that is read under a label is the field of the row. -/
theorem isField_iff {header cells : List Cell} {field : Option Cell} :
    IsField header cells label field ↔ field = (ofRow header).cell? cells label := by
  unfold cell?
  constructor
  · rintro (habsent | ⟨hk, hlast, hc⟩ | ⟨hk, hlast, hc⟩)
    · rw [column?_eq_none_iff.2 habsent]
      rfl
    · rw [column?_eq_some_iff.2 ⟨hk, hlast⟩, Option.map_some, hc]
      rfl
    · rw [column?_eq_some_iff.2 ⟨hk, hlast⟩, Option.map_some, hc]
      rfl
  · rintro rfl
    cases hc : (ofRow header).column? label with
    | none => exact .absent (column?_eq_none_iff.1 hc)
    | some k =>
      obtain ⟨hk, hlast⟩ := column?_eq_some_iff.1 hc
      cases hcell : cells[k]? with
      | none => simpa [hcell] using IsField.beyond hk hlast hcell
      | some c => simpa [hcell] using IsField.present hk hlast hcell

theorem isEntry_iff {header cells : List Cell} {row : Nat} {e : ColumnEntry} :
    IsEntry header cells row e ↔ e = (ofRow header).entry row cells := by
  constructor
  · rintro ⟨hrow, hfields⟩
    cases e
    simp only [ColumnEntry.fields, List.forall_mem_cons, isField_iff] at hfields hrow
    simp [entry, hrow, hfields]
  · rintro rfl
    exact ⟨rfl, by simp [ColumnEntry.fields, entry, isField_iff]⟩

end Header

/-! ## Rows and the directives that govern them -/

namespace Worksheet

variable {sheet : Worksheet}

/-- The row with a number. -/
def row? (sheet : Worksheet) : Nat → Option (List Cell)
  | 0 => none
  | n + 1 => sheet.rows[n]?

/-- The directive that a row below the first two is. -/
def directive? (sheet : Worksheet) (n : Nat) : Option Directive :=
  if n < 3 then none else (sheet.row? n).bind Directive.ofRow?

/-- Row `j` is a directive, and the nearest one above row `i`. -/
structure NearestAbove (sheet : Worksheet) (d : Directive) (j i : Nat) : Prop where
  directive : sheet.directive? j = some d
  above : j < i
  nearest : ∀ k, j < k → k < i → sheet.directive? k = none

/-- Row `i` is no directive, and governed by the directive of row `j`. -/
structure Governed (sheet : Worksheet) (d : Directive) (j i : Nat) (cells : List Cell) : Prop where
  row : sheet.row? i = some cells
  plain : sheet.directive? i = none
  nearestAbove : sheet.NearestAbove d j i

/-- Row `i` sets a key to a value. -/
inductive Sets (sheet : Worksheet) (i : Nat) : String → Cell → Prop
  | setting {j : Nat} {cells : List Cell} {key : String} {value : Cell} :
      sheet.Governed .config j i cells → firstText? cells = some key →
      IsSettingValue cells[1]? value → Sets sheet i (Text.lower key) value
  | condition {j : Nat} {cells : List Cell} {condition : String} :
      sheet.Governed .filter j i cells → firstText? cells = some condition →
      Sets sheet i "where_condition" (.text condition)

/-- Row `i` declares a column, and its headers are in the first row below the same directive. -/
def DeclaresColumn (sheet : Worksheet) (i : Nat) (header cells : List Cell) : Prop :=
  ∃ j h, sheet.Governed .select j h header ∧ sheet.Governed .select j i cells ∧ h < i ∧
    ∀ k ks, sheet.Governed .select j k ks → h ≤ k

/-- The declaration that a worksheet means. -/
structure Declares (sheet : Worksheet) (d : Declaration) : Prop where
  worksheet : d.worksheet = sheet.title
  isSome_setting_iff : ∀ key, (d.setting? key).isSome ↔ ∃ i value, sheet.Sets i key value
  setting_iff : ∀ key value, d.setting? key = some value ↔
    ∃ i, sheet.Sets i key value ∧ ∀ i' value', sheet.Sets i' key value' → i' ≤ i
  entries_ordered : d.entries.Pairwise (·.row < ·.row)
  mem_entries_iff : ∀ e, e ∈ d.entries ↔
    ∃ i header cells, sheet.DeclaresColumn i header cells ∧ IsEntry header cells i e

/-- The third row is there and no directive. -/
def StartsUndirected (sheet : Worksheet) : Prop :=
  (sheet.row? 3).isSome ∧ sheet.directive? 3 = none

/-! ## What governs a row -/

theorem NearestAbove.unique {d d' : Directive} {j j' i : Nat} (h : sheet.NearestAbove d j i)
    (h' : sheet.NearestAbove d' j' i) : j = j' ∧ d = d' := by
  have hj : j = j' := by
    rcases Nat.lt_trichotomy j j' with hlt | heq | hlt
    · have hnone := h.nearest j' hlt h'.above
      rw [h'.directive] at hnone
      simp at hnone
    · exact heq
    · have hnone := h'.nearest j hlt h.above
      rw [h.directive] at hnone
      simp at hnone
  subst hj
  exact ⟨rfl, Option.some.inj (h.directive.symm.trans h'.directive)⟩

theorem NearestAbove.succ {d : Directive} {j i : Nat} (h : sheet.NearestAbove d j i)
    (hplain : sheet.directive? i = none) : sheet.NearestAbove d j (i + 1) where
  directive := h.directive
  above := Nat.lt_succ_of_lt h.above
  nearest k hjk hki := by
    rcases Nat.lt_succ_iff_lt_or_eq.1 hki with hki | rfl
    · exact h.nearest k hjk hki
    · exact hplain

theorem nearestAbove_succ_self {d : Directive} {i : Nat} (h : sheet.directive? i = some d) :
    sheet.NearestAbove d i (i + 1) :=
  ⟨h, Nat.lt_succ_self i, fun k hik hki => absurd hki (by omega)⟩

theorem Governed.unique {d d' : Directive} {j j' i : Nat} {cells cells' : List Cell}
    (h : sheet.Governed d j i cells) (h' : sheet.Governed d' j' i cells') :
    d = d' ∧ j = j' ∧ cells = cells' := by
  obtain ⟨hj, hd⟩ := h.nearestAbove.unique h'.nearestAbove
  exact ⟨hd, hj, Option.some.inj (h.row.symm.trans h'.row)⟩

/-- A row gives a key at most one value. -/
theorem Sets.unique {i : Nat} {key : String} {value value' : Cell} (h : sheet.Sets i key value)
    (h' : sheet.Sets i key value') : value = value' := by
  cases h with
  | setting hgov htext hvalue =>
    generalize hkey : Text.lower _ = key at h'
    cases h' with
    | setting hgov' htext' hvalue' =>
      obtain ⟨-, -, rfl⟩ := hgov.unique hgov'
      rw [isSettingValue_iff.1 hvalue, isSettingValue_iff.1 hvalue']
    | condition hgov' htext' => exact absurd (hgov.unique hgov').1 (by simp)
  | condition hgov htext =>
    generalize hkey : "where_condition" = key at h'
    cases h' with
    | setting hgov' htext' hvalue' => exact absurd (hgov.unique hgov').1 (by simp)
    | condition hgov' htext' =>
      obtain ⟨-, -, rfl⟩ := hgov.unique hgov'
      rw [Option.some.inj (htext.symm.trans htext')]

/-! ## What a single row says -/

section Row

variable {i j : Nat} {cells : List Cell} {key : String} {value : Cell}

theorem not_sets_of_directive (h : (sheet.directive? i).isSome) : ¬ sheet.Sets i key value := by
  rintro (⟨hgov, -, -⟩ | ⟨hgov, -⟩) <;> simp [hgov.plain] at h

theorem not_sets_of_select (h : sheet.NearestAbove .select j i) : ¬ sheet.Sets i key value := by
  rintro (⟨hgov, -, -⟩ | ⟨hgov, -⟩) <;> exact absurd (hgov.nearestAbove.unique h).2 (by simp)

theorem sets_iff_of_config (h : sheet.Governed .config j i cells) :
    sheet.Sets i key value ↔ ∃ t, firstText? cells = some t ∧ key = Text.lower t ∧
      value = settingValue cells[1]? := by
  constructor
  · rintro (⟨hgov, htext, hvalue⟩ | ⟨hgov, -⟩)
    · obtain ⟨-, -, rfl⟩ := hgov.unique h
      exact ⟨_, htext, rfl, isSettingValue_iff.1 hvalue⟩
    · exact absurd (hgov.unique h).1 (by simp)
  · rintro ⟨t, htext, rfl, rfl⟩
    exact .setting h htext (isSettingValue_iff.2 rfl)

theorem sets_iff_of_filter (h : sheet.Governed .filter j i cells) :
    sheet.Sets i key value ↔ ∃ t, firstText? cells = some t ∧ key = conditionKey ∧
      value = .text t := by
  constructor
  · rintro (⟨hgov, -, -⟩ | ⟨hgov, htext⟩)
    · exact absurd (hgov.unique h).1 (by simp)
    · obtain ⟨-, -, rfl⟩ := hgov.unique h
      exact ⟨_, htext, rfl, rfl⟩
  · rintro ⟨t, htext, rfl, rfl⟩
    exact .condition h htext

theorem not_declaresColumn_of_directive {header : List Cell} (h : (sheet.directive? i).isSome) :
    ¬ sheet.DeclaresColumn i header cells := by
  rintro ⟨j, k, -, hgov, -, -⟩
  simp [hgov.plain] at h

theorem not_declaresColumn_of_ne {d : Directive} {header : List Cell}
    (h : sheet.NearestAbove d j i) (hd : d ≠ .select) : ¬ sheet.DeclaresColumn i header cells := by
  rintro ⟨j', k, -, hgov, -, -⟩
  exact hd (hgov.nearestAbove.unique h).2.symm

theorem not_declaresColumn_of_header {header : List Cell}
    (h : sheet.NearestAbove .select j (j + 1)) : ¬ sheet.DeclaresColumn (j + 1) header cells := by
  rintro ⟨j', k, hheader, hgov, hk, -⟩
  obtain ⟨rfl, -⟩ := hgov.nearestAbove.unique h
  have := hheader.nearestAbove.above
  omega

/-- The headers of a section are in the row below its directive. -/
theorem declaresColumn_iff_of_select {headerCells header cells' : List Cell}
    (h : sheet.Governed .select j i cells) (hj : j + 1 < i)
    (hheader : sheet.row? (j + 1) = some headerCells) :
    sheet.DeclaresColumn i header cells' ↔ header = headerCells ∧ cells' = cells := by
  have hfirst : sheet.Governed .select j (j + 1) headerCells :=
    ⟨hheader, h.nearestAbove.nearest _ (Nat.lt_succ_self j) hj,
      nearestAbove_succ_self h.nearestAbove.directive⟩
  constructor
  · rintro ⟨j', k, hk, hgov, -, hleast⟩
    obtain ⟨-, rfl, rfl⟩ := hgov.unique h
    have hle := hleast _ _ hfirst
    have hlt := hk.nearestAbove.above
    obtain rfl : k = j' + 1 := by omega
    exact ⟨(hk.unique hfirst).2.2, rfl⟩
  · rintro ⟨rfl, rfl⟩
    exact ⟨j, j + 1, hfirst, h, hj, fun k ks hk => hk.nearestAbove.above⟩

end Row

/-! ## What the rows above a row say -/

/-- The settings that the rows above row `n` make. -/
structure SettingsBelow (sheet : Worksheet) (n : Nat) (settings : KeyMap Cell) : Prop where
  unset : ∀ key, settings.get? key = none → ∀ i < n, ∀ value, ¬ sheet.Sets i key value
  last : ∀ key value, settings.get? key = some value → ∃ i < n, sheet.Sets i key value ∧
    ∀ i' < n, ∀ value', sheet.Sets i' key value' → i' ≤ i

/-- The entries of the columns that the rows above row `n` declare. -/
structure EntriesBelow (sheet : Worksheet) (n : Nat) (entries : List ColumnEntry) : Prop where
  ordered : entries.Pairwise (·.row < ·.row)
  mem_iff : ∀ e, e ∈ entries ↔ ∃ i < n, ∃ header cells,
    sheet.DeclaresColumn i header cells ∧ IsEntry header cells i e

namespace SettingsBelow

variable {n : Nat} {settings : KeyMap Cell}

/-- A setting that is not made in the next row either. -/
theorem unset_succ {key : String} (h : sheet.SettingsBelow n settings)
    (hkey : settings.get? key = none) (hn : ∀ value, ¬ sheet.Sets n key value) :
    ∀ i < n + 1, ∀ value, ¬ sheet.Sets i key value :=
  Nat.forall_lt_succ_right.2 ⟨h.unset key hkey, hn⟩

/-- A setting that the next row leaves as it is. -/
theorem last_succ {key : String} {value : Cell} (h : sheet.SettingsBelow n settings)
    (hkey : settings.get? key = some value) (hn : ∀ value, ¬ sheet.Sets n key value) :
    ∃ i < n + 1, sheet.Sets i key value ∧
      ∀ i' < n + 1, ∀ value', sheet.Sets i' key value' → i' ≤ i := by
  obtain ⟨i, hi, hsets, hlast⟩ := h.last key value hkey
  exact ⟨i, Nat.lt_succ_of_lt hi, hsets,
    Nat.forall_lt_succ_right.2 ⟨hlast, fun value' hsets' => absurd hsets' (hn value')⟩⟩

theorem skip (h : sheet.SettingsBelow n settings)
    (hn : ∀ key value, ¬ sheet.Sets n key value) : sheet.SettingsBelow (n + 1) settings where
  unset key hkey := h.unset_succ hkey (hn key)
  last key _ hkey := h.last_succ hkey (hn key)

theorem insert {k : String} {v : Cell} (h : sheet.SettingsBelow n settings)
    (hn : ∀ key value, sheet.Sets n key value ↔ key = k ∧ value = v) :
    sheet.SettingsBelow (n + 1) (settings.insert k v) where
  unset key hkey := by
    rw [KeyMap.get?_insert] at hkey
    split at hkey
    · simp at hkey
    · next hne =>
      exact h.unset_succ hkey fun value hsets => hne ((hn key value).1 hsets).1.symm
  last key value hkey := by
    rw [KeyMap.get?_insert] at hkey
    split at hkey
    · next heq =>
      cases hkey
      exact ⟨n, Nat.lt_succ_self n, (hn key _).2 ⟨heq.symm, rfl⟩,
        fun i' hi' _ _ => Nat.le_of_lt_succ hi'⟩
    · next hne =>
      exact h.last_succ hkey fun value hsets => hne ((hn key value).1 hsets).1.symm

end SettingsBelow

namespace EntriesBelow

variable {n : Nat} {entries : List ColumnEntry}

theorem row_lt (h : sheet.EntriesBelow n entries) {e : ColumnEntry} (he : e ∈ entries) :
    e.row < n := by
  obtain ⟨i, hi, header, cells, -, hentry⟩ := (h.mem_iff e).1 he
  exact hentry.row ▸ hi

theorem skip (h : sheet.EntriesBelow n entries)
    (hn : ∀ header cells, ¬ sheet.DeclaresColumn n header cells) :
    sheet.EntriesBelow (n + 1) entries where
  ordered := h.ordered
  mem_iff e := by
    rw [h.mem_iff]
    constructor
    · rintro ⟨i, hi, hcolumn⟩
      exact ⟨i, Nat.lt_succ_of_lt hi, hcolumn⟩
    · rintro ⟨i, hi, header, cells, hcolumn, hentry⟩
      rcases Nat.lt_succ_iff_lt_or_eq.1 hi with hi | rfl
      · exact ⟨i, hi, header, cells, hcolumn, hentry⟩
      · exact absurd hcolumn (hn header cells)

theorem add {headerCells rowCells : List Cell} (h : sheet.EntriesBelow n entries)
    (hn : ∀ header cells, sheet.DeclaresColumn n header cells ↔
      header = headerCells ∧ cells = rowCells) :
    sheet.EntriesBelow (n + 1) (entries ++ [(Header.ofRow headerCells).entry n rowCells]) where
  ordered := by
    refine List.pairwise_append.2 ⟨h.ordered, List.pairwise_singleton _ _, fun e he e' he' => ?_⟩
    rw [List.mem_singleton.1 he']
    exact h.row_lt he
  mem_iff e := by
    rw [List.mem_append, h.mem_iff, List.mem_singleton, ← Header.isEntry_iff]
    constructor
    · rintro (⟨i, hi, hcolumn⟩ | hentry)
      · exact ⟨i, Nat.lt_succ_of_lt hi, hcolumn⟩
      · exact ⟨n, Nat.lt_succ_self n, headerCells, rowCells, (hn _ _).2 ⟨rfl, rfl⟩, hentry⟩
    · rintro ⟨i, hi, header, cells, hcolumn, hentry⟩
      rcases Nat.lt_succ_iff_lt_or_eq.1 hi with hi | rfl
      · exact .inl ⟨i, hi, header, cells, hcolumn, hentry⟩
      · obtain ⟨rfl, rfl⟩ := (hn header cells).1 hcolumn
        exact .inr hentry

end EntriesBelow

/-! ## Reading row by row -/

/-- What a mode says about the rows above row `n`. -/
def InMode (sheet : Worksheet) (n : Nat) : Mode → Prop
  | .start => True
  | .config => ∃ j, sheet.NearestAbove .config j n
  | .filter => ∃ j, sheet.NearestAbove .filter j n
  | .header => ∃ j, sheet.NearestAbove .select j n ∧ n = j + 1
  | .columns header => ∃ j cells, sheet.NearestAbove .select j n ∧ j + 1 < n ∧
      sheet.row? (j + 1) = some cells ∧ header = Header.ofRow cells

/-- The rows above row `n` have been read. -/
structure ReadBelow (sheet : Worksheet) (n : Nat) (mode : Mode) (d : Declaration) : Prop where
  mode : sheet.InMode n mode
  worksheet : d.worksheet = sheet.title
  settings : sheet.SettingsBelow n d.settings
  entries : sheet.EntriesBelow n d.entries

theorem directive?_eq {n : Nat} {cells : List Cell} (hn : 3 ≤ n)
    (hrow : sheet.row? n = some cells) : sheet.directive? n = Directive.ofRow? cells := by
  rw [directive?, if_neg (by omega), hrow]
  rfl

theorem row?_of_drop_eq_cons {n : Nat} {cells : List Cell} {rest : List (List Cell)}
    (h : sheet.rows.drop n = cells :: rest) :
    sheet.row? (n + 1) = some cells ∧ sheet.rows.drop (n + 1) = rest := by
  constructor
  · have hhead := congrArg List.head? h
    simpa [row?, List.head?_drop] using hhead
  · have htail := congrArg List.tail h
    simpa using htail

namespace ReadBelow

variable {n : Nat} {mode mode' : Mode} {d d' : Declaration} {cells : List Cell}

/-- A row that is a directive opens its section and says nothing else. -/
theorem directive {directive : Directive} (h : sheet.ReadBelow n mode d)
    (hdir : sheet.directive? n = some directive) :
    sheet.ReadBelow (n + 1) directive.mode d where
  mode := by
    have habove := nearestAbove_succ_self hdir
    cases directive with
    | config => exact ⟨n, habove⟩
    | filter => exact ⟨n, habove⟩
    | select => exact ⟨n, habove, rfl⟩
  worksheet := h.worksheet
  settings := h.settings.skip fun _ _ => not_sets_of_directive (by simp [hdir])
  entries := h.entries.skip fun _ _ => not_declaresColumn_of_directive (by simp [hdir])

theorem addSetting (h : sheet.ReadBelow n .config d) (hrow : sheet.row? n = some cells)
    (hplain : sheet.directive? n = none) :
    sheet.ReadBelow (n + 1) .config (d.addSetting cells) := by
  obtain ⟨j, habove⟩ := h.mode
  have hsets : ∀ key value, sheet.Sets n key value ↔ _ := fun _ _ =>
    sets_iff_of_config ⟨hrow, hplain, habove⟩
  have hentries := h.entries.skip fun _ _ => not_declaresColumn_of_ne habove (by simp)
  unfold Declaration.addSetting
  split
  · next hblank =>
    have hblank : firstText? cells = none := hblank
    refine ⟨⟨j, habove.succ hplain⟩, h.worksheet, h.settings.skip fun key value => ?_, hentries⟩
    simp [hsets, hblank]
  · next t htext =>
    have htext : firstText? cells = some t := htext
    refine ⟨⟨j, habove.succ hplain⟩, h.worksheet, h.settings.insert fun key value => ?_, hentries⟩
    simp [hsets, htext]

theorem addCondition (h : sheet.ReadBelow n .filter d) (hrow : sheet.row? n = some cells)
    (hplain : sheet.directive? n = none) :
    sheet.ReadBelow (n + 1) .filter (d.addCondition cells) := by
  obtain ⟨j, habove⟩ := h.mode
  have hsets : ∀ key value, sheet.Sets n key value ↔ _ := fun _ _ =>
    sets_iff_of_filter ⟨hrow, hplain, habove⟩
  have hentries := h.entries.skip fun _ _ => not_declaresColumn_of_ne habove (by simp)
  unfold Declaration.addCondition
  split
  · next hblank =>
    have hblank : firstText? cells = none := hblank
    refine ⟨⟨j, habove.succ hplain⟩, h.worksheet, h.settings.skip fun key value => ?_, hentries⟩
    simp [hsets, hblank]
  · next t htext =>
    have htext : firstText? cells = some t := htext
    refine ⟨⟨j, habove.succ hplain⟩, h.worksheet, h.settings.insert fun key value => ?_, hentries⟩
    simp [hsets, htext]

/-- The row below a `#SELECT` holds the headers of its section. -/
theorem headerRow (h : sheet.ReadBelow n .header d) (hrow : sheet.row? n = some cells)
    (hplain : sheet.directive? n = none) :
    sheet.ReadBelow (n + 1) (.columns (Header.ofRow cells)) d := by
  obtain ⟨j, habove, rfl⟩ := h.mode
  exact ⟨⟨j, cells, habove.succ hplain, Nat.lt_succ_self _, hrow, rfl⟩, h.worksheet,
    h.settings.skip fun _ _ => not_sets_of_select habove,
    h.entries.skip fun _ _ => not_declaresColumn_of_header habove⟩

theorem addEntry {header : Header} (h : sheet.ReadBelow n (.columns header) d)
    (hrow : sheet.row? n = some cells) (hplain : sheet.directive? n = none) :
    sheet.ReadBelow (n + 1) (.columns header) (d.addEntry (header.entry n cells)) := by
  obtain ⟨j, headerCells, habove, hj, hheader, rfl⟩ := h.mode
  exact ⟨⟨j, headerCells, habove.succ hplain, Nat.lt_succ_of_lt hj, hheader, rfl⟩, h.worksheet,
    h.settings.skip fun _ _ => not_sets_of_select habove,
    h.entries.add fun _ _ => declaresColumn_iff_of_select ⟨hrow, hplain, habove⟩ hj hheader⟩

/-- Each row keeps the invariant. -/
theorem readRow (h : sheet.ReadBelow n mode d) (hn : 3 ≤ n) (hrow : sheet.row? n = some cells)
    (hread : d.readRow mode n cells = .ok (mode', d')) : sheet.ReadBelow (n + 1) mode' d' := by
  have hdir := directive?_eq hn hrow
  unfold Declaration.readRow at hread
  split at hread
  · next directive hsome =>
    cases hread
    exact h.directive (hdir.trans hsome)
  · next hnone =>
    have hplain := hdir.trans hnone
    cases mode with
    | start => simp at hread
    | config =>
      cases hread
      exact h.addSetting hrow hplain
    | filter =>
      cases hread
      exact h.addCondition hrow hplain
    | header =>
      cases hread
      exact h.headerRow hrow hplain
    | columns header =>
      cases hread
      exact h.addEntry hrow hplain

/-- With no rows left, what has been read is what the worksheet declares. -/
theorem declares (h : sheet.ReadBelow n mode d) (hend : ∀ i ≥ n, sheet.row? i = none) :
    sheet.Declares d := by
  have hbelow : ∀ {i : Nat} {cells : List Cell}, sheet.row? i = some cells → i < n := by
    intro i cells hrow
    by_contra hi
    simp [hend i (by omega)] at hrow
  have hsets : ∀ {i : Nat} {key : String} {value : Cell}, sheet.Sets i key value → i < n := by
    rintro i key value (⟨hgov, -, -⟩ | ⟨hgov, -⟩) <;> exact hbelow hgov.row
  refine ⟨h.worksheet, fun key => ?_, fun key value => ?_, h.entries.ordered, fun e => ?_⟩
  · constructor
    · intro hsome
      obtain ⟨value, hvalue⟩ := Option.isSome_iff_exists.1 hsome
      obtain ⟨i, -, hi, -⟩ := h.settings.last key value hvalue
      exact ⟨i, value, hi⟩
    · rintro ⟨i, value, hi⟩
      by_contra hnone
      have hunset : d.settings.get? key = none := by
        simpa [Declaration.setting?] using hnone
      exact h.settings.unset key hunset i (hsets hi) value hi
  · constructor
    · intro hvalue
      obtain ⟨i, -, hi, hlast⟩ := h.settings.last key value hvalue
      exact ⟨i, hi, fun i' value' hi' => hlast i' (hsets hi') value' hi'⟩
    · rintro ⟨i, hi, hlast⟩
      cases hvalue : d.settings.get? key with
      | none => exact absurd hi (h.settings.unset key hvalue i (hsets hi) value)
      | some value' =>
        obtain ⟨i', -, hi', hlast'⟩ := h.settings.last key value' hvalue
        obtain rfl : i = i' := by
          have h₁ := hlast i' value' hi'
          have h₂ := hlast' i (hsets hi) value hi
          omega
        rw [hi.unique hi']
        exact hvalue
  · rw [h.entries.mem_iff]
    constructor
    · rintro ⟨i, -, hcolumn⟩
      exact ⟨i, hcolumn⟩
    · rintro ⟨i, header, cells, hcolumn, hentry⟩
      obtain ⟨j, k, -, hgov, -, -⟩ := id hcolumn
      exact ⟨i, hbelow hgov.row, header, cells, hcolumn, hentry⟩

/-- A run over the rows that are left gives what the worksheet declares. -/
theorem readRows {rest : List (List Cell)} (h : sheet.ReadBelow (n + 1) mode d) (hn : 2 ≤ n)
    (hrest : sheet.rows.drop n = rest) (hread : d.readRows mode (n + 1) rest = .ok d') :
    sheet.Declares d' := by
  induction rest generalizing n mode d with
  | nil =>
    cases hread
    refine h.declares fun i hi => ?_
    cases i with
    | zero => rfl
    | succ i =>
      have hlength := List.drop_eq_nil_iff.1 hrest
      exact List.getElem?_eq_none (by omega)
  | cons cells rest ih =>
    rw [Declaration.readRows] at hread
    split at hread
    · simp at hread
    · next mode' d₁ hrow =>
      obtain ⟨hcells, hdrop⟩ := row?_of_drop_eq_cons hrest
      exact ih (h.readRow (by omega) hcells hrow) (by omega) hdrop hread

end ReadBelow

end Worksheet

namespace Declaration

variable {mode mode' : Mode} {d d' : Declaration} {row : Nat} {cells : List Cell}

/-- A row that is read leaves a mode that its directive or one above has opened. -/
theorem ne_start_of_readRow (h : d.readRow mode row cells = .ok (mode', d')) :
    mode' ≠ .start := by
  unfold readRow at h
  split at h
  · next directive _ =>
    cases h
    cases directive <;> simp [Directive.mode]
  · cases mode <;> cases h <;> simp

/-- Once there has been a directive, every row is read. -/
theorem readRows_isOk {rest : List (List Cell)} (hmode : mode ≠ .start) :
    ∃ d', d.readRows mode row rest = .ok d' := by
  induction rest generalizing mode d row with
  | nil => exact ⟨d, rfl⟩
  | cons cells rest ih =>
    obtain ⟨mode', d₁, hrow⟩ : ∃ mode' d₁, d.readRow mode row cells = .ok (mode', d₁) := by
      unfold readRow
      split
      · exact ⟨_, _, rfl⟩
      · cases mode with
        | start => exact absurd rfl hmode
        | _ => exact ⟨_, _, rfl⟩
    rw [readRows, hrow]
    exact ih (ne_start_of_readRow hrow)

end Declaration

namespace Worksheet

variable {sheet : Worksheet}

/-! ## The declaration of a worksheet -/

/-- A worksheet means one declaration. -/
theorem Declares.unique {d d' : Declaration} (h : sheet.Declares d) (h' : sheet.Declares d') :
    d = d' := by
  have hworksheet : d.worksheet = d'.worksheet := h.worksheet.trans h'.worksheet.symm
  have hsettings : d.settings = d'.settings := KeyMap.ext_get? fun key =>
    Option.ext fun value => (h.setting_iff key value).trans (h'.setting_iff key value).symm
  have hnodup : ∀ {entries : List ColumnEntry}, entries.Pairwise (·.row < ·.row) →
      entries.Nodup := fun hentries =>
    hentries.imp fun {a b} hlt heq => by simp [heq] at hlt
  have hperm : d.entries.Perm d'.entries :=
    (List.perm_ext_iff_of_nodup (hnodup h.entries_ordered) (hnodup h'.entries_ordered)).2
      fun e => (h.mem_entries_iff e).trans (h'.mem_entries_iff e).symm
  have hentries : d.entries = d'.entries :=
    hperm.eq_of_pairwise (fun a b _ _ hab hba => absurd (Nat.lt_trans hab hba) (by simp))
      h.entries_ordered h'.entries_ordered
  cases d
  cases d'
  simp_all

/-- Before the third row nothing has been declared. -/
theorem readBelow_start : sheet.ReadBelow 3 .start (Declaration.blank sheet.title) := by
  have habove : ∀ {d : Directive} {j i : Nat}, i < 3 → ¬ sheet.NearestAbove d j i := by
    intro d j i hi h
    have hj : sheet.directive? j = none := if_pos (Nat.lt_trans h.above hi)
    simp [h.directive] at hj
  refine ⟨trivial, rfl, ⟨fun key _ i hi value => ?_, fun key value hkey => ?_⟩,
    ⟨List.Pairwise.nil, fun e => ?_⟩⟩
  · rintro (⟨hgov, -, -⟩ | ⟨hgov, -⟩) <;> exact habove hi hgov.nearestAbove
  · simp [Declaration.blank] at hkey
  · refine iff_of_false (by simp [Declaration.blank]) ?_
    rintro ⟨i, hi, header, cells, ⟨j, k, -, hgov, -, -⟩, -⟩
    exact habove hi hgov.nearestAbove

/-- The rows from the third on are refused when the first of them is no directive, and otherwise
they are read. -/
theorem readRows_start (sheet : Worksheet) :
    (sheet.StartsUndirected ∧
      (Declaration.blank sheet.title).readRows .start 3 (sheet.rows.drop 2) =
        .error (.noDirective sheet.title 3)) ∨
    (¬ sheet.StartsUndirected ∧ ∃ d,
      (Declaration.blank sheet.title).readRows .start 3 (sheet.rows.drop 2) = .ok d) := by
  have hrow : sheet.row? 3 = (sheet.rows.drop 2).head? := List.head?_drop.symm
  cases hrest : sheet.rows.drop 2 with
  | nil =>
    refine .inr ⟨fun hstart => ?_, _, rfl⟩
    simp [hrow, hrest, StartsUndirected] at hstart
  | cons cells rest =>
    have hcells : sheet.row? 3 = some cells := by rw [hrow, hrest, List.head?_cons]
    have hdir : sheet.directive? 3 = Directive.ofRow? cells := directive?_eq (Nat.le_refl 3) hcells
    cases hcase : Directive.ofRow? cells with
    | none =>
      refine .inl ⟨⟨by simp [hcells], hdir.trans hcase⟩, ?_⟩
      rw [Declaration.readRows, Declaration.readRow, hcase]
      rfl
    | some directive =>
      refine .inr ⟨fun hstart => by simp [hdir, hcase, StartsUndirected] at hstart, ?_⟩
      rw [Declaration.readRows, Declaration.readRow, hcase]
      exact Declaration.readRows_isOk (by cases directive <;> simp [Directive.mode])

/-- A worksheet with the markers of an ingestion worksheet is refused exactly when its third row is
no directive, and gives otherwise the declaration that it means. -/
theorem declaration?_eq_iff (hmarker : (sheet.cell 0 0).isMarker "TYPE" = true)
    (htype : (sheet.cell 1 0).isMarker "#INGESTION" = true) :
    (∀ r, sheet.declaration? = .error r ↔
      sheet.StartsUndirected ∧ r = .noDirective sheet.title 3) ∧
    (∀ o, sheet.declaration? = .ok o ↔
      ¬ sheet.StartsUndirected ∧ ∃ d, o = some d ∧ sheet.Declares d) := by
  have hread : sheet.declaration? =
      ((Declaration.blank sheet.title).readRows .start 3 (sheet.rows.drop 2)).map some := by
    simp [declaration?, isIngestion, hmarker, htype]
  rw [hread]
  rcases readRows_start sheet with ⟨hstart, herror⟩ | ⟨hstart, d, hok⟩
  · rw [herror]
    refine ⟨fun r => ?_, fun o => iff_of_false (by simp [Except.map]) fun h => h.1 hstart⟩
    simp [Except.map, hstart, eq_comm]
  · have hdeclares : sheet.Declares d := readBelow_start.readRows (Nat.le_refl 2) rfl hok
    rw [hok]
    refine ⟨fun r => iff_of_false (by simp [Except.map]) fun h => hstart h.1, fun o => ?_⟩
    constructor
    · intro ho
      exact ⟨hstart, d, (Except.ok.inj ho).symm, hdeclares⟩
    · rintro ⟨-, d', rfl, hdeclares'⟩
      rw [hdeclares.unique hdeclares']
      rfl

/-- Sections in no particular order: columns under two rows of headers, one of which has a label
twice, keys that are set twice and a condition from either kind of section. -/
def mixedSections : Worksheet :=
  ⟨"Orders", [[.text "TYPE"], [.text "#INGESTION"], [.text "#SELECT"],
    [.text "New_Name", .text "data_type", .text "new_name "],
    [.text "id", .text " integer ", .text "order_id"], [],
    [.text "#WHERE"], [.text " qty > 0 "], [.empty],
    [.text "#CONFIG"], [.text "Source_Format", .text " json "], [.text "source_format"],
    [.text "field_delimiter", .text "\t"], [.empty, .text "no key"],
    [.text "#SELECT"], [.text "data_type"], [.text "date"],
    [.text "#CONFIG"], [.text "WHERE_CONDITION", .text "qty > 1"]]⟩

theorem declares_mixedSections : (mixedSections.cell 0 0).isMarker "TYPE" = true ∧
    (mixedSections.cell 1 0).isMarker "#INGESTION" = true ∧
    ∃ d, mixedSections.declaration? = .ok (some d) ∧ mixedSections.Declares d ∧
      d.settings.entries = [("field_delimiter", .text "\t"), ("source_format", .empty),
        ("where_condition", .text "qty > 1")] ∧
      d.entries.map (fun e => (e.row, e.newName, e.dataType)) =
        [(5, some (.text "order_id"), some (.text "integer")), (6, some .empty, some .empty),
          (17, none, some (.text "date"))] := by
  have hok : mixedSections.declaration?.toOption.bind (fun o => o.map fun d =>
      (d.settings.entries, d.entries.map fun e => (e.row, e.newName, e.dataType))) =
      some ([("field_delimiter", .text "\t"), ("source_format", .empty),
          ("where_condition", .text "qty > 1")],
        [(5, some (.text "order_id"), some (.text "integer")), (6, some .empty, some .empty),
          (17, none, some (.text "date"))]) := by decide +kernel
  have hmarker : (mixedSections.cell 0 0).isMarker "TYPE" = true := by decide +kernel
  have htype : (mixedSections.cell 1 0).isMarker "#INGESTION" = true := by decide +kernel
  cases hread : mixedSections.declaration? with
  | error e => simp [hread, Except.toOption] at hok
  | ok o =>
    obtain ⟨-, d, rfl, hdeclares⟩ := ((declaration?_eq_iff hmarker htype).2 o).1 hread
    simp only [hread, Except.toOption, Option.bind_some, Option.map_some, Option.some.injEq,
      Prod.mk.injEq] at hok
    exact ⟨hmarker, htype, d, rfl, hdeclares, hok⟩

end Worksheet

end Intake
