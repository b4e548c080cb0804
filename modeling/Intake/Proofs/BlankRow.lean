import Intake.Proofs.Composition
import Intake.Proofs.Declaration

/-!
# Blank rows

A row without content may stand between the rows of a worksheet, and it may be taken away. Two
things depend on it nevertheless: the row below a `#SELECT` holds the headers, blank or not, and a
fault cites the number of its row. `Worksheet.AdmitsBlank` are the places where a blank row is no
row of headers, and `Rejection.mapTableRow` renumbers the rows that faults cite.

Two declarations are the same up to blank rows if their settings agree and the entries of the one
that are not blank are those of the other under other row numbers (`Declaration.RowsMoved`). Reading
the row that is put in leads to such a declaration (`Declaration.exists_readRow_of_isBlank`); each
row below it keeps this (`Declaration.RowsMoved.readRow`), hence so does the run over all of them
(`Declaration.RowsMoved.readRows`). Such declarations give the same table, or the same fault in
another row (`Declaration.RowsMoved.table`). A mapping is therefore built from a worksheet with
a blank row exactly as from the worksheet without it (`Mapping.build_insertRow`).
-/

namespace Intake

/-! ## Cells and rows without content -/

namespace Cell

variable {c : Cell}

theorem text?_eq_none (h : c.isBlank = true) : c.text? = none := by
  cases c with
  | empty => rfl
  | text s => exact if_pos h
  | number x => simp [isBlank] at h
  | bool b => simp [isBlank] at h

theorem isBlank_trimmed (h : c.isBlank = true) : c.trimmed.isBlank = true := by
  cases c with
  | text s =>
    rw [trimmed, isBlank, Text.trim_eq_empty h]
    rfl
  | _ => exact h

theorem isMarker_eq_false {marker : String} (h : c.isBlank = true) (hmarker : marker ≠ "") :
    c.isMarker marker = false := by
  cases c with
  | text s =>
    rw [isMarker, Text.trim_eq_empty h]
    exact beq_false_of_ne hmarker.symm
  | _ => rfl

end Cell

section BlankRow

variable {cells : List Cell} (hblank : ∀ c ∈ cells, c.isBlank = true)
include hblank

theorem isBlank_headD : (cells.headD .empty).isBlank = true := by
  cases cells with
  | nil => rfl
  | cons c rest => exact hblank c (by simp)

theorem Directive.ofRow?_eq_none : ofRow? cells = none := by
  have hplain : ∀ {marker : String}, marker ≠ "" →
      (cells.headD .empty).isMarker marker = false :=
    Cell.isMarker_eq_false (isBlank_headD hblank)
  rw [ofRow?, hplain (by decide), hplain (by decide), hplain (by decide)]
  rfl

theorem Header.text?_cell?_eq_none (h : Header) (label : String) :
    ColumnEntry.text? (h.cell? cells label) = none := by
  unfold cell?
  cases h.column? label with
  | none => rfl
  | some i =>
    rw [Option.map_some, ColumnEntry.text?, Option.bind_some]
    cases hcell : cells[i]? with
    | none => rfl
    | some c =>
      have hc := hblank c (List.mem_of_getElem? hcell)
      exact Cell.text?_eq_none (Cell.isBlank_trimmed hc)

theorem Header.isBlank_entry (h : Header) (row : Nat) : (h.entry row cells).isBlank = true := by
  have htext := Header.text?_cell?_eq_none hblank h
  unfold ColumnEntry.isBlank ColumnEntry.sourceText? entry
  split <;> simp [htext]

theorem Declaration.addSetting_eq_self (d : Declaration) : d.addSetting cells = d := by
  rw [addSetting, Cell.text?_eq_none (isBlank_headD hblank)]

theorem Declaration.addCondition_eq_self (d : Declaration) : d.addCondition cells = d := by
  rw [addCondition, Cell.text?_eq_none (isBlank_headD hblank)]

end BlankRow

/-! ## Faults in renumbered rows -/

/-- The number of a row once another row has been put in as row `n`. -/
def movedRow (n row : Nat) : Nat := if n ≤ row then row + 1 else row

/-- The entry of another row. -/
def ColumnEntry.mapRow (f : Nat → Nat) (e : ColumnEntry) : ColumnEntry := { e with row := f e.row }

/-- The same fault with the rows of tables renumbered. -/
def Rejection.mapTableRow (f : String → Nat → Nat) : Rejection → Rejection
  | targetColumnMissing table row => targetColumnMissing table (f table row)
  | targetColumnInvalid table row column => targetColumnInvalid table (f table row) column
  | dataTypeMissing table row => dataTypeMissing table (f table row)
  | dataTypeInvalid table row dataType => dataTypeInvalid table (f table row) dataType
  | r => r

theorem mapError_bind {ε ε' α β : Type} {g : ε → ε'} (x : Except ε α) (k : α → Except ε β) :
    (x >>= k).mapError g = x.mapError g >>= fun a => (k a).mapError g := by
  cases x <;> rfl

theorem mapError_map {ε ε' α β : Type} {g : ε → ε'} (x : Except ε α) (k : α → β) :
    (x.map k).mapError g = (x.mapError g).map k := by
  cases x <;> rfl

theorem mapError_id {ε α : Type} (x : Except ε α) : x.mapError id = x := by
  cases x <;> rfl

section

variable {f : String → Nat → Nat} {context : ColumnContext}

namespace Column

theorem ofEntry_mapRow (e : ColumnEntry) (position : Nat) :
    ofEntry (e.mapRow (f context.table)) position context =
      (ofEntry e position context).mapError (·.mapTableRow f) := by
  have htarget : (e.mapRow (f context.table)).target context =
      (e.target context).mapError (·.mapTableRow f) := by
    unfold ColumnEntry.target ColumnEntry.mapRow
    dsimp only
    split
    · rfl
    · split <;> rfl
  have htype : (e.mapRow (f context.table)).type context =
      (e.type context).mapError (·.mapTableRow f) := by
    unfold ColumnEntry.type ColumnEntry.mapRow
    dsimp only
    split
    · rfl
    · split <;> rfl
  simp only [ofEntry, htarget, htype, mapError_bind]
  rfl

theorem ofEntriesFrom_map_mapRow (entries : List ColumnEntry) (position : Nat) :
    ofEntriesFrom context position (entries.map (·.mapRow (f context.table))) =
      (ofEntriesFrom context position entries).mapError (·.mapTableRow f) := by
  induction entries generalizing position with
  | nil => rfl
  | cons e rest ih =>
    simp only [List.map_cons, ofEntriesFrom, ofEntry_mapRow, ih, mapError_bind]
    rfl

end Column

end

/-! ## Declarations up to blank rows -/

namespace Declaration

/-- What `d'` declares is what `d` declares, but for entries that are blank and for the numbers of
the rows. -/
structure RowsMoved (f : Nat → Nat) (d d' : Declaration) : Prop where
  worksheet : d'.worksheet = d.worksheet
  settings : d'.settings = d.settings
  entries : (d'.entries.filter fun e => !e.isBlank) =
    (d.entries.filter fun e => !e.isBlank).map (·.mapRow f)

variable {d d' : Declaration} {f : Nat → Nat} {n row : Nat} {mode : Mode} {cells : List Cell}

theorem rowsMoved_of_forall (h : ∀ e ∈ d.entries, f e.row = e.row) : d.RowsMoved f d where
  worksheet := rfl
  settings := rfl
  entries := by
    rw [List.map_congr_left (g := id), List.map_id]
    intro e he
    rw [ColumnEntry.mapRow, h e (List.mem_filter.1 he).1]
    rfl

namespace RowsMoved

theorem addSetting (h : d.RowsMoved f d') (cells : List Cell) :
    (d.addSetting cells).RowsMoved f (d'.addSetting cells) := by
  unfold Declaration.addSetting
  split
  · exact h
  · exact ⟨h.worksheet, by rw [h.settings], h.entries⟩

theorem addCondition (h : d.RowsMoved f d') (cells : List Cell) :
    (d.addCondition cells).RowsMoved f (d'.addCondition cells) := by
  unfold Declaration.addCondition
  split
  · exact h
  · exact ⟨h.worksheet, by rw [h.settings], h.entries⟩

theorem addEntry (h : d.RowsMoved f d') (e : ColumnEntry) :
    (d.addEntry e).RowsMoved f (d'.addEntry (e.mapRow f)) where
  worksheet := h.worksheet
  settings := h.settings
  entries := by
    rw [Declaration.addEntry, Declaration.addEntry, List.filter_append, List.filter_append,
      List.map_append, h.entries, ← List.map_singleton, List.filter_map]
    rfl

/-- A blank entry is none. -/
theorem addBlank (h : d.RowsMoved f d') {e : ColumnEntry} (he : e.isBlank = true) :
    d.RowsMoved f (d'.addEntry e) where
  worksheet := h.worksheet
  settings := h.settings
  entries := by
    have hnone : ([e].filter fun e => !e.isBlank) = [] := by simp [he]
    rw [Declaration.addEntry, List.filter_append, hnone, List.append_nil]
    exact h.entries

end RowsMoved

/-- A row that is put in below a directive, when it is blank, leaves what has been declared. The
mode stays too, unless the headers are expected. -/
theorem exists_readRow_of_isBlank (hblank : ∀ c ∈ cells, c.isBlank = true) (hmode : mode ≠ .start)
    (hrows : ∀ e ∈ d.entries, e.row < n) :
    ∃ mode' d', d.readRow mode n cells = .ok (mode', d') ∧ (mode = .header ∨ mode' = mode) ∧
      d.RowsMoved (movedRow n) d' := by
  have hsame : d.RowsMoved (movedRow n) d :=
    rowsMoved_of_forall fun e he => if_neg (Nat.not_le_of_lt (hrows e he))
  simp only [readRow, Directive.ofRow?_eq_none hblank]
  cases mode with
  | start => exact absurd rfl hmode
  | config => exact ⟨_, _, rfl, .inr rfl, by rwa [addSetting_eq_self hblank]⟩
  | filter => exact ⟨_, _, rfl, .inr rfl, by rwa [addCondition_eq_self hblank]⟩
  | header => exact ⟨_, _, rfl, .inl rfl, hsame⟩
  | columns header =>
    exact ⟨_, _, rfl, .inr rfl, hsame.addBlank (Header.isBlank_entry hblank header n)⟩

/-- Each row below the one that is put in is read in the same way, under the next number. -/
theorem RowsMoved.readRow (h : d.RowsMoved (movedRow n) d') (hrow : n ≤ row)
    (hmode : mode ≠ .start) (cells : List Cell) :
    ∃ mode₁ d₁ d₁', d.readRow mode row cells = .ok (mode₁, d₁) ∧
      d'.readRow mode (row + 1) cells = .ok (mode₁, d₁') ∧ d₁.RowsMoved (movedRow n) d₁' := by
  unfold Declaration.readRow
  split
  · exact ⟨_, _, _, rfl, rfl, h⟩
  · cases mode with
    | start => exact absurd rfl hmode
    | config => exact ⟨_, _, _, rfl, rfl, h.addSetting cells⟩
    | filter => exact ⟨_, _, _, rfl, rfl, h.addCondition cells⟩
    | header => exact ⟨_, _, _, rfl, rfl, h⟩
    | columns header =>
      have hentry : header.entry (row + 1) cells =
          (header.entry row cells).mapRow (movedRow n) := by
        simp [ColumnEntry.mapRow, movedRow, Header.entry, hrow]
      exact ⟨_, _, _, rfl, rfl, hentry ▸ h.addEntry (header.entry row cells)⟩

/-- A run over the rows below the one that is put in. -/
theorem RowsMoved.readRows {rest : List (List Cell)} (h : d.RowsMoved (movedRow n) d')
    (hrow : n ≤ row) (hmode : mode ≠ .start) : ∃ d₁ d₁', d.readRows mode row rest = .ok d₁ ∧
      d'.readRows mode (row + 1) rest = .ok d₁' ∧ d₁.RowsMoved (movedRow n) d₁' := by
  induction rest generalizing mode d d' row with
  | nil => exact ⟨d, d', rfl, rfl, h⟩
  | cons cells rest ih =>
    obtain ⟨mode₁, d₁, d₁', hread, hread', h₁⟩ := h.readRow hrow hmode cells
    simp only [Declaration.readRows, hread, hread']
    exact ih h₁ (Nat.le_succ_of_le hrow) (ne_start_of_readRow hread)

/-- Where no row is left or the next one is a directive, the mode makes no difference. -/
theorem readRows_eq_of_directive {rest : List (List Cell)} (mode' : Mode)
    (h : ∀ cells ∈ rest.head?, (Directive.ofRow? cells).isSome) :
    d.readRows mode row rest = d.readRows mode' row rest := by
  cases rest with
  | nil => rfl
  | cons cells rest =>
    obtain ⟨directive, hdirective⟩ := Option.isSome_iff_exists.1 (h cells rfl)
    simp only [Declaration.readRows, Declaration.readRow, hdirective]

/-- Reading a blank row in between changes blank entries and row numbers only. -/
theorem exists_readRows_cons_of_isBlank {below : List (List Cell)}
    (hblank : ∀ c ∈ cells, c.isBlank = true) (hmode : mode ≠ .start)
    (hheader : mode = .header → ∀ next ∈ below.head?, (Directive.ofRow? next).isSome)
    (hrows : ∀ e ∈ d.entries, e.row < n) :
    ∃ d₁ d₁', d.readRows mode n below = .ok d₁ ∧ d.readRows mode n (cells :: below) = .ok d₁' ∧
      d₁.RowsMoved (movedRow n) d₁' := by
  obtain ⟨mode', d', hread, hsame, hmoved⟩ := exists_readRow_of_isBlank hblank hmode hrows
  -- The mode is another one only where it makes no difference to the rows below.
  have hbelow : d.readRows mode n below = d.readRows mode' n below := by
    rcases hsame with hsame | rfl
    · exact readRows_eq_of_directive mode' (hheader hsame)
    · rfl
  rw [hbelow, Declaration.readRows, hread]
  exact hmoved.readRows (Nat.le_refl n) (ne_start_of_readRow hread)

/-! ## Tables up to blank rows -/

section Table

variable {f : String → Nat → Nat} {flow target : String} {config : Config}

theorem mapError_sourceTable : (d.sourceTable flow).mapError (·.mapTableRow f) =
    d.sourceTable flow := by
  unfold sourceTable
  split
  · rfl
  · split <;> rfl

theorem mapError_targetTable : (d.targetTable flow).mapError (·.mapTableRow f) =
    d.targetTable flow := by
  unfold targetTable
  split
  · rfl
  · exact mapError_sourceTable

theorem mapError_checkPartitions (keys : List String) :
    (checkPartitions target keys).mapError (·.mapTableRow f) = checkPartitions target keys := by
  induction keys with
  | nil => rfl
  | cons key rest ih =>
    unfold checkPartitions
    split
    · rfl
    · rw [mapError_map, ih]

theorem mapError_partitionStyle : (d.partitionStyle target config).mapError (·.mapTableRow f) =
    d.partitionStyle target config := by
  unfold partitionStyle
  split
  · rfl
  · split <;> rfl

/-- The settings decide everything but the columns. -/
theorem RowsMoved.exists_eq {f : Nat → Nat} (h : d.RowsMoved f d') :
    ∃ entries, d' = { d with entries := entries } := by
  obtain ⟨worksheet, settings, entries⟩ := d'
  obtain ⟨rfl, rfl, -⟩ := h
  exact ⟨entries, rfl⟩

theorem RowsMoved.targetTable {f : Nat → Nat} (h : d.RowsMoved f d') :
    d'.targetTable flow = d.targetTable flow := by
  obtain ⟨entries, rfl⟩ := h.exists_eq
  rfl

theorem RowsMoved.isExcluded {f : Nat → Nat} (h : d.RowsMoved f d') :
    d'.isExcluded = d.isExcluded := by
  obtain ⟨entries, rfl⟩ := h.exists_eq
  rfl

/-- The columns of declarations that are the same up to blank rows. -/
theorem RowsMoved.ofEntries {context : ColumnContext} (h : d.RowsMoved (f context.table) d') :
    Column.ofEntries d'.entries context =
      (Column.ofEntries d.entries context).mapError (·.mapTableRow f) := by
  rw [Column.ofEntries, h.entries, Column.ofEntriesFrom_map_mapRow]
  rfl

/-- The tables of declarations that are the same up to blank rows, or their faults. -/
theorem RowsMoved.table (h : d.RowsMoved (f target) d') :
    d'.table target flow config =
      (d.table target flow config).mapError (·.mapTableRow f) := by
  have hcolumns : Column.ofEntries d'.entries (d.columnContext target config) = _ :=
    RowsMoved.ofEntries h
  obtain ⟨entries, rfl⟩ := h.exists_eq
  simp only [Declaration.table, mapError_bind, mapError_sourceTable, mapError_partitionStyle,
    partitions, mapError_checkPartitions, ← hcolumns]
  rfl

end Table

end Declaration

section Named

variable {f : String → Nat → Nat} {flow : String} {config : Config}

/-- The same target name, and declarations that are the same up to blank rows. -/
def NamedRowsMoved (f : String → Nat → Nat) (e e' : String × Declaration) : Prop :=
  e'.1 = e.1 ∧ e.2.RowsMoved (f e.1) e'.2

theorem forall₂_namedRowsMoved_self {declared : List (String × Declaration)}
    (h : ∀ e ∈ declared, ∀ row, f e.1 row = row) :
    List.Forall₂ (NamedRowsMoved f) declared declared :=
  List.forall₂_same.2 fun e he => ⟨rfl, Declaration.rowsMoved_of_forall fun _ _ => h e he _⟩

theorem assembleTables_of_namedRowsMoved {declared declared' : List (String × Declaration)}
    (h : List.Forall₂ (NamedRowsMoved f) declared declared') :
    assembleTables flow config declared' =
      (assembleTables flow config declared).mapError (·.mapTableRow f) := by
  induction h with
  | nil => rfl
  | @cons e e' _ _ hmoved _ ih =>
    obtain ⟨target, d⟩ := e
    obtain ⟨_, d'⟩ := e'
    obtain ⟨rfl, hmoved⟩ := hmoved
    rw [assembleTables, assembleTables, hmoved.isExcluded]
    split
    · exact ih
    · simp only [hmoved.table, ih, mapError_bind]
      rfl

end Named

/-! ## A row that is put into a worksheet -/

namespace Worksheet

variable {sheet : Worksheet} {n : Nat} {cells : List Cell} {flow : String} {d : Declaration}
  {mode : Mode}

/-- The worksheet with another row, put in as row `n`. -/
def insertRow (sheet : Worksheet) (n : Nat) (cells : List Cell) : Worksheet :=
  { sheet with rows := sheet.rows.insertIdx (n - 1) cells }

/-- A row that is put in as row `n` is below a directive, and it does not come between a `#SELECT`
and its headers. -/
structure AdmitsBlank (sheet : Worksheet) (n : Nat) : Prop where
  le_length : n ≤ sheet.rows.length + 1
  directed : ∃ j < n, (sheet.directive? j).isSome
  not_header : sheet.directive? (n - 1) = some .select →
    sheet.row? n = none ∨ (sheet.directive? n).isSome

/-- The numbers of the rows of tables once another row has been put in as row `n` of a worksheet. -/
def movedTableRow (sheet : Worksheet) (flow : String) (n : Nat) (table : String) (row : Nat) :
    Nat :=
  if sheet.targetTable? flow = some table then movedRow n row else row

theorem movedTableRow_self {table : String} (h : sheet.targetTable? flow = some table) :
    sheet.movedTableRow flow n table = movedRow n :=
  funext fun _ => if_pos h

/-- Without a table there is nothing to renumber. -/
theorem mapTableRow_movedTableRow_eq_id (h : sheet.targetTable? flow = none) :
    (fun r : Rejection => r.mapTableRow (sheet.movedTableRow flow n)) = id := by
  funext r
  cases r <;> simp [Rejection.mapTableRow, movedTableRow, h]

theorem AdmitsBlank.three_lt (h : sheet.AdmitsBlank n) : 3 < n := by
  obtain ⟨j, hj, hdirective⟩ := h.directed
  have hthree : 3 ≤ j := by
    by_contra hlt
    simp [directive?, Nat.lt_of_not_le hlt] at hdirective
  omega

/-- A run over rows stops in one of the first, or it goes on with the others. -/
theorem ReadBelow.readRows_append {above below : List (List Cell)}
    (h : sheet.ReadBelow (n + 1) mode d) (hn : 2 ≤ n)
    (hrows : sheet.rows.drop n = above ++ below) :
    (∃ r, ∀ rest, d.readRows mode (n + 1) (above ++ rest) = .error r) ∨
    ∃ mode' d', sheet.ReadBelow (n + above.length + 1) mode' d' ∧
      (mode' = .start → mode = .start ∧ above = []) ∧
      ∀ rest, d.readRows mode (n + 1) (above ++ rest) =
        d'.readRows mode' (n + above.length + 1) rest := by
  -- A row that is read leaves a mode other than `start`, which the next rows begin with.
  induction above generalizing n mode d with
  | nil => exact .inr ⟨mode, d, h, fun hstart => ⟨hstart, rfl⟩, fun rest => rfl⟩
  | cons cells above ih =>
    obtain ⟨hcells, hdrop⟩ := row?_of_drop_eq_cons hrows
    simp only [List.cons_append, Declaration.readRows]
    cases hread : d.readRow mode (n + 1) cells with
    | error r => exact .inl ⟨r, fun rest => rfl⟩
    | ok read =>
      obtain ⟨mode₁, d₁⟩ := read
      obtain herror | ⟨mode', d', hbelow, hstart, hrest⟩ :=
        ih (h.readRow (by omega) hcells hread) (by omega) hdrop
      · exact .inl herror
      · have hlength : n + (cells :: above).length + 1 = n + 1 + above.length + 1 := by
          rw [List.length_cons]
          omega
        rw [hlength]
        exact .inr ⟨mode', d', hbelow,
          fun heq => absurd (hstart heq).1 (Declaration.ne_start_of_readRow hread), hrest⟩

/-- The rows below the first two, and where among them the new row is. -/
theorem AdmitsBlank.exists_rows (h : sheet.AdmitsBlank n) (cells : List Cell) :
    ∃ above below, n = above.length + 3 ∧ above ≠ [] ∧ sheet.rows.drop 2 = above ++ below ∧
      (sheet.insertRow n cells).rows.drop 2 = above ++ cells :: below ∧
      below.head? = sheet.row? n := by
  have hn := h.three_lt
  have hlength := h.le_length
  obtain ⟨start, below, hrows, hstart, hinserted⟩ :=
    List.exists_of_modifyTailIdx (List.cons cells) (i := n - 1) (l := sheet.rows) (by omega)
  have hdrop : ∀ rest, (start ++ rest).drop 2 = start.drop 2 ++ rest :=
    fun rest => List.drop_append_of_le_length (by omega)
  refine ⟨start.drop 2, below, ?_, ?_, ?_, ?_, ?_⟩
  · rw [List.length_drop]
    omega
  · rw [Ne, List.drop_eq_nil_iff]
    omega
  · rw [hrows, hdrop]
  · rw [← hdrop, ← hinserted]
    rfl
  · obtain ⟨k, rfl⟩ : ∃ k, n = k + 1 := ⟨n - 1, by omega⟩
    rw [row?, hrows, List.getElem?_append_right (by omega), List.head?_eq_getElem?]
    congr 1
    omega

/-- A worksheet with a blank row is refused as the worksheet without it, or it declares the same
but for blank entries and row numbers. -/
theorem AdmitsBlank.readRows_insertRow (h : sheet.AdmitsBlank n)
    (hblank : ∀ c ∈ cells, c.isBlank = true) :
    (∃ r, (Declaration.blank sheet.title).readRows .start 3 (sheet.rows.drop 2) = .error r ∧
      (Declaration.blank sheet.title).readRows .start 3 ((sheet.insertRow n cells).rows.drop 2) =
        .error r) ∨
    ∃ d d', (Declaration.blank sheet.title).readRows .start 3 (sheet.rows.drop 2) = .ok d ∧
      (Declaration.blank sheet.title).readRows .start 3 ((sheet.insertRow n cells).rows.drop 2) =
        .ok d' ∧ d.RowsMoved (movedRow n) d' := by
  obtain ⟨above, below, hn, habove, hrows, hinserted, hnext⟩ := h.exists_rows cells
  rw [hrows, hinserted]
  obtain ⟨r, hr⟩ | ⟨mode, d, hbelow, hstart, hrest⟩ :=
    readBelow_start.readRows_append (Nat.le_refl 2) hrows
  · exact .inl ⟨r, hr _, hr _⟩
  · obtain rfl : n = 2 + above.length + 1 := by omega
    rw [hrest, hrest]
    refine .inr (Declaration.exists_readRows_cons_of_isBlank hblank
      (fun heq => habove (hstart heq).2) ?_ fun e => hbelow.entries.row_lt)
    rintro rfl next hhead
    obtain ⟨j, hselect, hj⟩ := hbelow.mode
    have hlast : 2 + above.length + 1 - 1 = j := by omega
    rw [hnext] at hhead
    rcases h.not_header (hlast ▸ hselect.directive) with hnone | hdirective
    · simp [hnone] at hhead
    · rwa [directive?_eq (by omega) hhead] at hdirective

theorem AdmitsBlank.cell_insertRow (h : sheet.AdmitsBlank n) {row : Nat} (hrow : row < 3)
    (column : Nat) : (sheet.insertRow n cells).cell row column = sheet.cell row column := by
  have hn := h.three_lt
  rw [cell, cell, insertRow, List.getElem?_insertIdx_of_lt (by omega)]

/-- What a worksheet with a blank row declares. -/
theorem AdmitsBlank.declaration?_insertRow (h : sheet.AdmitsBlank n)
    (hblank : ∀ c ∈ cells, c.isBlank = true) :
    ((sheet.insertRow n cells).declaration? = sheet.declaration? ∧
      ∀ d, sheet.declaration? ≠ .ok (some d)) ∨
    ∃ d d', sheet.declaration? = .ok (some d) ∧
      (sheet.insertRow n cells).declaration? = .ok (some d') ∧ d.RowsMoved (movedRow n) d' := by
  unfold declaration? isIngestion
  rw [h.cell_insertRow (by decide), h.cell_insertRow (by decide)]
  cases (sheet.cell 0 0).isMarker "TYPE" with
  | false => exact .inl ⟨rfl, nofun⟩
  | true =>
    cases (sheet.cell 1 0).isMarker "#INGESTION" with
    | false => exact .inl ⟨rfl, nofun⟩
    | true =>
      obtain ⟨r, hr, hr'⟩ | ⟨d, d', hd, hd', hmoved⟩ := h.readRows_insertRow hblank
      · rw [hr]
        exact .inl ⟨congrArg (Except.map some) hr', nofun⟩
      · rw [hd]
        exact .inr ⟨d, d', rfl, congrArg (Except.map some) hd', hmoved⟩

end Worksheet

/-! ## Mappings up to blank rows -/

theorem declarations_append (flow : String) (before after : List Worksheet) :
    declarations flow (before ++ after) = do
      let first ← declarations flow before
      let others ← declarations flow after
      return first ++ others := by
  induction before with
  | nil => simp [declarations, ok_bind]
  | cons sheet before ih =>
    rw [List.cons_append, declarations, declarations, ih, bind_assoc]
    congr 1
    funext read
    cases read with
    | none => rfl
    | some d => simp only [bind_assoc, pure_bind, List.cons_append]

section

variable {f : String → Nat → Nat} {flow : String} {config : Config}

theorem Declaration.mapError_readRows (mode : Mode) (d : Declaration) (row : Nat)
    (rows : List (List Cell)) : (d.readRows mode row rows).mapError (·.mapTableRow f) =
      d.readRows mode row rows := by
  induction rows generalizing mode d row with
  | nil => rfl
  | cons cells rest ih =>
    rw [readRows]
    split
    · next hread =>
      unfold readRow at hread
      split at hread
      · cases hread
      · cases mode <;> cases hread
        rfl
    · exact ih _ _ _

theorem Worksheet.mapError_declaration? (sheet : Worksheet) :
    sheet.declaration?.mapError (·.mapTableRow f) = sheet.declaration? := by
  unfold declaration?
  split
  · rfl
  · split
    · rfl
    · rw [mapError_map, Declaration.mapError_readRows]

theorem Worksheet.targetTable?_eq_none {sheet : Worksheet}
    (h : ∀ d, sheet.declaration? ≠ .ok (some d)) : sheet.targetTable? flow = none := by
  unfold targetTable?
  cases hread : sheet.declaration? with
  | error r => rfl
  | ok read =>
    cases read with
    | none => rfl
    | some d => exact absurd hread (h d)

/-- What is wrong with a worksheet as such is not in a row of a table. -/
theorem mapError_declarations (sheets : List Worksheet) :
    (declarations flow sheets).mapError (·.mapTableRow f) = declarations flow sheets := by
  induction sheets with
  | nil => rfl
  | cons sheet rest ih =>
    rw [declarations, mapError_bind, sheet.mapError_declaration?]
    congr 1
    funext read
    cases read with
    | none => exact ih
    | some d =>
      simp only [mapError_bind, Declaration.mapError_targetTable, ih]
      rfl

theorem mapTableRow_of_declarations {sheets : List Worksheet} {r : Rejection}
    (h : declarations flow sheets = .error r) : r.mapTableRow f = r := by
  have hsame : (declarations flow sheets).mapError (·.mapTableRow f) = _ :=
    mapError_declarations sheets
  rw [h] at hsame
  exact Except.error.inj hsame

namespace Mapping

theorem mapError_checkNames (names : List String) :
    (checkNames names).mapError (·.mapTableRow f) = checkNames names := by
  unfold checkNames
  split <;> rfl

theorem mapError_check (m : Mapping) : m.check.mapError (·.mapTableRow f) = m.check := by
  have hdocuments : m.checkDocuments.mapError (·.mapTableRow f) = m.checkDocuments := by
    unfold checkDocuments
    split <;> rfl
  have hcolumns : m.checkColumns.mapError (·.mapTableRow f) = m.checkColumns := by
    unfold checkColumns
    split <;> rfl
  simp only [check, mapError_bind, mapError_checkNames, hdocuments, hcolumns]

/-- The mapping of declarations with the target names that they resolve to. -/
def ofDeclarations (flow : String) (config : Config) (declared : List (String × Declaration)) :
    Except Rejection Mapping := do
  checkNames (declared.map (·.1))
  let tables ← assembleTables flow config declared
  let mapping : Mapping := ⟨tables⟩
  mapping.check
  return mapping

theorem build_eq_bind (sheets : List Worksheet) (flow : String) (config : Config) :
    build sheets flow config =
      declarations (normalFlow flow) sheets >>= ofDeclarations (normalFlow flow) config :=
  rfl

/-- One of the declarations may be replaced with one that is the same up to blank rows. As no other
has its target name, no fault of another moves. -/
theorem ofDeclarations_of_rowsMoved {before after : List (String × Declaration)} {target : String}
    {d d' : Declaration} (h : d.RowsMoved (f target) d')
    (hothers : ∀ table ≠ target, ∀ row, f table row = row) :
    ofDeclarations flow config (before ++ (target, d') :: after) =
      (ofDeclarations flow config (before ++ (target, d) :: after)).mapError
        (·.mapTableRow f) := by
  have hnames : (before ++ (target, d') :: after).map (·.1) =
      (before ++ (target, d) :: after).map (·.1) := by simp
  simp only [ofDeclarations, mapError_bind, mapError_checkNames, hnames]
  cases hcheck : checkNames ((before ++ (target, d) :: after).map (·.1)) with
  | error r => rfl
  | ok u =>
    -- The names differ now, so that the rows which `f` moves are those of one table only.
    have hnodup := checkNames_eq_ok_iff.1 hcheck
    rw [List.map_append, List.map_cons, List.nodup_middle, List.nodup_cons] at hnodup
    have hsame : ∀ {part : List (String × Declaration)}, target ∉ part.map (·.1) →
        List.Forall₂ (NamedRowsMoved f) part part := fun hpart =>
      forall₂_namedRowsMoved_self fun e he =>
        hothers e.1 fun heq => hpart (heq ▸ List.mem_map_of_mem he)
    rw [List.mem_append, not_or] at hnodup
    have hmiddle : List.Forall₂ (NamedRowsMoved f) ((target, d) :: after) ((target, d') :: after) :=
      .cons ⟨rfl, h⟩ (hsame hnodup.1.2)
    rw [assembleTables_of_namedRowsMoved (List.rel_append (hsame hnodup.1.1) hmiddle)]
    simp only [ok_bind, mapError_check]
    rfl

/-- A blank row that is put into a worksheet renumbers rows in faults and does nothing else. -/
theorem build_insertRow_eq {sheet : Worksheet} {n : Nat} {cells : List Cell}
    (hplace : sheet.AdmitsBlank n) (hblank : ∀ c ∈ cells, c.isBlank = true)
    (before after : List Worksheet) (flow : String) (config : Config) :
    build (before ++ sheet.insertRow n cells :: after) flow config =
      (build (before ++ sheet :: after) flow config).mapError
        (·.mapTableRow (sheet.movedTableRow (normalFlow flow) n)) := by
  simp only [build_eq_bind, declarations_append, declarations]
  rcases hplace.declaration?_insertRow hblank with ⟨hsame, hnone⟩ | ⟨d, d', hread, hread', hmoved⟩
  · rw [hsame,
      Worksheet.mapTableRow_movedTableRow_eq_id (Worksheet.targetTable?_eq_none hnone)]
    exact (mapError_id _).symm
  · simp only [hread, hread', ok_bind, hmoved.targetTable]
    cases htarget : d.targetTable (normalFlow flow) with
    | error r =>
      have htable : sheet.targetTable? (normalFlow flow) = none := by
        simp [Worksheet.targetTable?, hread, htarget, Except.toOption]
      rw [Worksheet.mapTableRow_movedTableRow_eq_id htable]
      exact (mapError_id _).symm
    | ok target =>
      have htable : sheet.targetTable? (normalFlow flow) = some target := by
        simp [Worksheet.targetTable?, hread, htarget, Except.toOption]
      cases hbefore : declarations (normalFlow flow) before with
      | error r => exact congrArg _ (mapTableRow_of_declarations hbefore).symm
      | ok first =>
        cases hafter : declarations (normalFlow flow) after with
        | error r => exact congrArg _ (mapTableRow_of_declarations hafter).symm
        | ok others =>
          refine ofDeclarations_of_rowsMoved ?_ fun table hne row => ?_
          · rwa [Worksheet.movedTableRow_self htable]
          · exact if_neg fun heq => hne (Option.some.inj (htable.symm.trans heq)).symm

/-- Blank rows are inert. A row of blank cells may be put into a worksheet, below a directive and
not between a `#SELECT` and its headers: the same mapping is built, or the workbook is refused for
the same fault. Only the number of its row is another where the row that is at fault is below. -/
theorem build_insertRow {sheet : Worksheet} {n : Nat} {cells : List Cell}
    (hplace : sheet.AdmitsBlank n) (hblank : ∀ c ∈ cells, c.isBlank = true)
    (before after : List Worksheet) (flow : String) (config : Config) :
    (∀ m, build (before ++ sheet.insertRow n cells :: after) flow config = .ok m ↔
      build (before ++ sheet :: after) flow config = .ok m) ∧
    (∀ r', build (before ++ sheet.insertRow n cells :: after) flow config = .error r' ↔
      ∃ r, build (before ++ sheet :: after) flow config = .error r ∧
        r' = r.mapTableRow (sheet.movedTableRow (normalFlow flow) n)) := by
  rw [build_insertRow_eq hplace hblank]
  refine ⟨fun m => mapError_eq_ok_iff, fun r' => ?_⟩
  cases build (before ++ sheet :: after) flow config with
  | ok m => exact iff_of_false nofun nofun
  | error r =>
    constructor
    · intro h
      exact ⟨r, rfl, (Except.error.inj h).symm⟩
    · rintro ⟨r₀, hr, rfl⟩
      rw [Except.error.inj hr]
      rfl

/-- A worksheet of two columns, with a declared type of the second. -/
def ordersOfType (type : Cell) : Worksheet :=
  ⟨"Orders", [[.text "TYPE"], [.text "#INGESTION"], [.text "#CONFIG"],
    [.text "source_table", .text "orders"], [.text "#SELECT"],
    [.text "new_name", .text "data_type"], [.text "id", .text "integer"], [.text "qty", type]]⟩

theorem admitsBlank_ordersOfType (type : Cell) : (ordersOfType type).AdmitsBlank 8 where
  le_length := by simp [ordersOfType]
  directed := by
    refine ⟨3, by decide, ?_⟩
    change (Directive.ofRow? [.text "#CONFIG"]).isSome = true
    decide +kernel
  not_header h := by
    change Directive.ofRow? [.text "id", .text "integer"] = some .select at h
    exact absurd h (by decide +kernel)

/-- A blank row between the columns: the same two columns, and the same fault one row below. -/
theorem build_insertRow_ordersOfType :
    (∃ m, build [notes, ordersOfType (.text "decimal")] "Sales" {} = .ok m ∧
      build [notes, (ordersOfType (.text "decimal")).insertRow 8 [.text " \t", .empty]] "Sales" {} =
        .ok m) ∧
    build [notes, ordersOfType .empty] "Sales" {} = .error (.dataTypeMissing "sales_orders" 8) ∧
    build [notes, (ordersOfType .empty).insertRow 8 [.text " \t", .empty]] "Sales" {} =
      .error (.dataTypeMissing "sales_orders" 9) := by
  have hblank : ∀ c ∈ [Cell.text " \t", .empty], c.isBlank = true := by decide +kernel
  have hbuilt : (build [notes, ordersOfType (.text "decimal")] "Sales" {}).isOk = true := by
    decide +kernel
  have hfault : build [notes, ordersOfType .empty] "Sales" {} =
      .error (.dataTypeMissing "sales_orders" 8) := by decide +kernel
  have htable : (ordersOfType .empty).targetTable? (normalFlow "Sales") = some "sales_orders" := by
    decide +kernel
  have hinsert := fun type =>
    build_insertRow (admitsBlank_ordersOfType type) hblank [notes] [] "Sales" {}
  refine ⟨?_, hfault, ?_⟩
  · cases hm : build [notes, ordersOfType (.text "decimal")] "Sales" {} with
    | error r => simp [hm, Except.isOk, Except.toBool] at hbuilt
    | ok m => exact ⟨m, rfl, ((hinsert _).1 m).2 hm⟩
  · refine ((hinsert _).2 _).2 ⟨_, hfault, ?_⟩
    rw [Rejection.mapTableRow, Worksheet.movedTableRow_self htable]
    rfl

end Mapping

end

end Intake
