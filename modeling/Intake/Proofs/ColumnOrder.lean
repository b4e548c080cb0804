import Mathlib.Logic.Equiv.Defs
import Intake.Proofs.BlankRow

/-!
# The order of columns

A section of columns is read by its labels, so the order of its columns does not matter, and neither
does a column under a label that is not known. `Worksheet.sectionRows` are the rows that belong to a
`#SELECT`, the row of headers first, and `Worksheet.replaceSection` puts others in their place.

Cells may be moved if each of them can still be found (`CellsMoved`), and a row of headers must
place each known label where its cells have gone (`LabelsMoved`). Then a row declares what it did
(`LabelsMoved.entry`), hence so does the whole section (`Declaration.readRows_columns`), whatever
rows are above and below it (`Worksheet.declaration?_replaceSection`). A permutation of the columns
and a column that is put in move the cells in this way.
-/

namespace Intake

/-- The labels of the fields of an entry. -/
def knownLabels : List String :=
  ["source_name", "new_name", "description", "data_type", "length", "key", "index", "nullable"]

/-- A cell that makes a row a directive when it is the first one. -/
def Cell.isDirective (c : Cell) : Bool := (Directive.ofRow? [c]).isSome

/-! ## Cells that are moved -/

/-- What a row holds in a column; nothing where it ends. -/
def cellAt (cells : List Cell) (column : Nat) : Cell := (cells[column]?).getD .empty

/-- A row holds in the columns that a map gives what another one held. -/
def CellsMoved (move : Nat → Nat) (cells cells' : List Cell) : Prop :=
  ∀ i, cellAt cells' (move i) = cellAt cells i

/-- A row of headers has the known labels in the columns that a map gives. -/
def LabelsMoved (move : Nat → Nat) (h h' : Header) : Prop :=
  ∀ label ∈ knownLabels, h'.column? label = (h.column? label).map move

/-- A label is a text, so that it is in no column beyond the end of the row. -/
theorem hasLabel_iff {header : List Cell} {label : String} {k : Nat} :
    HasLabel header label k ↔ (cellAt header k).text?.map Text.lower = some label := by
  unfold HasLabel cellAt
  cases header[k]? with
  | none => simp [Cell.text?]
  | some c => simp

namespace Header

theorem cell?_eq_map_cellAt (h : Header) (cells : List Cell) (label : String) :
    h.cell? cells label = (h.column? label).map fun i => (cellAt cells i).trimmed := by
  unfold cell? cellAt
  congr 1
  funext i
  cases cells[i]? <;> rfl

variable {move : Nat → Nat} {header header' : List Cell} {label : String}

/-- A label is found where its cell has gone, when it is in no other column. Where it is there
twice, the last one must stay the last. -/
theorem column?_of_moved (hmoved : CellsMoved move header header')
    (honto : ∀ k, HasLabel header' label k → ∃ i, move i = k)
    (horder : ∀ i j, HasLabel header label i → HasLabel header label j → i ≤ j →
      move i ≤ move j) :
    (ofRow header').column? label = ((ofRow header).column? label).map move := by
  have hlabel : ∀ i, HasLabel header' label (move i) ↔ HasLabel header label i := by
    intro i
    rw [hasLabel_iff, hasLabel_iff, hmoved i]
  cases hcolumn : (ofRow header).column? label with
  | none =>
    have hnone := column?_eq_none_iff.1 hcolumn
    refine column?_eq_none_iff.2 fun k hk => ?_
    obtain ⟨i, rfl⟩ := honto k hk
    exact hnone i ((hlabel i).1 hk)
  | some i =>
    obtain ⟨hi, hlast⟩ := column?_eq_some_iff.1 hcolumn
    refine column?_eq_some_iff.2 ⟨(hlabel i).2 hi, fun k hk => ?_⟩
    obtain ⟨j, rfl⟩ := honto k hk
    have hj := (hlabel j).1 hk
    exact horder j i hj hi (hlast j hj)

end Header

/-- A row declares the same column after its cells have been moved with their labels. -/
theorem LabelsMoved.entry {move : Nat → Nat} {h h' : Header} {cells cells' : List Cell}
    (hlabels : LabelsMoved move h h') (hcells : CellsMoved move cells cells') (row : Nat) :
    h'.entry row cells' = h.entry row cells := by
  have hcell : ∀ label ∈ knownLabels, h'.cell? cells' label = h.cell? cells label := by
    intro label hlabel
    rw [Header.cell?_eq_map_cellAt, Header.cell?_eq_map_cellAt, hlabels label hlabel,
      Option.map_map]
    congr 1
    funext i
    exact congrArg Cell.trimmed (hcells i)
  simp only [knownLabels, List.forall_mem_cons] at hcell
  simp only [Header.entry, hcell]

/-! ## Rows without a directive -/

theorem isDirective_empty : Cell.empty.isDirective = false := by decide +kernel

theorem Directive.ofRow?_eq_none_of_forall {cells : List Cell}
    (h : ∀ c ∈ cells, c.isDirective = false) : ofRow? cells = none := by
  cases cells with
  | nil => decide +kernel
  | cons c rest =>
    have hc := h c (by simp)
    rwa [Cell.isDirective, Option.isSome_eq_false_iff, Option.isNone_iff_eq_none] at hc

/-! ## Runs over a section -/

namespace Declaration

variable {d : Declaration} {row : Nat} {rows rows' below : List (List Cell)}
  {move : Nat → Nat}

/-- Data rows whose cells have been moved with their labels declare the same columns. -/
theorem readRows_columns {h h' : Header} (hlabels : LabelsMoved move h h')
    (hmoved : List.Forall₂ (CellsMoved move) rows rows')
    (hplain : ∀ cells ∈ rows, Directive.ofRow? cells = none)
    (hplain' : ∀ cells ∈ rows', Directive.ofRow? cells = none)
    (hbelow : ∀ cells ∈ below.head?, (Directive.ofRow? cells).isSome) :
    d.readRows (.columns h') row (rows' ++ below) =
      d.readRows (.columns h) row (rows ++ below) := by
  induction hmoved generalizing d row with
  | nil => exact readRows_eq_of_directive _ hbelow
  | cons hcells _ ih =>
    obtain ⟨hfirst, hplain⟩ := List.forall_mem_cons.1 hplain
    obtain ⟨hfirst', hplain'⟩ := List.forall_mem_cons.1 hplain'
    simp only [List.cons_append, readRows, readRow, hfirst, hfirst', hlabels.entry hcells]
    exact ih hplain hplain'

/-- A section whose cells have been moved, headers and data alike, declares the same columns. -/
theorem readRows_section (hmoved : List.Forall₂ (CellsMoved move) rows rows')
    (hlabels : ∀ header ∈ rows.head?, ∀ header' ∈ rows'.head?,
      LabelsMoved move (Header.ofRow header) (Header.ofRow header'))
    (hplain : ∀ cells ∈ rows, Directive.ofRow? cells = none)
    (hplain' : ∀ cells ∈ rows', Directive.ofRow? cells = none)
    (hbelow : ∀ cells ∈ below.head?, (Directive.ofRow? cells).isSome) :
    d.readRows .header row (rows' ++ below) = d.readRows .header row (rows ++ below) := by
  cases hmoved with
  | nil => rfl
  | cons hheader hdata =>
    obtain ⟨hfirst, hplain⟩ := List.forall_mem_cons.1 hplain
    obtain ⟨hfirst', hplain'⟩ := List.forall_mem_cons.1 hplain'
    simp only [List.cons_append, readRows, readRow, hfirst, hfirst']
    exact readRows_columns (hlabels _ rfl _ rfl) hdata hplain hplain' hbelow

end Declaration

/-! ## The section of a directive -/

namespace Worksheet

variable {sheet : Worksheet} {j : Nat}

/-- The rows that belong to the directive in row `j`. -/
def sectionRows (sheet : Worksheet) (j : Nat) : List (List Cell) :=
  (sheet.rows.drop j).takeWhile fun cells => (Directive.ofRow? cells).isNone

/-- The rows from the next directive on. -/
def rowsBelowSection (sheet : Worksheet) (j : Nat) : List (List Cell) :=
  (sheet.rows.drop j).dropWhile fun cells => (Directive.ofRow? cells).isNone

/-- The worksheet with other rows in place of those that belong to the directive in row `j`. -/
def replaceSection (sheet : Worksheet) (j : Nat) (rows : List (List Cell)) : Worksheet :=
  { sheet with rows := sheet.rows.take j ++ (rows ++ sheet.rowsBelowSection j) }

theorem replaceSection_sectionRows (sheet : Worksheet) (j : Nat) :
    sheet.replaceSection j (sheet.sectionRows j) = sheet := by
  rw [replaceSection, sectionRows, rowsBelowSection, List.takeWhile_append_dropWhile,
    List.take_append_drop]

theorem ofRow?_of_mem_sectionRows {cells : List Cell} (h : cells ∈ sheet.sectionRows j) :
    Directive.ofRow? cells = none := by
  have hnone := List.mem_takeWhile_imp h
  exact Option.isNone_iff_eq_none.1 hnone

theorem isSome_ofRow?_rowsBelowSection :
    ∀ cells ∈ (sheet.rowsBelowSection j).head?, (Directive.ofRow? cells).isSome := by
  intro cells hcells
  have hstop := List.head?_dropWhile_not (fun cells => (Directive.ofRow? cells).isNone)
    (sheet.rows.drop j)
  rw [← rowsBelowSection, Option.mem_def.1 hcells] at hstop
  simpa using hstop

/-- Whatever its section is replaced by, a directive is below the first two rows of the worksheet
and above the rows of the section. -/
theorem exists_rows_of_directive? {directive : Directive}
    (h : sheet.directive? j = some directive) :
    ∃ type kind above marker, Directive.ofRow? marker = some directive ∧
      ∀ rows, (sheet.replaceSection j rows).rows =
        type :: kind :: (above ++ marker :: (rows ++ sheet.rowsBelowSection j)) := by
  unfold directive? at h
  split at h
  · simp at h
  · next hj =>
    obtain ⟨marker, hrow, hmarker⟩ := Option.bind_eq_some_iff.1 h
    obtain ⟨k, rfl⟩ : ∃ k, j = k + 3 := ⟨j - 3, by omega⟩
    rw [row?] at hrow
    rcases hrows : sheet.rows with _ | ⟨type, _ | ⟨kind, rest⟩⟩
    · simp [hrows] at hrow
    · simp [hrows] at hrow
    · have hrest : rest[k]? = some marker := by simpa [hrows] using hrow
      refine ⟨type, kind, rest.take k, marker, hmarker, fun rows => ?_⟩
      rw [replaceSection, hrows, List.take_succ_cons, List.take_succ_cons, List.take_add_one,
        hrest]
      simp

theorem cell_replaceSection {directive : Directive} (h : sheet.directive? j = some directive)
    (rows : List (List Cell)) {i : Nat} (hi : i < 2) (column : Nat) :
    (sheet.replaceSection j rows).cell i column = sheet.cell i column := by
  obtain ⟨type, kind, above, marker, -, hrows⟩ := exists_rows_of_directive? h
  have hsheet := hrows (sheet.sectionRows j)
  rw [replaceSection_sectionRows] at hsheet
  rw [cell, cell, hrows, hsheet]
  obtain rfl | rfl : i = 0 ∨ i = 1 := by omega
  · rfl
  · rfl

section Moved

variable {move : Nat → Nat} {rows : List (List Cell)}

/-- A run over all rows, after the cells of a section have been moved with their labels. -/
theorem readRows_replaceSection (h : sheet.directive? j = some .select)
    (hmoved : List.Forall₂ (CellsMoved move) (sheet.sectionRows j) rows)
    (hlabels : ∀ header ∈ (sheet.sectionRows j).head?, ∀ header' ∈ rows.head?,
      LabelsMoved move (Header.ofRow header) (Header.ofRow header'))
    (hplain : ∀ cells ∈ rows, Directive.ofRow? cells = none) :
    (Declaration.blank sheet.title).readRows .start 3
        ((sheet.replaceSection j rows).rows.drop 2) =
      (Declaration.blank sheet.title).readRows .start 3 (sheet.rows.drop 2) := by
  obtain ⟨type, kind, above, marker, hmarker, hrows⟩ := exists_rows_of_directive? h
  have hdrop : ∀ rows, (sheet.replaceSection j rows).rows.drop 2 =
      above ++ marker :: (rows ++ sheet.rowsBelowSection j) := fun rows => by rw [hrows]; rfl
  have hsheet := hdrop (sheet.sectionRows j)
  rw [replaceSection_sectionRows] at hsheet
  rw [hdrop, hsheet]
  -- A run stops above the directive, or the section is what differs.
  obtain ⟨r, hr⟩ | ⟨mode, d, -, -, hrest⟩ :=
    readBelow_start.readRows_append (Nat.le_refl 2) hsheet
  · rw [hr, hr]
  · rw [hrest, hrest]
    simp only [Declaration.readRows, Declaration.readRow, hmarker, Directive.mode]
    exact Declaration.readRows_section hmoved hlabels (fun _ => ofRow?_of_mem_sectionRows) hplain
      isSome_ofRow?_rowsBelowSection

/-- A worksheet declares the same after the cells of a section have been moved with their labels. -/
theorem declaration?_replaceSection (h : sheet.directive? j = some .select)
    (hmoved : List.Forall₂ (CellsMoved move) (sheet.sectionRows j) rows)
    (hlabels : ∀ header ∈ (sheet.sectionRows j).head?, ∀ header' ∈ rows.head?,
      LabelsMoved move (Header.ofRow header) (Header.ofRow header'))
    (hplain : ∀ cells ∈ rows, Directive.ofRow? cells = none) :
    (sheet.replaceSection j rows).declaration? = sheet.declaration? := by
  have hread := readRows_replaceSection h hmoved hlabels hplain
  have htitle : (sheet.replaceSection j rows).title = sheet.title := rfl
  unfold declaration? isIngestion
  rw [cell_replaceSection h rows (by decide), cell_replaceSection h rows (by decide), htitle,
    hread]

end Moved

end Worksheet

/-! ## Columns in another order -/

section Permute

variable {width : Nat} {σ : Equiv.Perm (Fin width)} {header cells : List Cell}

/-- A row that is filled up to a width, with its cells in another order: position `k` takes the cell
of position `σ k`. -/
def permuteCells (σ : Equiv.Perm (Fin width)) (cells : List Cell) : List Cell :=
  List.ofFn fun k => cellAt cells (σ k)

/-- Where a permutation puts the cell of a column. -/
def permutedColumn (σ : Equiv.Perm (Fin width)) (i : Nat) : Nat :=
  if h : i < width then σ.symm ⟨i, h⟩ else i

/-- No two columns have one label. -/
def Header.LabelsApart (h : Header) : Prop := (h.filterMap id).Nodup

instance (h : Header) : Decidable h.LabelsApart :=
  inferInstanceAs (Decidable (h.filterMap id).Nodup)

theorem cellAt_permuteCells (σ : Equiv.Perm (Fin width)) (cells : List Cell) (k : Nat) :
    cellAt (permuteCells σ cells) k =
      if h : k < width then cellAt cells (σ ⟨k, h⟩) else .empty := by
  rw [cellAt, permuteCells, List.getElem?_ofFn]
  split <;> rfl

theorem cellAt_of_length_le {k : Nat} (h : cells.length ≤ k) : cellAt cells k = .empty := by
  rw [cellAt, List.getElem?_eq_none h, Option.getD_none]

theorem cellsMoved_permuteCells (hwidth : cells.length ≤ width) :
    CellsMoved (permutedColumn σ) cells (permuteCells σ cells) := by
  intro i
  rw [cellAt_permuteCells, permutedColumn]
  by_cases hi : i < width
  · simp [hi]
  · simp [hi, cellAt_of_length_le (Nat.le_trans hwidth (Nat.le_of_not_lt hi))]

theorem Header.LabelsApart.unique (h : (ofRow header).LabelsApart) {label : String} {i j : Nat}
    (hi : HasLabel header label i) (hj : HasLabel header label j) : i = j := by
  rw [LabelsApart, List.Nodup, List.pairwise_filterMap, List.pairwise_iff_getElem] at h
  have hlt : ∀ {i j}, HasLabel header label i → HasLabel header label j → ¬ i < j := by
    intro i j hi hj hij
    obtain ⟨hlen, hi⟩ := List.getElem?_eq_some_iff.1 (getElem?_ofRow_eq_iff.2 hi)
    obtain ⟨hlen', hj⟩ := List.getElem?_eq_some_iff.1 (getElem?_ofRow_eq_iff.2 hj)
    exact h i j hlen hlen' hij label hi label hj rfl
  exact Nat.le_antisymm (Nat.le_of_not_lt (hlt hj hi)) (Nat.le_of_not_lt (hlt hi hj))

/-- A permutation of the columns moves every label, if there are no two of one label. -/
theorem labelsMoved_permuteCells (hwidth : header.length ≤ width)
    (hapart : (Header.ofRow header).LabelsApart) :
    LabelsMoved (permutedColumn σ) (Header.ofRow header)
      (Header.ofRow (permuteCells σ header)) := by
  intro label _
  refine Header.column?_of_moved (cellsMoved_permuteCells hwidth) (fun k hk => ?_)
    fun i j hi hj _ => ?_
  · rw [hasLabel_iff, cellAt_permuteCells] at hk
    by_cases hlt : k < width
    · exact ⟨σ ⟨k, hlt⟩, by simp [permutedColumn]⟩
    · simp [hlt, Cell.text?] at hk
  · rw [hapart.unique hi hj]

theorem ofRow?_permuteCells (h : ∀ c ∈ cells, c.isDirective = false) :
    Directive.ofRow? (permuteCells σ cells) = none := by
  refine Directive.ofRow?_eq_none_of_forall fun c hc => ?_
  obtain ⟨k, rfl⟩ := List.mem_ofFn.1 hc
  unfold cellAt
  cases hk : cells[(σ k : Nat)]? with
  | none => exact isDirective_empty
  | some c => exact h c (List.mem_of_getElem? hk)

end Permute

/-! ## A column that is put in -/

section Insert

variable {position : Nat} {c : Cell} {header cells : List Cell}

/-- A row with a cell put in at a position; a shorter row is filled up to it. -/
def insertCell (position : Nat) (c : Cell) (cells : List Cell) : List Cell :=
  (cells.rightpad position .empty).insertIdx position c

/-- Where a column goes when another one is put in at a position. -/
def columnAfterInsert (position i : Nat) : Nat := if i < position then i else i + 1

/-- The label of a cell in a row of headers is not a known one. -/
def Cell.IsUnknownLabel (c : Cell) : Prop :=
  ∀ label ∈ knownLabels, c.text?.map Text.lower ≠ some label

instance (c : Cell) : Decidable c.IsUnknownLabel :=
  inferInstanceAs (Decidable (∀ label ∈ knownLabels, c.text?.map Text.lower ≠ some label))

theorem cellAt_rightpad (cells : List Cell) (width k : Nat) :
    cellAt (cells.rightpad width .empty) k = cellAt cells k := by
  unfold cellAt List.rightpad
  rw [List.getElem?_append]
  split
  · rfl
  · next hk =>
    rw [List.getElem?_eq_none (Nat.le_of_not_lt hk), List.getElem?_replicate]
    split <;> rfl

theorem cellsMoved_insertCell (position : Nat) (c : Cell) (cells : List Cell) :
    CellsMoved (columnAfterInsert position) cells (insertCell position c cells) := by
  intro i
  rw [← cellAt_rightpad cells position i, columnAfterInsert, cellAt, insertCell]
  split
  · next hi => rw [List.getElem?_insertIdx_of_lt hi, cellAt]
  · next hi => rw [List.getElem?_insertIdx_of_gt (by omega), cellAt, Nat.add_sub_cancel]

theorem cellAt_insertCell_self (position : Nat) (c : Cell) (cells : List Cell) :
    cellAt (insertCell position c cells) position = c := by
  have hlength : position ≤ (cells.rightpad position .empty).length := by
    rw [List.length_rightpad]
    exact Nat.le_max_left _ _
  rw [cellAt, insertCell, List.getElem?_insertIdx_self, if_pos hlength]
  rfl

/-- A column that is put in moves every known label, if it has no such label itself. -/
theorem labelsMoved_insertCell (hunknown : c.IsUnknownLabel) :
    LabelsMoved (columnAfterInsert position) (Header.ofRow header)
      (Header.ofRow (insertCell position c header)) := by
  intro label hlabel
  refine Header.column?_of_moved (cellsMoved_insertCell position c header) (fun k hk => ?_)
    fun i j _ _ hij => ?_
  · have hne : k ≠ position := by
      rintro rfl
      rw [hasLabel_iff, cellAt_insertCell_self] at hk
      exact hunknown label hlabel hk
    rcases Nat.lt_or_gt_of_ne hne with hlt | hgt
    · exact ⟨k, if_pos hlt⟩
    · refine ⟨k - 1, ?_⟩
      rw [columnAfterInsert, if_neg (by omega)]
      omega
  · unfold columnAfterInsert
    split <;> split <;> omega

theorem ofRow?_insertCell (h : ∀ x ∈ cells, x.isDirective = false) (hc : c.isDirective = false) :
    Directive.ofRow? (insertCell position c cells) = none := by
  refine Directive.ofRow?_eq_none_of_forall fun x hx => ?_
  rcases List.eq_or_mem_of_mem_insertIdx hx with rfl | hx
  · exact hc
  · rcases List.mem_append.1 hx with hx | hx
    · exact h x hx
    · rw [List.eq_of_mem_replicate hx]
      exact isDirective_empty

end Insert

/-! ## Sections with their columns in another order -/

namespace Worksheet

/-- The columns of a section may be in any order, and others may stand between them.

Below a `#SELECT`, where no cell is a directive, the columns may be permuted if their labels are
apart, headers and data alike, and whatever the width to which rows are filled up. A column may be
put in at any position, under a label that is not known or under none. In either case the worksheet
declares the same, or it is refused for the same reason. -/
theorem declaration?_reorder (sheet : Worksheet) (j : Nat)
    (hselect : sheet.directive? j = some .select)
    (hplain : ∀ cells ∈ sheet.sectionRows j, ∀ c ∈ cells, c.isDirective = false) :
    ((∀ header ∈ (sheet.sectionRows j).head?, (Header.ofRow header).LabelsApart) →
      ∀ (width : Nat) (σ : Equiv.Perm (Fin width)),
        (∀ cells ∈ sheet.sectionRows j, cells.length ≤ width) →
          (sheet.replaceSection j ((sheet.sectionRows j).map (permuteCells σ))).declaration? =
            sheet.declaration?) ∧
    ∀ (position : Nat) (column : List Cell), column.length = (sheet.sectionRows j).length →
      (∀ c ∈ column, c.isDirective = false) → (∀ c ∈ column.head?, c.IsUnknownLabel) →
        (sheet.replaceSection j
          (List.zipWith (insertCell position) column (sheet.sectionRows j))).declaration? =
            sheet.declaration? := by
  refine ⟨fun hapart width σ hwidth => ?permuted,
    fun position column hlength hcells hlabel => ?inserted⟩
  case permuted =>
    have hmoved : List.Forall₂ (CellsMoved (permutedColumn σ)) (sheet.sectionRows j)
        ((sheet.sectionRows j).map (permuteCells σ)) := by
      rw [List.forall₂_map_right_iff, List.forall₂_same]
      exact fun cells hmem => cellsMoved_permuteCells (hwidth cells hmem)
    refine declaration?_replaceSection hselect hmoved ?_ ?_
    · intro header hheader header' hheader'
      rw [List.head?_map, Option.mem_def.1 hheader] at hheader'
      obtain rfl := Option.some.inj hheader'
      exact labelsMoved_permuteCells (hwidth header (List.mem_of_mem_head? hheader))
        (hapart header hheader)
    · intro cells' hmem
      obtain ⟨cells, hcells, rfl⟩ := List.mem_map.1 hmem
      exact ofRow?_permuteCells (hplain cells hcells)
  case inserted =>
    have hmoved : List.Forall₂ (CellsMoved (columnAfterInsert position)) (sheet.sectionRows j)
        (List.zipWith (insertCell position) column (sheet.sectionRows j)) := by
      refine List.forall₂_iff_get.2 ⟨by simp [hlength], fun i hi hi' => ?_⟩
      simp only [List.get_eq_getElem, List.getElem_zipWith]
      exact cellsMoved_insertCell _ _ _
    refine declaration?_replaceSection hselect hmoved ?_ ?_
    · intro header hheader header' hheader'
      rw [List.head?_zipWith, Option.mem_def.1 hheader] at hheader'
      cases hhead : column.head? with
      | none => simp [hhead] at hheader'
      | some c =>
        rw [hhead] at hheader'
        obtain rfl := Option.some.inj hheader'
        exact labelsMoved_insertCell (hlabel c hhead)
    · intro cells hmem
      obtain ⟨i, hi, rfl⟩ := List.mem_iff_getElem.1 hmem
      rw [List.getElem_zipWith]
      exact ofRow?_insertCell (hplain _ (List.getElem_mem _)) (hcells _ (List.getElem_mem _))

/-- A worksheet whose columns are declared under three labels, with rows of different lengths. -/
def orderedColumns : Worksheet :=
  ⟨"Orders", [[.text "TYPE"], [.text "#INGESTION"], [.text "#SELECT"],
    [.text "source_name", .text "new_name", .text "data_type"],
    [.text "ID", .text "id", .text "integer"], [.text "NOTE"], [.text "#CONFIG"],
    [.text "source_table", .text "orders"]]⟩

/-- The first and the last of the columns in each other's place. -/
def swappedColumns : Worksheet :=
  ⟨"Orders", [[.text "TYPE"], [.text "#INGESTION"], [.text "#SELECT"],
    [.text "data_type", .text "new_name", .text "source_name"],
    [.text "integer", .text "id", .text "ID"], [.empty, .empty, .text "NOTE"], [.text "#CONFIG"],
    [.text "source_table", .text "orders"]]⟩

/-- A column of comments beyond the end of a row. -/
def commentedColumns : Worksheet :=
  ⟨"Orders", [[.text "TYPE"], [.text "#INGESTION"], [.text "#SELECT"],
    [.text "source_name", .text "new_name", .text "Comment", .text "data_type"],
    [.text "ID", .text "id", .text "the key", .text "integer"], [.text "NOTE", .empty, .bool true],
    [.text "#CONFIG"], [.text "source_table", .text "orders"]]⟩

theorem declaration?_reorder_orderedColumns :
    (∃ d, orderedColumns.declaration? = .ok (some d) ∧ d.entries.length = 2) ∧
    swappedColumns.declaration? = orderedColumns.declaration? ∧
    commentedColumns.declaration? = orderedColumns.declaration? := by
  have hselect : orderedColumns.directive? 3 = some .select := by decide +kernel
  have hplain : ∀ cells ∈ orderedColumns.sectionRows 3, ∀ c ∈ cells, c.isDirective = false := by
    decide +kernel
  have hapart : ∀ header ∈ (orderedColumns.sectionRows 3).head?,
      (Header.ofRow header).LabelsApart := by decide +kernel
  have hswapped : orderedColumns.replaceSection 3
      ((orderedColumns.sectionRows 3).map (permuteCells (Equiv.swap (0 : Fin 3) 2))) =
        swappedColumns := by decide +kernel
  have hcommented : orderedColumns.replaceSection 3
      (List.zipWith (insertCell 2) [.text "Comment", .text "the key", .bool true]
        (orderedColumns.sectionRows 3)) = commentedColumns := by decide +kernel
  obtain ⟨hpermuted, hinserted⟩ := declaration?_reorder orderedColumns 3 hselect hplain
  refine ⟨?_, ?_, ?_⟩
  · have hok : orderedColumns.declaration?.toOption.map (fun d? => d?.map (·.entries.length)) =
        some (some 2) := by decide +kernel
    obtain ⟨d?, hread, hcount⟩ := exists_of_toOption_map hok
    obtain ⟨d, rfl, hlength⟩ := Option.map_eq_some_iff.1 hcount
    exact ⟨d, hread, hlength⟩
  · rw [← hswapped]
    exact hpermuted hapart 3 _ (by decide +kernel)
  · rw [← hcommented]
    exact hinserted 2 _ (by decide +kernel) (by decide +kernel) (by decide +kernel)

end Worksheet

end Intake
