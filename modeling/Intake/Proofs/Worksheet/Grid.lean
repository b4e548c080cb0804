import Mathlib.Data.List.Basic
import Mathlib.Data.List.TakeWhile
import Intake.Proofs.KeyMap
import Intake.Proofs.Outcome
import Intake.Proofs.Worksheet.Reference
import Intake.Worksheet
import Intake.Worksheet.Grid

/-!
# Where the cells of a worksheet stand

Row elements stand in rows and cell elements in columns, each at its reference or else after the one
before (`Places`, `PlacedIn`). The grid of a part is what they leave when they are put there one
after the other (`gridOf_eq_ok_iff`): in each cell a worksheet shows the last cell element in this
column of the last row element in this row, and nothing where there is none (`gridOf_places`).
Blank rows at the end are left out, which takes away blank values only (`shows_dropBlankEnd`).

Only the column in the reference of a cell element counts. So every cell element is shown where its
reference says when its row element stands in the row of the reference and no other one takes its
place (`Undisturbed`, `showsReferenced_of_undisturbed`). Otherwise it may be elsewhere or nowhere:
the row of a reference is not read, and a row element takes the place of all that was in its row
(`misplacesCells_moved_lost`).
-/

namespace Intake

open Xml (Node)

/-! ## Writing to arrays -/

section Placing

variable {α β : Type} {filler x : α} {xs : Array α} {i j : Nat}

theorem getD_placeAt : (placeAt filler xs i x)[j]?.getD filler =
    if i = j then x else xs[j]?.getD filler := by
  rw [placeAt, Array.getElem?_setIfInBounds]
  split
  · next hj =>
    subst hj
    have hsize : i < (xs ++ Array.replicate (i + 1 - xs.size) filler).size := by
      rw [Array.size_append, Array.size_replicate]
      omega
    rw [if_pos hsize, Option.getD_some]
  · rw [Array.getElem?_append]
    split
    · rfl
    · next hj =>
      rw [Array.getElem?_replicate, Array.getElem?_eq_none (Nat.not_lt.1 hj), Option.getD_none]
      split <;> rfl

/-- Puts the values of items at their places, one after the other. -/
def placeAll (filler : α) (value : β → α) (xs : Array α) (placed : List (Nat × β)) : Array α :=
  placed.foldl (fun xs p => placeAt filler xs p.1 (value p.2)) xs

variable {value : β → α} {placed : List (Nat × β)} {b : β}

/-- A place where nothing is put is as before. -/
theorem getD_placeAll_of_forall_ne (h : ∀ p ∈ placed, p.1 ≠ i) :
    (placeAll filler value xs placed)[i]?.getD filler = xs[i]?.getD filler := by
  induction placed generalizing xs with
  | nil => rfl
  | cons p rest ih =>
    obtain ⟨hp, hrest⟩ := List.forall_mem_cons.1 h
    rw [placeAll, List.foldl_cons, ← placeAll, ih hrest, getD_placeAt, if_neg hp]

/-- Each place holds what was put there last. -/
theorem getD_placeAll_of_isLast (h : IsLast i b placed) :
    (placeAll filler value xs placed)[i]?.getD filler = value b := by
  obtain ⟨before, after, rfl, hafter⟩ := h
  rw [placeAll, List.foldl_append, List.foldl_cons, ← placeAll, ← placeAll,
    getD_placeAll_of_forall_ne hafter, getD_placeAt, if_pos rfl]

end Placing

/-! ## Places -/

/-- An element stands at the place of its reference, or without one at the next place. -/
def StandsAt (index? : String → Option Nat) (next : Nat) (n : Node) (i : Nat) : Prop :=
  match n.attribute? "r" with
  | some reference => index? reference = some i
  | none => i = next

instance {index? : String → Option Nat} {next i : Nat} {n : Node} :
    Decidable (StandsAt index? next n i) :=
  match h : n.attribute? "r" with
  | some reference => decidable_of_iff (index? reference = some i) (by rw [StandsAt, h])
  | none => decidable_of_iff (i = next) (by rw [StandsAt, h])

/-- Items stand at the places of their elements, from the next one on and below a bound. -/
inductive Places {α : Type} (element : α → Node) (index? : String → Option Nat) (bound : Nat) :
    (next : Nat) → List (Nat × α) → Prop
  | nil {next : Nat} : Places element index? bound next []
  | cons {next i : Nat} {a : α} {placed : List (Nat × α)} (hi : StandsAt index? next (element a) i)
    (hbound : i < bound) (hrest : Places element index? bound (i + 1) placed) :
    Places element index? bound next ((i, a) :: placed)

variable {part : String} {shared : Array String} {root n : Node} {next i j row : Nat}

theorem columnOf_eq_ok_iff : columnOf part next n = .ok i ↔ StandsAt columnIndex? next n i := by
  rw [columnOf, StandsAt]
  cases n.attribute? "r" with
  | none => simp [eq_comm]
  | some reference =>
    dsimp only
    cases columnIndex? reference <;> simp

theorem rowOf_eq_ok_iff : rowOf part next n = .ok i ↔ StandsAt rowIndex? next n i := by
  rw [rowOf, StandsAt]
  cases n.attribute? "r" with
  | none => simp [eq_comm]
  | some reference =>
    dsimp only
    cases rowIndex? reference <;> simp

theorem StandsAt.unique {index? : String → Option Nat} (h : StandsAt index? next n i)
    (h' : StandsAt index? next n j) : i = j := by
  rw [StandsAt] at h h'
  cases hr : n.attribute? "r" with
  | none =>
    rw [hr] at h h'
    exact h.trans h'.symm
  | some reference =>
    rw [hr] at h h'
    exact Option.some.inj (h.symm.trans h')

section Places

variable {α : Type} {element : α → Node} {index? : String → Option Nat} {bound : Nat} {a : α}
  {placed placed' : List (Nat × α)}

/-- There is only one way for items to stand at their places. -/
theorem Places.unique (h : Places element index? bound next placed)
    (h' : Places element index? bound next placed')
    (hitems : placed.map Prod.snd = placed'.map Prod.snd) : placed = placed' := by
  induction h generalizing placed' with
  | nil => exact (List.map_eq_nil_iff.1 hitems.symm).symm
  | cons hi _ _ ih =>
    cases h' with
    | nil => cases hitems
    | cons hi' _ hrest' =>
      obtain ⟨rfl, hrest⟩ := List.cons.inj hitems
      cases hi.unique hi'
      rw [ih hrest' hrest]

theorem Places.exists_standsAt (h : Places element index? bound next placed)
    (hmem : (i, a) ∈ placed) : ∃ next, StandsAt index? next (element a) i := by
  induction h with
  | nil => cases hmem
  | @cons next i' a' rest hi _ _ ih =>
    rcases List.mem_cons.1 hmem with heq | hmem
    · cases heq
      exact ⟨next, hi⟩
    · exact ih hmem

end Places

/-! ## Cells of a row -/

theorem placeCells_eq_ok_iff {value : Node → Cell} {cells cells' : Array Cell} {ns : List Node} :
    placeCells part row value cells next ns = .ok cells' ↔ ∃ placed : List (Nat × Node),
      placed.map Prod.snd = ns ∧ Places id columnIndex? maxColumns next placed ∧
        placeAll .empty value cells placed = cells' := by
  -- What was placed before is in the array, so that both the array and the next column vary.
  induction ns generalizing cells next with
  | nil =>
    rw [placeCells, Except.ok.injEq]
    constructor
    · rintro rfl
      exact ⟨[], rfl, .nil, rfl⟩
    · rintro ⟨placed, hplaced, -, hcells⟩
      cases List.map_eq_nil_iff.1 hplaced
      exact hcells
  | cons n rest ih =>
    simp only [placeCells, bind_eq_ok_iff, columnOf_eq_ok_iff]
    constructor
    · rintro ⟨i, hi, h⟩
      split at h
      · cases h
      · next hbound =>
        obtain ⟨placed, rfl, hplaces, hcells⟩ := ih.1 h
        exact ⟨(i, n) :: placed, rfl, .cons hi (Nat.not_le.1 hbound) hplaces, hcells⟩
    · rintro ⟨placed, hplaced, hplaces, hcells⟩
      cases hplaces with
      | nil => cases hplaced
      | @cons _ i a placed hi hbound hrest =>
        cases hplaced
        refine ⟨i, hi, ?_⟩
        rw [if_neg (Nat.not_le.2 hbound)]
        exact ih.2 ⟨placed, rfl, hrest, hcells⟩

/-- A row element with its cells at their columns. -/
structure Row where
  phonetic : Bool
  element : Node
  cells : List (Nat × Node)
  map_cells : cells.map Prod.snd = element.childrenNamed "c"
  places : Places id columnIndex? maxColumns 0 cells

namespace Row

/-- The row element as it is found in a part. -/
def found (row : Row) : Bool × Node := (row.phonetic, row.element)

/-- The contents of a row by columns. -/
def contents (shared : Array String) (row : Row) : List Cell :=
  (placeAll .empty (cellOf shared row.phonetic) #[] row.cells).toList

end Row

/-! ## Rows of a worksheet -/

theorem placeRows_eq_ok_iff {rows rows' : Array (List Cell)} {found : List (Bool × Node)} :
    placeRows part shared rows next found = .ok rows' ↔ ∃ placed : List (Nat × Row),
      placed.map (·.2.found) = found ∧ Places Row.element rowIndex? maxRows next placed ∧
        placeAll [] (Row.contents shared) rows placed = rows' := by
  induction found generalizing rows next with
  | nil =>
    rw [placeRows, Except.ok.injEq]
    constructor
    · rintro rfl
      exact ⟨[], rfl, .nil, rfl⟩
    · rintro ⟨placed, hplaced, -, hrows⟩
      cases List.map_eq_nil_iff.1 hplaced
      exact hrows
  | cons e rest ih =>
    obtain ⟨phonetic, n⟩ := e
    simp only [placeRows, bind_eq_ok_iff, rowOf_eq_ok_iff]
    constructor
    · rintro ⟨i, hi, h⟩
      split at h
      · cases h
      · next hbound =>
        obtain ⟨cells, hcells, h⟩ := bind_eq_ok_iff.1 h
        obtain ⟨columns, hcolumns, hplaces, rfl⟩ := placeCells_eq_ok_iff.1 hcells
        obtain ⟨placed, rfl, hrest, hrows⟩ := ih.1 h
        exact ⟨(i, ⟨phonetic, n, columns, hcolumns, hplaces⟩) :: placed, rfl,
          .cons hi (Nat.not_le.1 hbound) hrest, hrows⟩
    · rintro ⟨placed, hplaced, hplaces, hrows⟩
      cases hplaces with
      | nil => cases hplaced
      | @cons _ i row placed hi hbound hrest =>
        cases hplaced
        refine ⟨i, hi, ?_⟩
        rw [if_neg (Nat.not_le.2 hbound)]
        exact bind_eq_ok_iff.2 ⟨_,
          placeCells_eq_ok_iff.2 ⟨row.cells, row.map_cells, row.places, rfl⟩,
          ih.2 ⟨placed, rfl, hrest, hrows⟩⟩

/-- The row elements of a worksheet part with the rows where they stand. -/
structure PlacedIn (root : Node) (placed : List (Nat × Row)) : Prop where
  map_placed : placed.map (·.2.found) = rowElements false root
  places : Places Row.element rowIndex? maxRows 0 placed

theorem Row.found_injective : Function.Injective Row.found := by
  rintro ⟨phonetic, n, cells, hcells, hplaces⟩ ⟨_, _, cells', hcells', hplaces'⟩ hfound
  obtain ⟨rfl, rfl⟩ := Prod.mk.inj hfound
  obtain rfl : cells = cells' := hplaces.unique hplaces' (hcells.trans hcells'.symm)
  rfl

theorem PlacedIn.unique {placed placed' : List (Nat × Row)} (h : PlacedIn root placed)
    (h' : PlacedIn root placed') : placed = placed' := by
  refine h.places.unique h'.places (List.map_injective_iff.2 Row.found_injective ?_)
  rw [List.map_map, List.map_map]
  exact h.map_placed.trans h'.map_placed.symm

theorem gridOf_eq_ok_iff {rows : List (List Cell)} :
    gridOf part shared root = .ok rows ↔ ∃ placed, PlacedIn root placed ∧
      dropBlankEnd (placeAll [] (Row.contents shared) #[] placed).toList = rows := by
  simp only [gridOf, map_eq_ok_iff, placeRows_eq_ok_iff]
  constructor
  · rintro ⟨_, ⟨placed, hfound, hplaces, rfl⟩, hrows⟩
    exact ⟨placed, ⟨hfound, hplaces⟩, hrows⟩
  · rintro ⟨placed, ⟨hfound, hplaces⟩, hrows⟩
    exact ⟨_, ⟨placed, hfound, hplaces, rfl⟩, hrows⟩

/-! ## What a worksheet shows -/

namespace Worksheet

/-- A worksheet shows a value in a cell. Past its last row it shows those values that are blank. -/
structure Shows (sheet : Worksheet) (i j : Nat) (value : Cell) : Prop where
  cell_eq : i < sheet.rows.length → sheet.cell i j = value
  isBlank : sheet.rows.length ≤ i → value.isBlank

theorem cell_eq_getD (sheet : Worksheet) (i j : Nat) :
    sheet.cell i j = (sheet.rows[i]?.getD [])[j]?.getD .empty := by
  rw [cell]
  cases sheet.rows[i]? <;> rfl

end Worksheet

theorem exists_eq_dropBlankEnd_append (rows : List (List Cell)) :
    ∃ dropped, rows = dropBlankEnd rows ++ dropped ∧
      ∀ cells ∈ dropped, ∀ cell ∈ cells, cell.isBlank := by
  refine ⟨(rows.reverse.takeWhile fun cells => cells.all Cell.isBlank).reverse, ?_, ?_⟩
  · rw [dropBlankEnd, ← List.reverse_append, List.takeWhile_append_dropWhile, List.reverse_reverse]
  · intro cells hcells
    have hblank := List.mem_takeWhile_imp (List.mem_reverse.1 hcells)
    exact List.all_eq_true.1 hblank

/-- Dropping the rows at the end takes away blank values only. -/
theorem shows_dropBlankEnd (title : String) (rows : List (List Cell)) (i j : Nat) :
    (Worksheet.mk title (dropBlankEnd rows)).Shows i j ((Worksheet.mk title rows).cell i j) := by
  obtain ⟨dropped, hrows, hdropped⟩ := exists_eq_dropBlankEnd_append rows
  have hrow : rows[i]? = (dropBlankEnd rows ++ dropped)[i]? := by rw [← hrows]
  constructor
  · intro hi
    rw [Worksheet.cell, Worksheet.cell, hrow, List.getElem?_append_left hi]
  · intro hi
    rw [Worksheet.cell, hrow, List.getElem?_append_right hi]
    cases hcells : dropped[i - (dropBlankEnd rows).length]? with
    | none => rfl
    | some cells =>
      rw [Option.bind_some]
      cases hcell : cells[j]? with
      | none => rfl
      | some cell =>
        exact hdropped cells (List.mem_of_getElem? hcells) cell (List.mem_of_getElem? hcell)

/-! ## Cells at their references -/

variable {rows : List (List Cell)} {placed : List (Nat × Row)}

theorem Row.getD_contents_of_isLast {row : Row} {cell : Node} (h : IsLast j cell row.cells) :
    (row.contents shared)[j]?.getD .empty = cellOf shared row.phonetic cell := by
  rw [contents, Array.getElem?_toList, getD_placeAll_of_isLast h]

theorem Row.getD_contents_of_forall_ne {row : Row} (h : ∀ c ∈ row.cells, c.1 ≠ j) :
    (row.contents shared)[j]?.getD .empty = .empty := by
  rw [contents, Array.getElem?_toList, getD_placeAll_of_forall_ne h]
  rfl

/-- Every cell element with a reference is shown where the reference says. -/
def ShowsReferenced (shared : Array String) (root : Node) (sheet : Worksheet) : Prop :=
  ∀ found ∈ rowElements false root, ∀ cell ∈ found.2.childrenNamed "c", ∀ reference row column,
    cell.attribute? "r" = some reference → IsReference reference (row + 1) (column + 1) →
    sheet.Shows row column (cellOf shared found.1 cell)

/-- Nothing takes the place of anything else, and the rows stand where the references of their cells
say. -/
structure Undisturbed (placed : List (Nat × Row)) : Prop where
  rows : (placed.map Prod.fst).Nodup
  cells : ∀ p ∈ placed, (p.2.cells.map Prod.fst).Nodup
  agrees : ∀ p ∈ placed, ∀ c ∈ p.2.cells, ∀ reference row column,
    c.2.attribute? "r" = some reference → IsReference reference row column → row = p.1 + 1

/-- A grid shows in each cell the value of the row elements that are placed. -/
theorem shows_of_gridOf (h : gridOf part shared root = .ok rows) (hplaced : PlacedIn root placed)
    (title : String) (i j : Nat) : (Worksheet.mk title rows).Shows i j
      (((placeAll [] (Row.contents shared) #[] placed)[i]?.getD [])[j]?.getD .empty) := by
  -- The grid comes from some way to place the row elements, and there is no other one.
  obtain ⟨placed', hplaced', rfl⟩ := gridOf_eq_ok_iff.1 h
  cases hplaced.unique hplaced'
  have hcell : (Worksheet.mk title (placeAll [] (Row.contents shared) #[] placed).toList).cell i j =
      ((placeAll [] (Row.contents shared) #[] placed)[i]?.getD [])[j]?.getD .empty := by
    rw [← Array.getElem?_toList, Worksheet.cell_eq_getD]
  rw [← hcell]
  exact shows_dropBlankEnd title _ i j

theorem shows_of_isLast {row : Row} {cell : Node} (h : gridOf part shared root = .ok rows)
    (hplaced : PlacedIn root placed) (hrow : IsLast i row placed) (hcell : IsLast j cell row.cells)
    (title : String) :
    (Worksheet.mk title rows).Shows i j (cellOf shared row.phonetic cell) := by
  have hshows := shows_of_gridOf h hplaced title i j
  rwa [getD_placeAll_of_isLast hrow, Row.getD_contents_of_isLast hcell] at hshows

/-- The column of a cell element is that of its reference. -/
theorem Row.column_eq {row : Row} {cell : Node} {reference : String} {r c : Nat}
    (hmem : (j, cell) ∈ row.cells) (hr : cell.attribute? "r" = some reference)
    (hreference : IsReference reference r c) : c = j + 1 := by
  obtain ⟨next, hstands⟩ := row.places.exists_standsAt hmem
  rw [StandsAt, id, hr] at hstands
  exact ((columnIndex?_of_isReference hreference).1 hstands).2

theorem showsReferenced_of_undisturbed (h : gridOf part shared root = .ok rows)
    (hplaced : PlacedIn root placed) (hundisturbed : Undisturbed placed) (title : String) :
    ShowsReferenced shared root ⟨title, rows⟩ := by
  intro found hfound cell hcell reference r c hr hreference
  rw [← hplaced.map_placed] at hfound
  obtain ⟨⟨i, row⟩, hrow, rfl⟩ := List.mem_map.1 hfound
  rw [Row.found, ← row.map_cells] at hcell
  obtain ⟨⟨j, cell⟩, hcolumn, rfl⟩ := List.mem_map.1 hcell
  obtain rfl : r = i :=
    Nat.succ.inj (hundisturbed.agrees _ hrow _ hcolumn reference (r + 1) (c + 1) hr hreference)
  obtain rfl : c = j := Nat.succ.inj (row.column_eq hcolumn hr hreference)
  exact shows_of_isLast h hplaced (.of_mem_of_nodup hrow hundisturbed.rows)
    (.of_mem_of_nodup hcolumn (hundisturbed.cells _ hrow)) title

/-- In each cell a worksheet shows the value of the last cell element in this column of the last row
element that stands in this row, and nothing where there is none. The column of a cell element is
that of its reference. So every cell element with a reference is shown where this says, when the
rows agree with it and nothing takes the place of anything else. -/
theorem gridOf_places (h : gridOf part shared root = .ok rows) (title : String) :
    (∃ placed, PlacedIn root placed) ∧ ∀ placed, PlacedIn root placed →
      (∀ i row, IsLast i row placed →
        (∀ j cell, IsLast j cell row.cells →
          (Worksheet.mk title rows).Shows i j (cellOf shared row.phonetic cell)) ∧
        (∀ j, (∀ c ∈ row.cells, c.1 ≠ j) → (Worksheet.mk title rows).Shows i j .empty)) ∧
      (∀ i, (∀ p ∈ placed, p.1 ≠ i) → ∀ j, (Worksheet.mk title rows).Shows i j .empty) ∧
      (∀ p ∈ placed, ∀ c ∈ p.2.cells, ∀ reference row column,
        c.2.attribute? "r" = some reference → IsReference reference row column →
        column = c.1 + 1) ∧
      (Undisturbed placed → ShowsReferenced shared root ⟨title, rows⟩) := by
  obtain ⟨placed, hplaced, -⟩ := gridOf_eq_ok_iff.1 h
  refine ⟨⟨placed, hplaced⟩, fun placed hplaced => ⟨fun i row hrow => ⟨fun j cell hcell =>
    shows_of_isLast h hplaced hrow hcell title, fun j hnone => ?_⟩, fun i hnone j => ?_,
    fun p hp c hc reference r column hr hreference => p.2.column_eq hc hr hreference,
    fun hundisturbed => showsReferenced_of_undisturbed h hplaced hundisturbed title⟩⟩
  · have hshows := shows_of_gridOf h hplaced title i j
    rwa [getD_placeAll_of_isLast hrow, Row.getD_contents_of_forall_ne hnone] at hshows
  · have hshows := shows_of_gridOf h hplaced title i j
    rwa [getD_placeAll_of_forall_ne hnone] at hshows

/-! ## A worksheet in another order -/

/-- The attribute of an element with a reference. -/
def referenceAttribute (reference : String) : Xml.Attribute := ⟨none, "r", reference⟩

/-- A cell element with a reference and a text. -/
def textElement (reference text : String) : Node :=
  .element "c" [referenceAttribute reference, ⟨none, "t", "str"⟩] [.element "v" [] [.text text]]

/-- A row element with or without a reference. -/
def rowElement (reference? : Option String) (cells : List Node) : Node :=
  .element "row" (reference?.map referenceAttribute).toList cells

/-- A worksheet part whose rows and cells come in another order than that of their places. -/
def crossedPart : Node :=
  .element "s" [] [rowElement (some "3") [textElement "C3" "x", textElement "A3" "y"],
    rowElement (some "1") [textElement "B1" "z"], rowElement none [textElement "A2" "w"]]

/-- The row elements of this part where they stand. -/
def crossedRows : List (Nat × Row) :=
  [(2, ⟨false, rowElement (some "3") [textElement "C3" "x", textElement "A3" "y"],
      [(2, textElement "C3" "x"), (0, textElement "A3" "y")], rfl,
      .cons (by decide +kernel) (by decide) (.cons (by decide +kernel) (by decide) .nil)⟩),
    (0, ⟨false, rowElement (some "1") [textElement "B1" "z"], [(1, textElement "B1" "z")], rfl,
      .cons (by decide +kernel) (by decide) .nil⟩),
    (1, ⟨false, rowElement none [textElement "A2" "w"], [(0, textElement "A2" "w")], rfl,
      .cons (by decide +kernel) (by decide) .nil⟩)]

theorem placedIn_crossedPart : PlacedIn crossedPart crossedRows where
  map_placed := rfl
  places := .cons (by decide +kernel) (by decide)
    (.cons (by decide +kernel) (by decide) (.cons (by decide +kernel) (by decide) .nil))

theorem undisturbed_crossedRows : Undisturbed crossedRows where
  rows := by decide
  cells := by decide
  agrees := by
    have hall : ∀ p ∈ crossedRows, ∀ c ∈ p.2.cells, ∀ reference ∈ c.2.attribute? "r",
        digitsValue (reference.toList.dropWhile Char.isAlpha) = p.1 + 1 := by
      decide +kernel
    intro p hp c hc reference row column hr hreference
    obtain ⟨-, -, -, -, rfl⟩ := isReference_iff.1 hreference
    exact hall p hp c hc reference hr

theorem gridOf_places_crossedPart : ∃ rows, gridOf "xl/s" #[] crossedPart = .ok rows ∧
    rows = [[.empty, .text "z"], [.text "w"], [.text "y", .empty, .text "x"]] ∧
    ShowsReferenced #[] crossedPart ⟨"Orders", rows⟩ := by
  have hrows : (gridOf "xl/s" #[] crossedPart).toOption =
      some [[.empty, .text "z"], [.text "w"], [.text "y", .empty, .text "x"]] := by
    decide +kernel
  have hgrid := toOption_eq_some_iff.1 hrows
  exact ⟨_, hgrid, rfl, ((gridOf_places hgrid "Orders").2 _ placedIn_crossedPart).2.2.2
    undisturbed_crossedRows⟩

/-! ## Cells that are moved or lost -/

/-- The references of the cell elements of a worksheet part. -/
def cellReferences (root : Node) : List String :=
  (rowElements false root).flatMap fun found =>
    (found.2.childrenNamed "c").filterMap fun cell => cell.attribute? "r"

/-- No reference of a worksheet part is there twice, but not every cell element is shown where its
reference says. -/
def MisplacesCells (root : Node) : Prop :=
  (cellReferences root).Nodup ∧
    ∃ rows, gridOf "xl/s" #[] root = .ok rows ∧ ¬ ShowsReferenced #[] root ⟨"Orders", rows⟩

/-- A worksheet part with a cell in another row than that of its row element. -/
def movedPart : Node := .element "s" [] [rowElement none [textElement "A2" "x"]]

/-- A worksheet part with two row elements for the same row. -/
def lostPart : Node :=
  .element "s" [] [rowElement (some "1") [textElement "A1" "x"],
    rowElement (some "1") [textElement "B1" "y"]]

/-- A cell is moved when its row element stands elsewhere, and lost when another row element takes
the place of its own. -/
theorem misplacesCells_moved_lost : MisplacesCells movedPart ∧ MisplacesCells lostPart := by
  have hmoved : (gridOf "xl/s" #[] movedPart).toOption = some [[.text "x"]] := by decide +kernel
  have hlost : (gridOf "xl/s" #[] lostPart).toOption = some [[.empty, .text "y"]] := by
    decide +kernel
  refine ⟨⟨by decide +kernel, _, toOption_eq_some_iff.1 hmoved, fun hshows => ?_⟩,
    ⟨by decide +kernel, _, toOption_eq_some_iff.1 hlost, fun hshows => ?_⟩⟩
  · have hcell := hshows (false, rowElement none [textElement "A2" "x"]) (.head _)
      (textElement "A2" "x") (.head _) "A2" 1 0 (by decide +kernel) (by decide +kernel)
    exact absurd (hcell.isBlank (by decide)) (by decide +kernel)
  · have hcell := hshows (false, rowElement (some "1") [textElement "A1" "x"]) (.head _)
      (textElement "A1" "x") (.head _) "A1" 0 0 (by decide +kernel) (by decide +kernel)
    exact absurd (hcell.cell_eq (by decide)) (by decide +kernel)

end Intake
