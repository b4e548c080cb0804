import Intake.Proofs.Worksheet.Grid

/-!
# The bounds of a worksheet

What the reference of an element names is said without reading it (`NamesRow`, `NamesColumn`). An
element without a reference stands after the one before it (`Position`), so that an element has no
place in two cases: its reference names none, or it has none and the element before it stands in
the last place (`Misplaced`). A worksheet part is refused exactly when an element has no place, and
the fault is that of the first such element in document order (`gridOf_eq_error_iff`).

Every other part gives a grid that fits into a worksheet and ends in a row with a value. What is
written on the way, whether the part is refused or not, is written to a place of the array that is
there at that time (`WritesInside`). `gridOf_bounds` is the whole statement.
-/

namespace Intake

open Xml (Node)

/-! ## What references name -/

/-- A text is a decimal integer, a plus sign in front of it allowed. -/
def IsDecimal (s : String) (n : Nat) : Prop :=
  ∃ digits, (s.toList = digits ∨ s.toList = '+' :: digits) ∧ digits ≠ [] ∧
    (∀ c ∈ digits, isDigit c) ∧ digitsValue digits = n

/-- The reference of a row element names a row of a worksheet, counted from zero. -/
def NamesRow (reference : String) (i : Nat) : Prop :=
  IsDecimal (Text.trim reference) (i + 1) ∧ i < maxRows

/-- The reference of a cell element names a column of a worksheet, counted from zero. -/
def NamesColumn (reference : String) (j : Nat) : Prop :=
  reference.toList.takeWhile Char.isAlpha ≠ [] ∧
    columnNumber (reference.toList.takeWhile Char.isAlpha) = j + 1 ∧ j < maxColumns

/-- The digits of a decimal integer are what follows its sign. -/
theorem isDecimal_iff {n : Nat} {s : String} {rest : List Char}
    (h : s.toList = '+' :: rest ∨ s.toList = rest ∧ ∀ cs, rest ≠ '+' :: cs) :
    IsDecimal s n ↔ rest ≠ [] ∧ (∀ c ∈ rest, isDigit c) ∧ digitsValue rest = n := by
  constructor
  · rintro ⟨digits, hs, hne, hdigits, hvalue⟩
    obtain rfl : rest = digits := by
      rcases h with h | ⟨h, hplain⟩ <;> rcases hs with hs | hs
      · exact absurd (hdigits '+' (by simp [← hs, h])) (by decide)
      · exact (List.cons.inj (h.symm.trans hs)).2
      · exact h.symm.trans hs
      · exact absurd (h.symm.trans hs) (hplain digits)
    exact ⟨hne, hdigits, hvalue⟩
  · rintro ⟨hne, hdigits, hvalue⟩
    exact ⟨rest, h.elim .inr fun h => .inl h.1, hne, hdigits, hvalue⟩

theorem readNat?_eq_some_iff {bound n : Nat} {s : String} :
    readNat? bound s = some n ↔ IsDecimal s n ∧ n < bound := by
  obtain ⟨rest, hrest, hread⟩ : ∃ rest,
      (s.toList = '+' :: rest ∨ s.toList = rest ∧ ∀ cs, rest ≠ '+' :: cs) ∧
      readNat? bound s = if rest.isEmpty || !rest.all isDigit then none
        else (some (digitsValue rest)).filter (· < bound) := by
    unfold readNat?
    split
    · next rest hs => exact ⟨rest, .inl hs, rfl⟩
    · next hs => exact ⟨_, .inr ⟨rfl, hs⟩, rfl⟩
  rw [hread, isDecimal_iff hrest]
  by_cases hdigits : rest ≠ [] ∧ ∀ c ∈ rest, isDigit c
  · obtain ⟨hne, hall⟩ := id hdigits
    rw [if_neg (by simpa using hdigits), Option.filter_eq_some_iff, Option.some.injEq,
      decide_eq_true_eq]
    exact ⟨fun h => ⟨⟨hne, hall, h.1⟩, h.2⟩, fun h => ⟨h.1.2.2, h.2⟩⟩
  · rw [if_pos (by simpa [imp_iff_not_or] using hdigits)]
    exact iff_of_false nofun fun h => hdigits ⟨h.1.1, h.1.2.1⟩

theorem rowIndex?_eq_some_iff {reference : String} {i : Nat} :
    rowIndex? reference = some i ↔ NamesRow reference i := by
  have hwithin : maxRows < twoPow 64 := by decide
  simp only [rowIndex?, NamesRow, Option.map_eq_some_iff, Option.filter_eq_some_iff,
    readNat?_eq_some_iff, Bool.and_eq_true, decide_eq_true_eq]
  constructor
  · rintro ⟨r, ⟨⟨hr, -⟩, hone, hmax⟩, rfl⟩
    rw [Nat.sub_add_cancel hone]
    exact ⟨hr, by omega⟩
  · rintro ⟨hr, hi⟩
    exact ⟨i + 1, ⟨⟨hr, by omega⟩, by omega, by omega⟩, rfl⟩

theorem columnIndex?_eq_some_iff_namesColumn {reference : String} {j : Nat} :
    columnIndex? reference = some j ↔ NamesColumn reference j := by
  rw [columnIndex?_eq_some_iff, NamesColumn]
  tauto

/-- The last column of a worksheet. -/
example : columnNumber "XFD".toList = maxColumns := by decide

/-! ## Elements without a place -/

/-- Element `k` of a list stands in place `i`: that of its reference, or else the one after that of
the element before. -/
inductive Position (names : String → Nat → Prop) (ns : List Node) : (k i : Nat) → Prop
  | named {n : Node} {reference : String} {k i : Nat} (hn : ns[k]? = some n)
    (hr : n.attribute? "r" = some reference) (hi : names reference i) : Position names ns k i
  | first {n : Node} (hn : ns[0]? = some n) (hr : n.attribute? "r" = none) : Position names ns 0 0
  | next {n : Node} {k i : Nat} (hn : ns[k + 1]? = some n) (hr : n.attribute? "r" = none)
    (hi : Position names ns k i) : Position names ns (k + 1) (i + 1)

/-- Element `k` of a list has no place below a bound. With its reference, if there is one. -/
inductive Misplaced (names : String → Nat → Prop) (bound : Nat) (ns : List Node) :
    (k : Nat) → Option String → Prop
  | unnamed {n : Node} {reference : String} {k : Nat} (hn : ns[k]? = some n)
    (hr : n.attribute? "r" = some reference) (hnone : ∀ i, ¬ names reference i) :
    Misplaced names bound ns k (some reference)
  | beyond {n : Node} {k i : Nat} (hn : ns[k + 1]? = some n) (hr : n.attribute? "r" = none)
    (hi : Position names ns k i) (hlast : i + 1 = bound) : Misplaced names bound ns (k + 1) none

/-- The place after the first `k` elements of a list, all of which stand below a bound. -/
inductive NextPlace (names : String → Nat → Prop) (bound : Nat) (ns : List Node) :
    (k next : Nat) → Prop
  | start : NextPlace names bound ns 0 0
  | after {k i : Nat} (hi : Position names ns k i) (hbound : i < bound) :
    NextPlace names bound ns (k + 1) (i + 1)

/-- The fault of a row element without a place. -/
def rowFault (part : String) : Option String → WorkbookFault
  | some reference => .rowReferenceInvalid part reference
  | none => .rowsTooMany part

/-- The fault of a cell element without a place, in a row counted from zero. -/
def cellFault (part : String) (row : Nat) : Option String → WorkbookFault
  | some reference => .cellReferenceInvalid part reference
  | none => .cellsTooMany part (row + 1)

/-- The first of the faults that elements of a list have. -/
def IsFirst (fault : Nat → WorkbookFault → Prop) (e : WorkbookFault) : Prop :=
  ∃ k, fault k e ∧ ∀ k' < k, ∀ e', ¬ fault k' e'

/-- Cell element `k` of a row has no place. -/
def CellFault (part : String) (row : Nat) (ns : List Node) (k : Nat) (e : WorkbookFault) : Prop :=
  ∃ reference?, Misplaced NamesColumn maxColumns ns k reference? ∧ e = cellFault part row reference?

/-- Row element `k` of a worksheet has no place, or a cell element of it has none. -/
inductive RowFault (part : String) (ns : List Node) (k : Nat) : WorkbookFault → Prop
  | misplaced {reference? : Option String} (h : Misplaced NamesRow maxRows ns k reference?) :
    RowFault part ns k (rowFault part reference?)
  | cells {n : Node} {i : Nat} {e : WorkbookFault} (hn : ns[k]? = some n)
    (hi : Position NamesRow ns k i) (hbound : i < maxRows)
    (he : IsFirst (CellFault part i (n.childrenNamed "c")) e) : RowFault part ns k e

section Misplaced

variable {names : String → Nat → Prop} {index? : String → Option Nat} {bound : Nat}
  {ns : List Node} {n : Node} {k i j next : Nat}

theorem Position.unique (hnames : ∀ r i, index? r = some i ↔ names r i)
    (h : Position names ns k i) (h' : Position names ns k j) : i = j := by
  induction h generalizing j with
  | named hn hr hi =>
    cases h' with
    | named hn' hr' hj =>
      cases hn.symm.trans hn'
      cases hr.symm.trans hr'
      exact Option.some.inj (((hnames _ _).2 hi).symm.trans ((hnames _ _).2 hj))
    | first hn' hr' =>
      cases hn.symm.trans hn'
      cases hr.symm.trans hr'
    | next hn' hr' =>
      cases hn.symm.trans hn'
      cases hr.symm.trans hr'
  | first hn hr =>
    cases h' with
    | named hn' hr' =>
      cases hn.symm.trans hn'
      cases hr.symm.trans hr'
    | first => rfl
  | next hn hr _ ih =>
    cases h' with
    | named hn' hr' =>
      cases hn.symm.trans hn'
      cases hr.symm.trans hr'
    | next _ _ hj => rw [ih hj]

/-- An element without a place is there, and the reference is its own. -/
theorem Misplaced.attribute?_eq {reference? : Option String}
    (h : Misplaced names bound ns k reference?) :
    ∃ n, ns[k]? = some n ∧ n.attribute? "r" = reference? := by
  cases h with
  | unnamed hn hr => exact ⟨_, hn, hr⟩
  | beyond hn hr => exact ⟨_, hn, hr⟩

theorem Misplaced.unique {a b : Option String} (h : Misplaced names bound ns k a)
    (h' : Misplaced names bound ns k b) : a = b := by
  obtain ⟨n, hn, rfl⟩ := h.attribute?_eq
  obtain ⟨n', hn', rfl⟩ := h'.attribute?_eq
  cases hn.symm.trans hn'
  rfl

/-- An element that stands below the bound has a place. -/
theorem Position.not_misplaced (hnames : ∀ r i, index? r = some i ↔ names r i)
    (h : Position names ns k i) (hbound : i < bound) (reference? : Option String) :
    ¬ Misplaced names bound ns k reference? := by
  intro hmisplaced
  cases hmisplaced with
  | unnamed hn hr hnone =>
    cases h with
    | named hn' hr' hi =>
      cases hn.symm.trans hn'
      cases hr.symm.trans hr'
      exact hnone i hi
    | first hn' hr' =>
      cases hn.symm.trans hn'
      cases hr.symm.trans hr'
    | next hn' hr' =>
      cases hn.symm.trans hn'
      cases hr.symm.trans hr'
  | beyond hn hr hj hlast =>
    have hnext := h.unique hnames (.next hn hr hj)
    omega

/-- Below a list of elements with places the next element has none, or it stands where it is put. -/
theorem NextPlace.misplaced_or_position (hnames : ∀ r i, index? r = some i ↔ names r i)
    (hwithin : ∀ r i, names r i → i < bound) (hpos : 0 < bound)
    (h : NextPlace names bound ns k next) (hn : ns[k]? = some n) :
    (∃ reference, n.attribute? "r" = some reference ∧ index? reference = none ∧
      Misplaced names bound ns k (some reference)) ∨
    (n.attribute? "r" = none ∧ bound ≤ next ∧ Misplaced names bound ns k none) ∨
    ∃ i, StandsAt index? next n i ∧ i < bound ∧ Position names ns k i := by
  cases hr : n.attribute? "r" with
  | some reference =>
    cases hi : index? reference with
    | none =>
      refine .inl ⟨reference, rfl, hi, .unnamed hn hr fun i hname => ?_⟩
      rw [← hnames, hi] at hname
      cases hname
    | some i =>
      have hname := (hnames reference i).1 hi
      refine .inr (.inr ⟨i, ?_, hwithin _ _ hname, .named hn hr hname⟩)
      rw [StandsAt, hr]
      exact hi
  | none =>
    have hstands : StandsAt index? next n next := by rw [StandsAt, hr]
    cases h with
    | start => exact .inr (.inr ⟨0, hstands, hpos, .first hn hr⟩)
    | after hi hbound =>
      rcases Nat.lt_or_ge (_ + 1) bound with hlt | hge
      · exact .inr (.inr ⟨_, hstands, hlt, .next hn hr hi⟩)
      · exact .inr (.inl ⟨rfl, hge, .beyond hn hr hi (by omega)⟩)

end Misplaced

/-! ## First faults -/

section IsFirst

variable {fault : Nat → WorkbookFault → Prop} {k : Nat} {e e₀ : WorkbookFault}

/-- Below elements without a fault, an element with one fault only has the first. -/
theorem isFirst_iff_eq (hclear : ∀ k' < k, ∀ e', ¬ fault k' e') (h : fault k e₀)
    (hunique : ∀ e, fault k e → e = e₀) : IsFirst fault e ↔ e = e₀ := by
  constructor
  · rintro ⟨k', he, hbefore⟩
    rcases Nat.lt_trichotomy k' k with hlt | rfl | hlt
    · exact absurd he (hclear k' hlt e)
    · exact hunique e he
    · exact absurd h (hbefore k hlt e₀)
  · rintro rfl
    exact ⟨k, h, hclear⟩

theorem exists_isFirst_iff : (∃ e, IsFirst fault e) ↔ ∃ k e, fault k e := by
  constructor
  · rintro ⟨e, k, he, -⟩
    exact ⟨k, e, he⟩
  · rintro ⟨k, hk⟩
    induction k using Nat.strongRecOn with
    | ind k ih =>
      obtain ⟨e, he⟩ := hk
      by_cases hbefore : ∃ k' < k, ∃ e', fault k' e'
      · obtain ⟨k', hlt, hk'⟩ := hbefore
        exact ih k' hlt hk'
      · exact ⟨e, k, he, fun k' hlt e' he' => hbefore ⟨k', hlt, e', he'⟩⟩

end IsFirst

/-! ## Refused parts -/

variable {part : String} {shared : Array String} {root n : Node} {ns rest : List Node}
  {next i k : Nat} {e : WorkbookFault}

theorem getElem?_of_drop_eq_cons (h : ns.drop k = n :: rest) :
    ns[k]? = some n ∧ ns.drop (k + 1) = rest := by
  constructor
  · rw [← List.head?_drop, h, List.head?_cons]
  · rw [← List.tail_drop, h, List.tail_cons]

theorem CellFault.lt_length {row : Nat} (h : CellFault part row ns k e) : k < ns.length := by
  obtain ⟨reference?, hmisplaced, -⟩ := h
  obtain ⟨n, hn, -⟩ := hmisplaced.attribute?_eq
  exact (List.getElem?_eq_some_iff.1 hn).1

theorem RowFault.lt_length (h : RowFault part ns k e) : k < ns.length := by
  cases h with
  | misplaced hmisplaced =>
    obtain ⟨n, hn, -⟩ := hmisplaced.attribute?_eq
    exact (List.getElem?_eq_some_iff.1 hn).1
  | cells hn => exact (List.getElem?_eq_some_iff.1 hn).1

theorem cellFault_unique {row : Nat} {reference? : Option String}
    (h : Misplaced NamesColumn maxColumns ns k reference?) (e : WorkbookFault)
    (he : CellFault part row ns k e) : e = cellFault part row reference? := by
  obtain ⟨reference?, hmisplaced, rfl⟩ := he
  rw [hmisplaced.unique h]

/-- A run over cell elements stops at the first that has no place. -/
theorem placeCells_eq_error_iff {row : Nat} {value : Node → Cell} {cells : Array Cell}
    (hnext : NextPlace NamesColumn maxColumns ns k next) (hrest : ns.drop k = rest)
    (hclear : ∀ k' < k, ∀ e', ¬ CellFault part row ns k' e') :
    placeCells part row value cells next rest = .error e ↔ IsFirst (CellFault part row ns) e := by
  have hnames : ∀ r j, columnIndex? r = some j ↔ NamesColumn r j :=
    fun _ _ => columnIndex?_eq_some_iff_namesColumn
  -- The elements before are counted by `k`, and none of them is at fault.
  induction rest generalizing cells next k with
  | nil =>
    have hlength := List.drop_eq_nil_iff.1 hrest
    refine iff_of_false nofun ?_
    rintro ⟨k', he, -⟩
    exact hclear k' (Nat.lt_of_lt_of_le he.lt_length hlength) e he
  | cons n rest ih =>
    obtain ⟨hn, hrest⟩ := getElem?_of_drop_eq_cons hrest
    rw [placeCells, bind_eq_error_iff]
    rcases hnext.misplaced_or_position hnames (fun _ _ h => h.2.2) (by decide) hn with
      ⟨reference, hr, hnone, hmisplaced⟩ | ⟨hr, hbeyond, hmisplaced⟩ | ⟨j, hj, hbound, hposition⟩
    · rw [isFirst_iff_eq hclear ⟨_, hmisplaced, rfl⟩ (cellFault_unique hmisplaced), columnOf, hr]
      simp [hnone, cellFault, eq_comm]
    · rw [isFirst_iff_eq hclear ⟨_, hmisplaced, rfl⟩ (cellFault_unique hmisplaced), columnOf, hr]
      simp [hbeyond, cellFault, eq_comm]
    · rw [columnOf_eq_ok_iff.2 hj]
      have hfault : ∀ e', ¬ CellFault part row ns k e' := by
        rintro e' ⟨reference?, hmisplaced, -⟩
        exact hposition.not_misplaced hnames hbound _ hmisplaced
      simp [hbound.not_ge, ih (.after hposition hbound) hrest
        (Nat.forall_lt_succ_right.2 ⟨hclear, hfault⟩)]

theorem rowFault_unique {reference? : Option String}
    (h : Misplaced NamesRow maxRows ns k reference?) (e : WorkbookFault)
    (he : RowFault part ns k e) : e = rowFault part reference? := by
  cases he with
  | misplaced hmisplaced => rw [hmisplaced.unique h]
  | cells _ hi hbound _ =>
    exact absurd h (hi.not_misplaced (fun _ _ => rowIndex?_eq_some_iff) hbound _)

/-- A row element that stands in a worksheet has the faults of its cell elements. -/
theorem rowFault_iff_of_position (hn : ns[k]? = some n) (hi : Position NamesRow ns k i)
    (hbound : i < maxRows) :
    RowFault part ns k e ↔ IsFirst (CellFault part i (n.childrenNamed "c")) e := by
  have hnames : ∀ r i, rowIndex? r = some i ↔ NamesRow r i := fun _ _ => rowIndex?_eq_some_iff
  constructor
  · intro h
    cases h with
    | misplaced hmisplaced => exact absurd hmisplaced (hi.not_misplaced hnames hbound _)
    | cells hn' hi' _ he =>
      cases hn.symm.trans hn'
      cases hi.unique hnames hi'
      exact he
  · exact .cells hn hi hbound

/-- A run over row elements stops at the first that has no place or holds a cell element without
one. -/
theorem placeRows_eq_error_iff {rows : Array (List Cell)} {found : List (Bool × Node)}
    (hnext : NextPlace NamesRow maxRows ns k next) (hrest : ns.drop k = found.map Prod.snd)
    (hclear : ∀ k' < k, ∀ e', ¬ RowFault part ns k' e') :
    placeRows part shared rows next found = .error e ↔ IsFirst (RowFault part ns) e := by
  induction found generalizing rows next k with
  | nil =>
    have hlength := List.drop_eq_nil_iff.1 hrest
    refine iff_of_false (by simp [placeRows]) ?_
    rintro ⟨k', he, -⟩
    exact hclear k' (Nat.lt_of_lt_of_le he.lt_length hlength) e he
  | cons f found ih =>
    obtain ⟨phonetic, n⟩ := f
    obtain ⟨hn, hrest⟩ := getElem?_of_drop_eq_cons hrest
    rw [placeRows, bind_eq_error_iff]
    rcases hnext.misplaced_or_position (fun _ _ => rowIndex?_eq_some_iff) (fun _ _ h => h.2)
      (by decide) hn with
      ⟨reference, hr, hnone, hmisplaced⟩ | ⟨hr, hbeyond, hmisplaced⟩ | ⟨i, hi, hbound, hposition⟩
    · rw [isFirst_iff_eq hclear (.misplaced hmisplaced) (rowFault_unique hmisplaced), rowOf, hr]
      simp [hnone, rowFault, eq_comm]
    · rw [isFirst_iff_eq hclear (.misplaced hmisplaced) (rowFault_unique hmisplaced), rowOf, hr]
      simp [hbeyond, rowFault, eq_comm]
    · have hcells : ∀ {e}, placeCells part i (cellOf shared phonetic) #[] 0
          (n.childrenNamed "c") = .error e ↔ RowFault part ns k e := by
        intro e
        rw [rowFault_iff_of_position hn hposition hbound]
        exact placeCells_eq_error_iff .start rfl fun _ hlt => absurd hlt (Nat.not_lt_zero _)
      rw [rowOf_eq_ok_iff.2 hi]
      simp only [reduceCtorEq, false_or, Except.ok.injEq, exists_eq_left', hbound.not_ge, if_false]
      cases hrow : placeCells part i (cellOf shared phonetic) #[] 0 (n.childrenNamed "c") with
      | error e₀ =>
        rw [error_bind, Except.error.injEq, isFirst_iff_eq hclear (hcells.1 hrow), eq_comm]
        intro e he
        exact (Except.error.inj (hrow.symm.trans (hcells.2 he))).symm
      | ok cells =>
        rw [ok_bind]
        have hfault : ∀ e', ¬ RowFault part ns k e' := fun e' he' =>
          absurd (hrow.symm.trans (hcells.2 he')) (by simp)
        exact ih (.after hposition hbound) hrest
          (Nat.forall_lt_succ_right.2 ⟨hclear, hfault⟩)

/-- The row elements of a worksheet part, in document order. -/
def rowNodes (root : Node) : List Node := (rowElements false root).map Prod.snd

/-- The fault of a worksheet part is that of its first row element with one. -/
theorem gridOf_eq_error_iff :
    gridOf part shared root = .error e ↔ IsFirst (RowFault part (rowNodes root)) e := by
  rw [gridOf, map_eq_error_iff]
  exact placeRows_eq_error_iff .start rfl fun _ hlt => absurd hlt (Nat.not_lt_zero _)

/-- The elements of a list have places up to `k`, or one of them has none. -/
theorem exists_misplaced_or_nextPlace {names : String → Nat → Prop}
    {index? : String → Option Nat} {bound : Nat} (hnames : ∀ r i, index? r = some i ↔ names r i)
    (hwithin : ∀ r i, names r i → i < bound) (hpos : 0 < bound) (hk : k ≤ ns.length) :
    (∃ k' reference?, Misplaced names bound ns k' reference?) ∨
      ∃ next, NextPlace names bound ns k next := by
  induction k with
  | zero => exact .inr ⟨0, .start⟩
  | succ k ih =>
    have hn : ns[k]? = some ns[k] := List.getElem?_eq_getElem hk
    rcases ih (Nat.le_of_succ_le hk) with hmisplaced | ⟨next, hnext⟩
    · exact .inl hmisplaced
    · rcases hnext.misplaced_or_position hnames hwithin hpos hn with
        ⟨reference, -, -, hmisplaced⟩ | ⟨-, -, hmisplaced⟩ | ⟨i, -, hbound, hposition⟩
      · exact .inl ⟨k, _, hmisplaced⟩
      · exact .inl ⟨k, _, hmisplaced⟩
      · exact .inr ⟨i + 1, .after hposition hbound⟩

/-- A list of row elements has a fault when an element in it has no place. -/
theorem exists_rowFault_iff : (∃ k e, RowFault part ns k e) ↔
    (∃ k reference?, Misplaced NamesRow maxRows ns k reference?) ∨
      ∃ n ∈ ns, ∃ k reference?,
        Misplaced NamesColumn maxColumns (n.childrenNamed "c") k reference? := by
  constructor
  · rintro ⟨k, e, hmisplaced | ⟨hn, -, -, k', ⟨reference?, hmisplaced, -⟩, -⟩⟩
    · exact .inl ⟨k, _, hmisplaced⟩
    · exact .inr ⟨_, List.mem_of_getElem? hn, k', _, hmisplaced⟩
  · rintro (⟨k, reference?, hmisplaced⟩ | ⟨n, hmem, k', reference?, hmisplaced⟩)
    · exact ⟨k, _, .misplaced hmisplaced⟩
    · obtain ⟨k, hk, hn⟩ := List.mem_iff_getElem.1 hmem
      have hn : ns[k]? = some n := List.getElem?_eq_some_iff.2 ⟨hk, hn⟩
      -- The row element itself may have no place, which is a fault as well.
      have hnames : ∀ r i, rowIndex? r = some i ↔ NamesRow r i := fun _ _ => rowIndex?_eq_some_iff
      rcases exists_misplaced_or_nextPlace hnames (fun _ _ h => h.2) (by decide) hk with
        ⟨k₀, reference?, hrow⟩ | ⟨_, hnext⟩
      · exact ⟨k₀, _, .misplaced hrow⟩
      · cases hnext with
        | @after _ i hi hbound =>
          obtain ⟨e, he⟩ : ∃ e, IsFirst (CellFault part i (n.childrenNamed "c")) e :=
            exists_isFirst_iff.2 ⟨k', _, reference?, hmisplaced, rfl⟩
          exact ⟨k, e, .cells hn hi hbound he⟩

/-! ## Grids within the bounds -/

section Writes

variable {α β : Type} {filler x : α} {xs : Array α} {value : β → α} {placed : List (Nat × β)}
  {bound : Nat}

theorem size_placeAt : (placeAt filler xs i x).size = max xs.size (i + 1) := by
  rw [placeAt, Array.size_setIfInBounds, Array.size_append, Array.size_replicate]
  omega

/-- A value is put to a place that is there. -/
theorem getElem?_placeAt_self : (placeAt filler xs i x)[i]? = some x := by
  have hsize : i < (xs ++ Array.replicate (i + 1 - xs.size) filler).size := by
    rw [Array.size_append, Array.size_replicate]
    omega
  rw [placeAt, Array.getElem?_setIfInBounds_self_of_lt hsize]

theorem mem_placeAt {y : α} (h : y ∈ placeAt filler xs i x) : y ∈ xs ∨ y = filler ∨ y = x := by
  rcases Array.mem_or_eq_of_mem_setIfInBounds h with hmem | rfl
  · rcases Array.mem_append.1 hmem with hxs | hnew
    · exact .inl hxs
    · exact .inr (.inl (Array.mem_replicate.1 hnew).2)
  · exact .inr (.inr rfl)

theorem size_placeAll_le (hxs : xs.size ≤ bound) (h : ∀ p ∈ placed, p.1 < bound) :
    (placeAll filler value xs placed).size ≤ bound := by
  induction placed generalizing xs with
  | nil => exact hxs
  | cons p rest ih =>
    obtain ⟨hp, hrest⟩ := List.forall_mem_cons.1 h
    rw [placeAll, List.foldl_cons, ← placeAll]
    refine ih ?_ hrest
    rw [size_placeAt]
    omega

/-- What holds of the filler and of all values holds of all that is in the array. -/
theorem forall_mem_placeAll {P : α → Prop} (hfiller : P filler) (hxs : ∀ y ∈ xs, P y)
    (hvalue : ∀ p ∈ placed, P (value p.2)) : ∀ y ∈ placeAll filler value xs placed, P y := by
  induction placed generalizing xs with
  | nil => exact hxs
  | cons p rest ih =>
    obtain ⟨hp, hrest⟩ := List.forall_mem_cons.1 hvalue
    rw [placeAll, List.foldl_cons, ← placeAll]
    refine ih (fun y hy => ?_) hrest
    rcases mem_placeAt hy with hy | rfl | rfl
    · exact hxs y hy
    · exact hfiller
    · exact hp

/-- Each value is put to a place below a bound that is there at that time. -/
def WritesInside (filler : α) (value : β → α) (bound : Nat) (placed : List (Nat × β)) : Prop :=
  ∀ before p after, placed = before ++ p :: after → p.1 < bound ∧
    (placeAll filler value #[] (before ++ [p])).size ≤ bound ∧
    (placeAll filler value #[] (before ++ [p]))[p.1]? = some (value p.2)

theorem writesInside_of_forall_lt (h : ∀ p ∈ placed, p.1 < bound) :
    WritesInside filler value bound placed := by
  rintro before p after rfl
  refine ⟨h p (by simp), size_placeAll_le (Nat.zero_le _) fun q hq => h q ?_, ?_⟩
  · simp only [List.mem_append, List.mem_cons, List.mem_nil_iff, or_false] at hq ⊢
    exact hq.imp_right .inl
  · rw [placeAll, List.foldl_append, List.foldl_cons, List.foldl_nil, getElem?_placeAt_self]

theorem Places.forall_lt {element : β → Node} {index? : String → Option Nat}
    (h : Places element index? bound next placed) : ∀ p ∈ placed, p.1 < bound := by
  induction h with
  | nil => exact nofun
  | cons _ hbound _ ih => exact List.forall_mem_cons.2 ⟨hbound, ih⟩

end Writes

theorem Row.length_contents_le (row : Row) : (row.contents shared).length ≤ maxColumns := by
  rw [contents, Array.length_toList]
  exact size_placeAll_le (Nat.zero_le _) row.places.forall_lt

theorem length_dropBlankEnd_le (rows : List (List Cell)) :
    (dropBlankEnd rows).length ≤ rows.length := by
  obtain ⟨dropped, hrows, -⟩ := exists_eq_dropBlankEnd_append rows
  conv_rhs => rw [hrows]
  rw [List.length_append]
  exact Nat.le_add_right _ _

theorem mem_of_mem_dropBlankEnd {rows : List (List Cell)} {cells : List Cell}
    (h : cells ∈ dropBlankEnd rows) : cells ∈ rows := by
  obtain ⟨dropped, hrows, -⟩ := exists_eq_dropBlankEnd_append rows
  rw [hrows]
  exact List.mem_append_left _ h

/-- The last row that is left holds a value. -/
theorem exists_not_isBlank_of_getLast? {rows : List (List Cell)} {cells : List Cell}
    (h : (dropBlankEnd rows).getLast? = some cells) : ∃ c ∈ cells, c.isBlank = false := by
  have hlast := List.head?_dropWhile_not (fun cells => cells.all Cell.isBlank) rows.reverse
  rw [dropBlankEnd, List.getLast?_reverse] at h
  rw [h] at hlast
  simpa using hlast

/-- The grid of a part fits into a worksheet, and its last row holds a value. -/
theorem fits_of_gridOf {rows : List (List Cell)} (h : gridOf part shared root = .ok rows) :
    rows.length ≤ maxRows ∧ (∀ cells ∈ rows, cells.length ≤ maxColumns) ∧
      ∀ cells ∈ rows.getLast?, ∃ c ∈ cells, c.isBlank = false := by
  obtain ⟨placed, hplaced, rfl⟩ := gridOf_eq_ok_iff.1 h
  refine ⟨?_, fun cells hcells => ?_, fun cells => exists_not_isBlank_of_getLast?⟩
  · refine (length_dropBlankEnd_le _).trans ?_
    rw [Array.length_toList]
    exact size_placeAll_le (Nat.zero_le _) hplaced.places.forall_lt
  · have hrows : ∀ cells ∈ placeAll [] (Row.contents shared) #[] placed,
        cells.length ≤ maxColumns :=
      forall_mem_placeAll (Nat.zero_le _) (by simp) fun p _ => p.2.length_contents_le
    exact hrows cells (Array.mem_toList_iff.1 (mem_of_mem_dropBlankEnd hcells))

/-- A worksheet part gives a grid that fits into a worksheet and ends in a row with a value, and all
that is written on the way is written inside of the worksheet. A part is refused exactly when the
reference of a row element names no row, or there is none and the row element before stands in the
last row, or when the same is true of a cell element and its column; and its fault is that of the
first such element in document order. -/
theorem gridOf_bounds (part : String) (shared : Array String) (root : Node) :
    (∀ rows, gridOf part shared root = .ok rows →
      rows.length ≤ maxRows ∧ (∀ cells ∈ rows, cells.length ≤ maxColumns) ∧
        ∀ cells ∈ rows.getLast?, ∃ c ∈ cells, c.isBlank = false) ∧
    (∀ placed, Places Row.element rowIndex? maxRows 0 placed →
      placed.map (·.2.element) <+: rowNodes root →
      WritesInside [] (Row.contents shared) maxRows placed) ∧
    (∀ found ∈ rowElements false root, ∀ cells, Places id columnIndex? maxColumns 0 cells →
      cells.map Prod.snd <+: found.2.childrenNamed "c" →
      WritesInside .empty (cellOf shared found.1) maxColumns cells) ∧
    ((∃ e, gridOf part shared root = .error e) ↔
      (∃ k reference?, Misplaced NamesRow maxRows (rowNodes root) k reference?) ∨
        ∃ n ∈ rowNodes root, ∃ k reference?,
          Misplaced NamesColumn maxColumns (n.childrenNamed "c") k reference?) ∧
    ∀ e, gridOf part shared root = .error e ↔ IsFirst (RowFault part (rowNodes root)) e := by
  refine ⟨fun rows => fits_of_gridOf, fun placed hplaces _ => writesInside_of_forall_lt
    hplaces.forall_lt, fun found _ cells hplaces _ => writesInside_of_forall_lt hplaces.forall_lt,
    ?_, fun e => gridOf_eq_error_iff⟩
  simp only [gridOf_eq_error_iff]
  rw [exists_isFirst_iff, exists_rowFault_iff]

/-- A worksheet part with a row element after one in the last row. -/
def overfullPart : Node := .element "s" [] [rowElement (some "1048576") [], rowElement none []]

/-- A part with rows and cells in another order than that of their places fits, and one with a row
after the last is refused for it. -/
theorem gridOf_bounds_overfullPart :
    (∃ rows, gridOf "xl/s" #[] crossedPart = .ok rows ∧ rows.length ≤ maxRows ∧
      ∀ cells ∈ rows, cells.length ≤ maxColumns) ∧
    WritesInside [] (Row.contents #[]) maxRows crossedRows ∧
    Misplaced NamesRow maxRows (rowNodes overfullPart) 1 none ∧
    gridOf "xl/s" #[] overfullPart = .error (.rowsTooMany "xl/s") := by
  have hrows : (gridOf "xl/s" #[] crossedPart).toOption =
      some [[.empty, .text "z"], [.text "w"], [.text "y", .empty, .text "x"]] := by
    decide +kernel
  have hgrid := toOption_eq_some_iff.1 hrows
  have hnodes : crossedRows.map (·.2.element) <+: rowNodes crossedPart := List.prefix_rfl
  have hlast : Position NamesRow (rowNodes overfullPart) 0 1048575 :=
    .named rfl rfl (rowIndex?_eq_some_iff.1 (by decide +kernel))
  have hmisplaced : Misplaced NamesRow maxRows (rowNodes overfullPart) 1 none :=
    .beyond rfl rfl hlast rfl
  obtain ⟨hfits, hwrites, -⟩ := gridOf_bounds "xl/s" #[] crossedPart
  obtain ⟨-, -, -, -, hfault⟩ := gridOf_bounds "xl/s" #[] overfullPart
  refine ⟨⟨_, hgrid, (hfits _ hgrid).1, (hfits _ hgrid).2.1⟩,
    hwrites _ placedIn_crossedPart.places hnodes, hmisplaced,
    (hfault _).2 ⟨1, .misplaced hmisplaced, fun k hk e he => ?_⟩⟩
  obtain rfl := Nat.lt_one_iff.1 hk
  cases he with
  | misplaced h => exact hlast.not_misplaced (fun _ _ => rowIndex?_eq_some_iff) (by decide) _ h
  | cells hn _ _ hfirst =>
    -- the first row element has no cells that could be at fault
    cases hn
    obtain ⟨k, hcell, -⟩ := hfirst
    exact absurd hcell.lt_length (Nat.not_lt_zero k)

end Intake
