import Intake.Worksheet.Reference

/-!
# What the references of cells mean

The letters that a reference begins with spell the column in base twenty-six, where the letters have
the values from one to twenty-six (`columnNumber`). The column is read exactly when a worksheet has
one with this number (`columnIndex?_eq_some_iff`). Nothing after the letters matters, so that the
row in a reference is not read (`columnIndex?_of_isReference`).
-/

namespace Intake

/-- The number that letters spell after those read before. -/
def columnNumberFrom (number : Nat) (letters : List Char) : Nat :=
  letters.foldl (fun number c => 26 * number + letterValue c) number

/-- The number of the column that letters spell, counted from one. -/
def columnNumber (letters : List Char) : Nat := columnNumberFrom 0 letters

theorem le_columnNumberFrom (number : Nat) (letters : List Char) :
    number ≤ columnNumberFrom number letters := by
  induction letters generalizing number with
  | nil => exact Nat.le_refl number
  | cons c cs ih =>
    have hstep : number ≤ 26 * number + letterValue c := by omega
    exact Nat.le_trans hstep (ih _)

theorem columnNumberFrom?_eq_some_iff {number n : Nat} {letters : List Char}
    (h : number ≤ maxColumns) : columnNumberFrom? number letters = some n ↔
      n ≤ maxColumns ∧ columnNumberFrom number letters = n := by
  induction letters generalizing number with
  | nil =>
    rw [columnNumberFrom?, Option.some.injEq, columnNumberFrom, List.foldl_nil]
    omega
  | cons c cs ih =>
    have hstep : columnNumberFrom number (c :: cs) =
        columnNumberFrom (26 * number + letterValue c) cs := rfl
    rw [columnNumberFrom?, hstep]
    split
    · next hover =>
      -- The number only grows, so that it stays beyond the last column.
      have hgrows := le_columnNumberFrom (26 * number + letterValue c) cs
      refine iff_of_false nofun ?_
      omega
    · next hwithin => exact ih (Nat.not_lt.1 hwithin)

theorem columnNumber_pos {letters : List Char} (h : letters ≠ []) : 0 < columnNumber letters := by
  cases letters with
  | nil => contradiction
  | cons c cs =>
    have hfirst : 0 < 26 * 0 + letterValue c := by simp [letterValue]
    exact Nat.lt_of_lt_of_le hfirst (le_columnNumberFrom _ cs)

/-- The column of a reference is the one whose number its letters spell. -/
theorem columnIndex?_eq_some_iff {reference : String} {i : Nat} :
    columnIndex? reference = some i ↔ i < maxColumns ∧
      reference.toList.takeWhile Char.isAlpha ≠ [] ∧
      columnNumber (reference.toList.takeWhile Char.isAlpha) = i + 1 := by
  rw [columnIndex?]
  generalize reference.toList.takeWhile Char.isAlpha = letters
  cases letters with
  | nil => simp
  | cons c cs =>
    have hpos := columnNumber_pos (List.cons_ne_nil c cs)
    simp only [List.isEmpty_cons, Bool.false_eq_true, if_false, Option.map_eq_some_iff,
      columnNumberFrom?_eq_some_iff (Nat.zero_le maxColumns)]
    rw [columnNumber] at hpos ⊢
    constructor
    · rintro ⟨number, ⟨hwithin, hnumber⟩, rfl⟩
      exact ⟨by omega, List.cons_ne_nil c cs, by omega⟩
    · rintro ⟨hi, -, hnumber⟩
      exact ⟨i + 1, ⟨hi, hnumber⟩, rfl⟩

/-- A reference names a row and a column, both counted from one: letters that spell the column and
then digits that spell the row. -/
def IsReference (reference : String) (row column : Nat) : Prop :=
  ∃ letters digits, reference.toList = letters ++ digits ∧ letters ≠ [] ∧ digits ≠ [] ∧
    (∀ c ∈ letters, c.isAlpha) ∧ (∀ c ∈ digits, isDigit c) ∧
    columnNumber letters = column ∧ digitsValue digits = row

theorem isAlpha_eq_false_of_isDigit {c : Char} (h : isDigit c) : c.isAlpha = false := by
  have hdigit : c.val ≤ '9'.val := of_decide_eq_true (Bool.and_eq_true_iff.1 h).2
  have hupper : ¬ ('A'.val ≤ c.val ∧ c.val ≤ 'Z'.val) := fun hletter =>
    absurd (UInt32.le_trans hletter.1 hdigit) (by decide)
  have hlower : ¬ 'a'.val ≤ c.val := fun hletter =>
    absurd (UInt32.le_trans hletter hdigit) (by decide)
  exact Bool.or_eq_false_iff.2
    ⟨decide_eq_false hupper, Bool.and_eq_false_iff.2 (.inl (decide_eq_false hlower))⟩

/-- The letters and the digits of a reference are known. -/
theorem isReference_iff {reference : String} {row column : Nat} :
    IsReference reference row column ↔
      reference.toList.takeWhile Char.isAlpha ≠ [] ∧ reference.toList.dropWhile Char.isAlpha ≠ [] ∧
        (reference.toList.dropWhile Char.isAlpha).all isDigit ∧
        columnNumber (reference.toList.takeWhile Char.isAlpha) = column ∧
        digitsValue (reference.toList.dropWhile Char.isAlpha) = row := by
  constructor
  · rintro ⟨letters, digits, hreference, hletters, hdigits, halpha, hdigit, hcolumn, hrow⟩
    obtain ⟨d, ds, rfl⟩ := List.exists_cons_of_ne_nil hdigits
    have hd : ¬ d.isAlpha := by simp [isAlpha_eq_false_of_isDigit (hdigit d (by simp))]
    have htake : reference.toList.takeWhile Char.isAlpha = letters := by
      rw [hreference, List.takeWhile_append_of_pos halpha, List.takeWhile_cons_of_neg hd,
        List.append_nil]
    have hdrop : reference.toList.dropWhile Char.isAlpha = d :: ds := by
      rw [hreference, List.dropWhile_append_of_pos halpha, List.dropWhile_cons_of_neg hd]
    rw [htake, hdrop]
    exact ⟨hletters, hdigits, List.all_eq_true.2 hdigit, hcolumn, hrow⟩
  · rintro ⟨hletters, hdigits, hdigit, hcolumn, hrow⟩
    exact ⟨_, _, List.takeWhile_append_dropWhile.symm, hletters, hdigits,
      List.all_eq_true.1 List.all_takeWhile, List.all_eq_true.1 hdigit, hcolumn, hrow⟩

instance {reference : String} {row column : Nat} : Decidable (IsReference reference row column) :=
  decidable_of_iff' _ isReference_iff

/-- The column of a reference is read, whatever its row is. -/
theorem columnIndex?_of_isReference {reference : String} {row column i : Nat}
    (h : IsReference reference row column) :
    columnIndex? reference = some i ↔ i < maxColumns ∧ column = i + 1 := by
  obtain ⟨hletters, -, -, rfl, -⟩ := isReference_iff.1 h
  rw [columnIndex?_eq_some_iff]
  simp only [ne_eq, hletters, not_false_eq_true, true_and]

end Intake
