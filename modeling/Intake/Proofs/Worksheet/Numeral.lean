import Mathlib.Data.List.Induction
import Mathlib.Data.Nat.Digits.Defs
import Intake.Proofs.Worksheet.Reference

/-!
# Columns as numerals

The letters at the beginning of a reference are a numeral in base twenty-six whose digits go from
one to twenty-six (`numeralValue`): there is no zero, and no case of letters. A reference has a
column exactly when these letters are the numeral of one that a worksheet holds
(`columnIndex?_numerals`). Every number has at most one numeral, because the last digit is what is
left of it modulo twenty-six, so that two references of the same column begin with the same letters
up to their case (`map_toUpper_eq_of_columnNumber_eq`).

Reading stops at the first number beyond the last column. The products and sums that are computed
before are therefore small, however many letters there are, and reading with machine words
(`wordColumnNumber?`) never runs out of them.
-/

namespace Intake

/-! ## Numerals -/

/-- The letters in the order of the alphabet. -/
def alphabet : List Char := "ABCDEFGHIJKLMNOPQRSTUVWXYZ".toList

/-- The place of a letter in the alphabet, counted from one and whatever its case is. -/
def alphabetPlace (c : Char) : Nat := alphabet.idxOf c.toUpper + 1

/-- The value of letters as a numeral in base twenty-six, the last letter being the digit of the
ones. -/
def numeralValue (letters : List Char) : Nat :=
  Nat.ofDigits 26 (letters.map alphabetPlace).reverse

/-- The longest beginning of a text that consists of ASCII letters. -/
structure BeginsWithLetters (text : String) (letters : List Char) : Prop where
  isPrefix : letters <+: text.toList
  isAlpha : ∀ c ∈ letters, c.isAlpha
  longest : ∀ others, others <+: text.toList → (∀ c ∈ others, c.isAlpha) →
    others.length ≤ letters.length

theorem beginsWithLetters_iff {text : String} {letters : List Char} :
    BeginsWithLetters text letters ↔ letters = text.toList.takeWhile Char.isAlpha := by
  have hself : BeginsWithLetters text (text.toList.takeWhile Char.isAlpha) := by
    refine ⟨List.takeWhile_prefix _, List.all_eq_true.1 List.all_takeWhile, ?_⟩
    rintro others ⟨rest, hrest⟩ halpha
    rw [← hrest, List.takeWhile_append_of_pos halpha, List.length_append]
    exact Nat.le_add_right _ _
  constructor
  · intro h
    have hle := h.longest _ hself.isPrefix hself.isAlpha
    have hge := hself.longest _ h.isPrefix h.isAlpha
    exact (List.prefix_of_prefix_length_le h.isPrefix hself.isPrefix hge).eq_of_length (by omega)
  · rintro rfl
    exact hself

/-! ## Digits -/

theorem toNat_lt_of_isAlpha {c : Char} (h : c.isAlpha) : c.toNat < 0x80 := by
  have hranges : (decide ('A'.val ≤ c.val ∧ c.val ≤ 'Z'.val) ||
      (decide ('a'.val ≤ c.val) && decide (c.val ≤ 'z'.val))) = true := h
  simp only [Bool.or_eq_true, Bool.and_eq_true, decide_eq_true_eq] at hranges
  rcases hranges with ⟨-, h⟩ | ⟨-, h⟩
  · exact Nat.lt_of_le_of_lt (UInt32.le_iff_toNat_le.1 h) (by decide)
  · exact Nat.lt_of_le_of_lt (UInt32.le_iff_toNat_le.1 h) (by decide)

theorem letterValue_ascii : ∀ n < 0x80, (Char.ofNat n).isAlpha →
    letterValue (Char.ofNat n) = alphabetPlace (Char.ofNat n) ∧
      letterValue (Char.ofNat n) ≤ 26 ∧ 'A'.toNat ≤ (Char.ofNat n).toUpper.toNat := by
  decide +kernel

theorem letterValue_of_isAlpha {c : Char} (h : c.isAlpha) :
    letterValue c = alphabetPlace c ∧ letterValue c ≤ 26 ∧ 'A'.toNat ≤ c.toUpper.toNat := by
  have hascii := letterValue_ascii c.toNat (toNat_lt_of_isAlpha h)
  rw [Char.ofNat_toNat] at hascii
  exact hascii h

theorem letterValue_pos (c : Char) : 0 < letterValue c := Nat.succ_pos _

/-- A digit has one letter in each case. -/
theorem toUpper_eq_of_letterValue_eq {c d : Char} (hc : c.isAlpha) (hd : d.isAlpha)
    (h : letterValue c = letterValue d) : c.toUpper = d.toUpper := by
  have hcfirst := (letterValue_of_isAlpha hc).2.2
  have hdfirst := (letterValue_of_isAlpha hd).2.2
  unfold letterValue at h
  exact Char.toNat_inj.1 (by omega)

/-! ## Values -/

theorem columnNumber_append_singleton (letters : List Char) (c : Char) :
    columnNumber (letters ++ [c]) = 26 * columnNumber letters + letterValue c := by
  rw [columnNumber, columnNumberFrom, List.foldl_append]
  rfl

theorem columnNumber_eq_numeralValue {letters : List Char} (h : ∀ c ∈ letters, c.isAlpha) :
    columnNumber letters = numeralValue letters := by
  induction letters using List.reverseRecOn with
  | nil => rfl
  | append_singleton letters c ih =>
    obtain ⟨hletters, hc⟩ := List.forall_mem_append.1 h
    have hplace := (letterValue_of_isAlpha (hc c (List.mem_singleton_self c))).1
    rw [columnNumber_append_singleton, ih hletters, hplace, numeralValue, numeralValue,
      List.map_append, List.reverse_append, List.map_singleton, List.reverse_singleton,
      List.singleton_append, Nat.ofDigits_cons, Nat.add_comm]

/-- A number has at most one numeral, up to the case of its letters. -/
theorem map_toUpper_eq_of_columnNumber_eq {letters letters' : List Char}
    (h : ∀ c ∈ letters, c.isAlpha) (h' : ∀ c ∈ letters', c.isAlpha)
    (heq : columnNumber letters = columnNumber letters') :
    letters.map Char.toUpper = letters'.map Char.toUpper := by
  induction letters using List.reverseRecOn generalizing letters' with
  | nil =>
    cases letters' with
    | nil => rfl
    | cons c cs => exact absurd heq (columnNumber_pos (List.cons_ne_nil c cs)).ne
  | append_singleton letters c ih =>
    rcases List.eq_nil_or_concat letters' with rfl | ⟨letters', d, rfl⟩
    · exact absurd heq (columnNumber_pos (by simp)).ne'
    · rw [List.concat_eq_append] at heq h' ⊢
      obtain ⟨hletters, hc⟩ := List.forall_mem_append.1 h
      obtain ⟨hletters', hd⟩ := List.forall_mem_append.1 h'
      have hc := hc c (List.mem_singleton_self c)
      have hd := hd d (List.mem_singleton_self d)
      rw [columnNumber_append_singleton, columnNumber_append_singleton] at heq
      -- The last digits are between one and twenty-six, so that they are the same.
      have hvalues : letterValue c = letterValue d ∧
          columnNumber letters = columnNumber letters' := by
        have hcpos := letterValue_pos c
        have hdpos := letterValue_pos d
        have hcle := (letterValue_of_isAlpha hc).2.1
        have hdle := (letterValue_of_isAlpha hd).2.1
        omega
      rw [List.map_append, List.map_append, ih hletters hletters' hvalues.2, List.map_singleton,
        List.map_singleton, toUpper_eq_of_letterValue_eq hc hd hvalues.1]

/-! ## Machine words -/

/-- The column that letters spell after those read before, where every product and every sum has to
be a word, which is a number below `words`; the outer `none` says that one is not. -/
def wordColumnNumber? (words : Nat) : (number : Nat) → List Char → Option (Option Nat)
  | number, [] => some (some number)
  | number, c :: cs =>
    if words ≤ 26 * number then none
    else if words ≤ 26 * number + letterValue c then none
    else if maxColumns < 26 * number + letterValue c then some none
    else wordColumnNumber? words (26 * number + letterValue c) cs

/-- Words of 32 bits are enough, because a number that is read on is at most the last column. -/
theorem wordColumnNumber?_eq {words number : Nat} {letters : List Char} (hwords : 2 ^ 32 ≤ words)
    (h : ∀ c ∈ letters, c.isAlpha) (hnumber : number ≤ maxColumns) :
    wordColumnNumber? words number letters = some (columnNumberFrom? number letters) := by
  induction letters generalizing number with
  | nil => rfl
  | cons c cs ih =>
    obtain ⟨hc, hcs⟩ := List.forall_mem_cons.1 h
    have hvalue := (letterValue_of_isAlpha hc).2.1
    have hlast : maxColumns = 16384 := rfl
    rw [wordColumnNumber?, columnNumberFrom?, if_neg (by omega), if_neg (by omega)]
    split
    · rfl
    · next hwithin => exact ih hcs (Nat.not_lt.1 hwithin)

/-! ## References -/

theorem columnIndex?_eq_some_iff_numeral {reference : String} {letters : List Char} {i : Nat}
    (h : BeginsWithLetters reference letters) : columnIndex? reference = some i ↔
      letters ≠ [] ∧ numeralValue letters = i + 1 ∧ i + 1 ≤ maxColumns := by
  rw [columnIndex?_eq_some_iff, ← beginsWithLetters_iff.1 h,
    columnNumber_eq_numeralValue h.isAlpha]
  exact ⟨fun ⟨hi, hne, hvalue⟩ => ⟨hne, hvalue, hi⟩, fun ⟨hne, hvalue, hi⟩ => ⟨hi, hne, hvalue⟩⟩

theorem columnIndex?_eq_none_iff_numeral {reference : String} {letters : List Char}
    (h : BeginsWithLetters reference letters) : columnIndex? reference = none ↔
      letters = [] ∨ maxColumns < numeralValue letters := by
  rw [Option.eq_none_iff_forall_ne_some]
  simp only [ne_eq, columnIndex?_eq_some_iff_numeral h]
  constructor
  · intro hnone
    by_contra hnumeral
    obtain ⟨hne, hle⟩ := not_or.1 hnumeral
    have hpos := columnNumber_pos hne
    rw [columnNumber_eq_numeralValue h.isAlpha] at hpos
    exact hnone (numeralValue letters - 1) ⟨hne, by omega, by omega⟩
  · rintro (hnil | hlt) i ⟨hne, hvalue, hi⟩
    · exact hne hnil
    · omega

/-- The columns of references are the numerals of the worksheet.

A reference has the column whose numeral the longest run of letters at its beginning is; it has none
when there are no letters or when they are the numeral of a column that no worksheet has. However
many letters there are, no product and no sum on the way needs more than 32 bits, and references of
the same column begin with the same letters up to their case. -/
theorem columnIndex?_numerals :
    (∀ reference i, columnIndex? reference = some i ↔ ∃ letters,
      BeginsWithLetters reference letters ∧ letters ≠ [] ∧ numeralValue letters = i + 1 ∧
        i + 1 ≤ maxColumns) ∧
    (∀ reference letters, BeginsWithLetters reference letters →
      (columnIndex? reference = none ↔ letters = [] ∨ maxColumns < numeralValue letters) ∧
      ∀ words, 2 ^ 32 ≤ words →
        wordColumnNumber? words 0 letters = some (columnNumberFrom? 0 letters)) ∧
    ∀ reference reference' letters letters' i, BeginsWithLetters reference letters →
      BeginsWithLetters reference' letters' → columnIndex? reference = some i →
      columnIndex? reference' = some i → letters.map Char.toUpper = letters'.map Char.toUpper := by
  refine ⟨fun reference i => ?_, fun reference letters h => ?_, ?_⟩
  · constructor
    · intro hindex
      have h : BeginsWithLetters reference _ := beginsWithLetters_iff.2 rfl
      exact ⟨_, h, (columnIndex?_eq_some_iff_numeral h).1 hindex⟩
    · rintro ⟨letters, h, hnumeral⟩
      exact (columnIndex?_eq_some_iff_numeral h).2 hnumeral
  · exact ⟨columnIndex?_eq_none_iff_numeral h,
      fun words hwords => wordColumnNumber?_eq hwords h.isAlpha (Nat.zero_le _)⟩
  · intro reference reference' letters letters' i h h' hindex hindex'
    obtain ⟨-, hvalue, -⟩ := (columnIndex?_eq_some_iff_numeral h).1 hindex
    obtain ⟨-, hvalue', -⟩ := (columnIndex?_eq_some_iff_numeral h').1 hindex'
    refine map_toUpper_eq_of_columnNumber_eq h.isAlpha h'.isAlpha ?_
    rw [columnNumber_eq_numeralValue h.isAlpha, columnNumber_eq_numeralValue h'.isAlpha, hvalue,
      hvalue']

/-- The last column in both cases of letters, and letters that go far beyond it. -/
theorem columnIndex?_numerals_lastColumn :
    BeginsWithLetters "xfd7" "xfd".toList ∧ BeginsWithLetters "XFD1" "XFD".toList ∧
    BeginsWithLetters "ZZZZZZZZZZZZZZZ1" "ZZZZZZZZZZZZZZZ".toList ∧
    columnIndex? "xfd7" = some 16383 ∧ columnIndex? "XFD1" = some 16383 ∧
    "xfd".toList.map Char.toUpper = "XFD".toList.map Char.toUpper ∧
    columnIndex? "ZZZZZZZZZZZZZZZ1" = none ∧
    wordColumnNumber? (2 ^ 32) 0 "ZZZZZZZZZZZZZZZ".toList = some none := by
  have hsmall : BeginsWithLetters "xfd7" "xfd".toList := beginsWithLetters_iff.2 (by decide)
  have hlarge : BeginsWithLetters "XFD1" "XFD".toList := beginsWithLetters_iff.2 (by decide)
  have hfar : BeginsWithLetters "ZZZZZZZZZZZZZZZ1" "ZZZZZZZZZZZZZZZ".toList :=
    beginsWithLetters_iff.2 (by decide)
  have hindex : columnIndex? "xfd7" = some 16383 := by decide
  have hindex' : columnIndex? "XFD1" = some 16383 := by decide
  obtain ⟨hnone, hwords⟩ := columnIndex?_numerals.2.1 _ _ hfar
  exact ⟨hsmall, hlarge, hfar, hindex, hindex',
    columnIndex?_numerals.2.2 _ _ _ _ _ hsmall hlarge hindex hindex',
    hnone.2 (.inr (by decide)), (hwords (2 ^ 32) (Nat.le_refl _)).trans (by decide)⟩

end Intake
