import Mathlib.Data.List.TakeWhile
import Mathlib.Tactic.SplitIfs
import Intake.Json.Number

/-!
# Numbers read back

A number reads back when reading its text gives the number and leaves nothing
(`Number.ReadsBack`). Integers of 64 bits do (`Number.readsBack_integer`); whether a
floating-point number does depends on its digits, since reading is not correctly rounded for long
numerals.

What is read at the beginning of a text does not depend on what follows, as long as that does not
continue the number (`readNumber?_append`).
-/

namespace Intake

/-! ## Runs of characters in front of a text -/

section Runs

variable {p : Char → Bool} {cs rest : List Char}

theorem takeWhile_append_of_stop (h : ∀ c ∈ rest.head?, p c = false) :
    (cs ++ rest).takeWhile p = cs.takeWhile p := by
  induction cs with
  | nil =>
    cases rest with
    | nil => rfl
    | cons c rest => simp [h c rfl]
  | cons c cs ih => cases hc : p c <;> simp [hc, ih]

theorem dropWhile_append_of_stop (h : ∀ c ∈ rest.head?, p c = false) :
    (cs ++ rest).dropWhile p = cs.dropWhile p ++ rest := by
  induction cs with
  | nil =>
    cases rest with
    | nil => rfl
    | cons c rest => simp [h c rfl]
  | cons c cs ih => cases hc : p c <;> simp [hc, ih]

end Runs

/-! ## Digits -/

theorem isDigit_eq (c : Char) : isDigit c = c.isDigit := by
  simp [isDigit, Char.isDigit, Char.le_def]

theorem isDigit_of_mem_decimalDigits {n : Nat} {c : Char} (h : c ∈ decimalDigits n) :
    isDigit c = true := by
  rw [isDigit_eq]
  exact Nat.isDigit_of_mem_toDigits (by decide) (by decide) h

theorem digitsValue_decimalDigits (n : Nat) : digitsValue (decimalDigits n) = n :=
  Nat.ofDigitChars_ten_toDigits

/-- No numeral of a positive number begins with a zero. -/
theorem head?_decimalDigits_ne_zero (n : Nat) (h : 0 < n) :
    (decimalDigits n).head? ≠ some '0' := by
  induction n using Nat.strongRecOn with
  | _ n ih =>
    rw [decimalDigits, Nat.toDigits_eq_if (by decide)]
    split
    · next hlt =>
      have hone : ∀ m < 10, 0 < m → [Nat.digitChar m].head? ≠ some '0' := by decide
      exact hone n hlt h
    · next hge =>
      have hpos : 0 < n / 10 := by omega
      have hih := ih (n / 10) (by omega) hpos
      rw [decimalDigits, List.head?_eq_some_head Nat.toDigits_ne_nil] at hih
      rwa [List.head?_append, List.head?_eq_some_head Nat.toDigits_ne_nil, Option.some_or]

namespace Json

/-! ## What follows a number -/

/-- A text whose beginning does not continue a number in front of it. -/
def EndsNumber (rest : List Char) : Prop :=
  ∀ c ∈ rest.head?, isDigit c = false ∧ c ≠ '.' ∧ c ≠ 'e' ∧ c ≠ 'E'

theorem endsNumber_nil : EndsNumber [] := by simp [EndsNumber]

theorem endsNumber_cons {c : Char} {rest : List Char} :
    EndsNumber (c :: rest) ↔ isDigit c = false ∧ c ≠ '.' ∧ c ≠ 'e' ∧ c ≠ 'E' := by
  simp [EndsNumber]

theorem guard_eq_ite (p : Prop) [Decidable p] :
    (guard p : Option Unit) = if p then some () else none := rfl

variable {cs rest : List Char}

theorem EndsNumber.stop (h : EndsNumber rest) : ∀ c ∈ rest.head?, isDigit c = false :=
  fun c hc => (h c hc).1

theorem readMinus_append (h : cs ≠ []) :
    readMinus (cs ++ rest) = ((readMinus cs).1, (readMinus cs).2 ++ rest) := by
  cases cs with
  | nil => exact absurd rfl h
  | cons c cs =>
    by_cases hc : c = '-'
    · subst hc; rfl
    · simp [readMinus, hc]

theorem readFraction?_append (hr : EndsNumber rest) {fraction r : List Char} {hasPoint : Bool}
    (h : readFraction? cs = some (fraction, hasPoint, r)) :
    readFraction? (cs ++ rest) = some (fraction, hasPoint, r ++ rest) := by
  cases cs with
  | nil =>
    simp only [readFraction?, Option.some.injEq, Prod.mk.injEq] at h
    obtain ⟨rfl, rfl, rfl⟩ := h
    cases rest with
    | nil => rfl
    | cons c rest =>
      have hc := (endsNumber_cons.1 hr).2.1
      simp [readFraction?, hc]
  | cons c cs =>
    by_cases hc : c = '.'
    · subst hc
      simp only [readFraction?, List.cons_append, takeWhile_append_of_stop hr.stop,
        dropWhile_append_of_stop hr.stop] at h ⊢
      split_ifs at h ⊢
      simpa using h
    · have heq : ∀ l, readFraction? (c :: l) = some ([], false, c :: l) := by
        simp [readFraction?, hc]
      rw [heq, Option.some.injEq, Prod.mk.injEq, Prod.mk.injEq] at h
      obtain ⟨rfl, rfl, rfl⟩ := h
      exact heq (cs ++ rest)

theorem readSign_append (h : cs ≠ []) :
    readSign (cs ++ rest) = ((readSign cs).1, (readSign cs).2 ++ rest) := by
  cases cs with
  | nil => exact absurd rfl h
  | cons c cs =>
    by_cases hm : c = '-'
    · subst hm; rfl
    · by_cases hp : c = '+'
      · subst hp; rfl
      · simp [readSign, hm, hp]

theorem readPower?_append (hr : EndsNumber rest) {power : Int} {r : List Char}
    (h : readPower? cs = some (power, r)) :
    readPower? (cs ++ rest) = some (power, r ++ rest) := by
  have hne : cs ≠ [] := by
    rintro rfl
    simp [readPower?, readSign] at h
  simp only [readPower?, readSign_append hne, takeWhile_append_of_stop hr.stop,
    dropWhile_append_of_stop hr.stop] at h ⊢
  split_ifs at h ⊢ <;> simpa using h

theorem readScale?_append (hr : EndsNumber rest) {power : Int} {hasPower : Bool} {r : List Char}
    (h : readScale? cs = some (power, hasPower, r)) :
    readScale? (cs ++ rest) = some (power, hasPower, r ++ rest) := by
  cases cs with
  | nil =>
    simp only [readScale?, Option.some.injEq, Prod.mk.injEq] at h
    obtain ⟨rfl, rfl, rfl⟩ := h
    cases rest with
    | nil => rfl
    | cons c rest =>
      obtain ⟨-, -, he, hE⟩ := endsNumber_cons.1 hr
      simp [readScale?, he, hE]
  | cons c cs =>
    simp only [readScale?, List.cons_append] at h ⊢
    split_ifs at h ⊢ with hc
    · obtain ⟨⟨p, r'⟩, hp, heq⟩ := Option.map_eq_some_iff.1 h
      simp only [Prod.mk.injEq] at heq
      obtain ⟨rfl, rfl, rfl⟩ := heq
      rw [readPower?_append hr hp]
      rfl
    · simp only [Option.some.injEq, Prod.mk.injEq] at h
      obtain ⟨rfl, rfl, rfl⟩ := h
      rfl

/-- A number is read alike in front of every text that does not continue it. -/
theorem readNumber?_append (hr : EndsNumber rest) {n? : Option Number} {r : List Char}
    (h : readNumber? cs = some (n?, r)) : readNumber? (cs ++ rest) = some (n?, r ++ rest) := by
  have hne : cs ≠ [] := by
    rintro rfl
    simp [readNumber?, readMinus, ↓guard_eq_ite] at h
  simp only [readNumber?, ↓guard_eq_ite, readMinus_append hne, takeWhile_append_of_stop hr.stop,
    dropWhile_append_of_stop hr.stop, Option.bind_eq_bind, Option.bind_eq_some_iff] at h ⊢
  obtain ⟨u, hguard, ⟨fraction, hasPoint, rest₁⟩, hfraction, ⟨power, hasPower, rest₂⟩, hscale, h⟩ :=
    h
  refine ⟨u, hguard, _, readFraction?_append hr hfraction, _, readScale?_append hr hscale, ?_⟩
  simp only [Option.some.injEq, Prod.mk.injEq] at h ⊢
  exact ⟨h.1, by rw [h.2]⟩

/-! ## Integers -/

theorem le_foldl_digits (cs : List Char) (n : Nat) :
    n ≤ cs.foldl (fun n c => 10 * n + digitValue c) n := by
  induction cs generalizing n with
  | nil => exact Nat.le_refl n
  | cons c cs ih =>
    have := ih (10 * n + digitValue c)
    simp only [List.foldl_cons]
    omega

/-- Digits that fit into 64 bits are gathered to the last one. -/
theorem gather_eq {n : Nat} {cs : List Char}
    (h : cs.foldl (fun n c => 10 * n + digitValue c) n < wordBound) :
    gather n cs = (cs.foldl (fun n c => 10 * n + digitValue c) n, []) := by
  induction cs generalizing n with
  | nil => rfl
  | cons c cs ih =>
    simp only [List.foldl_cons] at h ⊢
    have hle := le_foldl_digits cs (10 * n + digitValue c)
    rw [gather, if_pos (by omega)]
    exact ih h

@[simp] theorem gather_nil (n : Nat) : gather n [] = (n, []) :=
  rfl

theorem gather_decimalDigits {n : Nat} (h : n < wordBound) :
    gather 0 (decimalDigits n) = (n, []) := by
  have hv := digitsValue_decimalDigits n
  unfold digitsValue at hv
  rw [gather_eq (by rwa [hv]), hv]

/-- Reading the digits of an integer, after its sign. -/
theorem readNumber?_digits {negative : Bool} {n : Nat} (h : n < wordBound)
    (hcs : readMinus cs = (negative, decimalDigits n)) :
    readNumber? cs = some (numeralValue? negative true ⟨decimalDigits n, [], 0⟩, []) := by
  have hall : (decimalDigits n).takeWhile isDigit = decimalDigits n :=
    List.takeWhile_eq_self_iff.2 fun c hc => isDigit_of_mem_decimalDigits hc
  have hnone : (decimalDigits n).dropWhile isDigit = [] :=
    List.dropWhile_eq_nil_iff.2 fun c hc => isDigit_of_mem_decimalDigits hc
  have hlead : (decimalDigits n).length = 1 ∨ (decimalDigits n).head? ≠ some '0' := by
    rcases Nat.eq_zero_or_pos n with rfl | hpos
    · exact Or.inl rfl
    · exact Or.inr (head?_decimalDigits_ne_zero n hpos)
  have hne : decimalDigits n ≠ [] := Nat.toDigits_ne_nil
  simp [readNumber?, hcs, hall, hnone, hlead, hne, readFraction?, readScale?, ↓guard_eq_ite]

namespace Number

/-- Is the number a floating-point number? -/
def isFloat : Number → Bool
  | integer _ => false
  | float _ => true

/-- Reading the text of the number gives the number. -/
def ReadsBack (n : Number) : Prop := readNumber? n.text.toList = some (some n, [])

instance (n : Number) : Decidable n.ReadsBack :=
  inferInstanceAs (Decidable (_ = _))

theorem readsBack_natural {n : Nat} (h : n < wordBound) : ReadsBack (.integer n) := by
  have hdigits : (text (.integer n)).toList = decimalDigits n := by
    have hn : ¬(n : Int) < 0 := by omega
    simp [text, decimalText, hn]
  have hminus : readMinus (decimalDigits n) = (false, decimalDigits n) := by
    have hhead : ∀ c ∈ decimalDigits n, c ≠ '-' := by
      rintro c hc rfl
      exact absurd (isDigit_of_mem_decimalDigits hc) (by decide)
    cases hd : decimalDigits n with
    | nil => rfl
    | cons c cs => simp [readMinus, hhead c (by simp [hd])]
  rw [ReadsBack, hdigits, readNumber?_digits h hminus]
  simp [numeralValue?, gather_decimalDigits h]

theorem readsBack_negative {n : Nat} (h0 : 0 < n) (h : n ≤ twoPow 63) :
    ReadsBack (.integer (-n)) := by
  have hword : n < wordBound := Nat.lt_of_le_of_lt h (by decide)
  have hdigits : (text (.integer (-n))).toList = '-' :: decimalDigits n := by
    simp [text, decimalText, h0]
  have hminus : readMinus ('-' :: decimalDigits n) = (true, decimalDigits n) := rfl
  rw [ReadsBack, hdigits, readNumber?_digits hword hminus]
  have hsmall : ¬(n = 0 ∨ twoPow 63 < n) := by omega
  simp [numeralValue?, gather_decimalDigits hword, hsmall]

/-- Every integer of 64 bits reads back. -/
theorem readsBack_integer {i : Int} (h : inRange (.integer i) = true) :
    ReadsBack (.integer i) := by
  simp only [inRange, Bool.and_eq_true, decide_eq_true_eq] at h
  rcases Int.lt_or_le i 0 with hneg | hpos
  · have hi : i = -(i.natAbs : Int) := by omega
    rw [hi]
    exact readsBack_negative (by omega) (by omega)
  · have hi : i = (i.natAbs : Int) := by omega
    rw [hi]
    exact readsBack_natural (by unfold wordBound; omega)

end Number

end Json

end Intake
