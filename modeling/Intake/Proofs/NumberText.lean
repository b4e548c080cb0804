import Intake.Numeric.Reading
import Intake.Proofs.Lookup

/-!
# Texts of numbers

The text of a number consists of digits, a sign, a point and the letters of `NaN` and `inf`
(`Cell.mem_numberChars`). Hence it has no blanks, it is neither a marker nor a directive, and among
the texts that set a flag it can only be `1`.

No number but one has the text `1` (`Cell.isOne_of_numberText_eq_one`). The digits of a text are
read back as the number, so that the decimal one is in its `ReadingInterval`, and this it is for the
number one only. That they are read back rests on seventeen digits being enough, hence on the
mantissa being below `2 ^ 53` (`Binary64.IsDouble`), as it is for every number that has been read
(`Binary64.isDouble_of_readBinary64?`).
-/

namespace Intake

/-! ## The characters of a number -/

/-- What the text of a number consists of. -/
def numberChars : List Char :=
  ['0', '1', '2', '3', '4', '5', '6', '7', '8', '9', '-', '.', 'N', 'a', 'i', 'n', 'f']

theorem forall_mem_numberChars {P : Char → Prop} [DecidablePred P]
    (h : (numberChars.all fun c => decide (P c)) = true) : ∀ c ∈ numberChars, P c := by
  simpa using h

theorem mem_numberChars_of_all {cs : List Char} {c : Char}
    (h : cs.all numberChars.contains = true) (hc : c ∈ cs) : c ∈ numberChars :=
  List.contains_iff_mem.1 (List.all_eq_true.1 h c hc)

theorem mem_numberChars_of_isDigit {c : Char} (h : c.isDigit = true) : c ∈ numberChars := by
  have hdigits : ∀ n < 58, 48 ≤ n → Char.ofNat n ∈ numberChars := by decide
  rw [Char.isDigit, Bool.and_eq_true, decide_eq_true_eq, decide_eq_true_eq] at h
  have hfirst : 48 ≤ c.toNat := h.1
  have hlast : c.toNat ≤ 57 := h.2
  rw [← Char.ofNat_toNat c]
  exact hdigits c.toNat (by omega) hfirst

theorem mem_numberChars_of_mem_decimalDigits {n : Nat} {c : Char} (h : c ∈ decimalDigits n) :
    c ∈ numberChars :=
  mem_numberChars_of_isDigit (Nat.isDigit_of_mem_toDigits (by decide) (by decide) h)

theorem mem_numberChars_of_mem_decimalText {i : Int} {c : Char} (h : c ∈ (decimalText i).toList) :
    c ∈ numberChars := by
  unfold decimalText at h
  split at h
  · rw [String.toList_append, List.mem_append] at h
    rcases h with h | h
    · obtain rfl : c = '-' := by simpa using h
      decide
    · exact mem_numberChars_of_mem_decimalDigits (by simpa using h)
  · exact mem_numberChars_of_mem_decimalDigits (by simpa using h)

theorem Decimal.mem_numberChars {d : Decimal} {c : Char} (h : c ∈ d.positional) :
    c ∈ numberChars := by
  have hdigits : ∀ c ∈ decimalDigits d.digits, c ∈ numberChars :=
    fun c => mem_numberChars_of_mem_decimalDigits
  have hzero : '0' ∈ numberChars := by decide
  have hpoint : '.' ∈ numberChars := by decide
  have htake : ∀ n, ∀ c ∈ (decimalDigits d.digits).take n, c ∈ numberChars :=
    fun n c hc => hdigits c (List.mem_of_mem_take hc)
  have hdrop : ∀ n, ∀ c ∈ (decimalDigits d.digits).drop n, c ∈ numberChars :=
    fun n c hc => hdigits c (List.mem_of_mem_drop hc)
  unfold positional at h
  dsimp only at h
  split at h
  · rcases List.mem_append.1 h with h | h
    · exact hdigits c h
    · rwa [List.eq_of_mem_replicate h]
  · split at h
    · simp only [List.mem_cons, List.mem_append, List.mem_replicate] at h
      rcases h with rfl | rfl | ⟨-, rfl⟩ | h
      · exact hzero
      · exact hpoint
      · exact hzero
      · exact hdigits c h
    · simp only [List.mem_cons, List.mem_append] at h
      rcases h with h | rfl | h
      · exact htake _ c h
      · exact hpoint
      · exact hdrop _ c h

theorem Binary64.mem_numberChars {x : Binary64} {c : Char} (h : c ∈ x.positionalText.toList) :
    c ∈ numberChars := by
  have hsign : ∀ s, (signText s).all numberChars.contains = true := by decide
  cases x with
  | nan =>
    have hnan : "NaN".toList.all numberChars.contains = true := by decide
    exact mem_numberChars_of_all hnan h
  | infinite s =>
    have hinf : "inf".toList.all numberChars.contains = true := by decide
    rw [positionalText, String.toList_ofList, List.mem_append] at h
    exact h.elim (mem_numberChars_of_all (hsign s)) (mem_numberChars_of_all hinf)
  | finite s m q =>
    rw [positionalText, String.toList_ofList, List.mem_append] at h
    rcases h with h | h
    · exact mem_numberChars_of_all (hsign s) h
    · split at h
      · obtain rfl := List.mem_singleton.1 h
        decide
      · exact Decimal.mem_numberChars h

namespace Cell

theorem mem_numberChars {x : Binary64} {c : Char} (h : c ∈ (numberText x).toList) :
    c ∈ numberChars := by
  unfold numberText at h
  split at h
  · exact mem_numberChars_of_mem_decimalText h
  · exact Binary64.mem_numberChars h

end Cell

/-! ## The text `1` -/

theorem decimalDigits_eq_one_iff {n : Nat} : decimalDigits n = ['1'] ↔ n = 1 := by
  refine ⟨fun h => ?_, fun h => h ▸ by decide⟩
  rw [decimalDigits, Nat.toDigits_eq_if (by decide)] at h
  split at h
  · next hlt =>
    have hdigit : ∀ d < 10, [d.digitChar] = ['1'] → d = 1 := by decide
    exact hdigit n hlt h
  · rcases List.append_eq_singleton_iff.1 h with ⟨hnil, -⟩ | ⟨-, hnil⟩
    · exact absurd hnil Nat.toDigits_ne_nil
    · exact absurd hnil (List.cons_ne_nil _ _)

theorem eq_one_of_decimalText {i : Int} (h : decimalText i = "1") : i = 1 := by
  have hchars := congrArg String.toList h
  unfold decimalText at hchars
  split at hchars
  · simp at hchars
  · rw [String.toList_ofList] at hchars
    have hone := decimalDigits_eq_one_iff.1 hchars
    omega

namespace Decimal

/-- Written out with all its digits, only one itself is the text `1`. -/
theorem eq_one_of_positional {d : Decimal} (h : d.positional = ['1']) : d = ⟨1, 0⟩ := by
  have hpos : 0 < (decimalDigits d.digits).length :=
    List.length_pos_iff.2 (decimalDigits_ne_nil d.digits)
  have hlength := congrArg List.length h
  unfold positional at h hlength
  dsimp only at h hlength
  split at h
  · next hexponent =>
    rw [if_pos hexponent, List.length_append, List.length_replicate, List.length_singleton]
      at hlength
    have hzero : d.exponent.toNat = 0 := by omega
    rw [hzero, List.replicate_zero, List.append_nil] at h
    cases d with
    | mk digits exponent =>
      obtain rfl := decimalDigits_eq_one_iff.1 h
      obtain rfl : exponent = 0 := by
        simp only at hexponent hzero
        omega
      rfl
  · -- A point is one character too many.
    split at h
    · simp at h
    · next hexponent hplaces =>
      rw [if_neg hexponent, if_neg hplaces, List.length_append, List.length_cons,
        List.length_take, List.length_drop, List.length_singleton] at hlength
      omega

/-- What a decimal was before the zeros at its end were taken away. -/
theorem exists_of_withoutTrailingZeros {fuel : Nat} {d d' : Decimal}
    (h : withoutTrailingZeros fuel d = d') :
    ∃ k : Nat, d = ⟨d'.digits * 10 ^ k, d'.exponent - k⟩ := by
  induction fuel generalizing d with
  | zero => exact ⟨0, by simp [← h, withoutTrailingZeros]⟩
  | succ fuel ih =>
    rw [withoutTrailingZeros] at h
    split at h
    · next hzero =>
      obtain ⟨k, hk⟩ := ih h
      obtain ⟨hdigits, hexponent⟩ := Decimal.mk.inj hk
      have hten : d.digits = d.digits / 10 * 10 := by omega
      have hpower : d.exponent = d'.exponent - (k + 1 : Nat) := by omega
      refine ⟨k + 1, ?_⟩
      rw [← hpower, Nat.pow_succ, ← Nat.mul_assoc, ← hdigits, ← hten]
    · exact ⟨0, by simp [← h]⟩

end Decimal

namespace Binary64

/-- A number of 64 bits has a mantissa of 53 bits at most. -/
def IsDouble : Binary64 → Prop
  | finite _ m _ => m < twoPow 53
  | _ => True

instance : (x : Binary64) → Decidable x.IsDouble
  | nan | infinite _ => .isTrue trivial
  | finite _ m _ => inferInstanceAs (Decidable (m < twoPow 53))

/-! ## One is in no interval but its own -/

section Interval

variable {m : Nat} {q : Int}

/-- The decimal one, with any number of zeros behind the point. -/
def oneWithZeros (k : Nat) : Decimal := ⟨10 ^ k, -(k : Int)⟩

theorem ratio_oneWithZeros (k : Nat) : (oneWithZeros k).ratio = (10 ^ k, 10 ^ k) := by
  unfold Decimal.ratio oneWithZeros tenPow
  split
  · next h =>
    obtain rfl : k = 0 := by
      simp only at h
      omega
    rfl
  · simp

/-- One lies in an interval whose ends it lies between, properly where they do not belong to it. -/
theorem holds_oneWithZeros {i : ReadingInterval} {k : Nat} (h : i.holds (oneWithZeros k) = true) :
    i.low * i.unit.1 ≤ i.unit.2 ∧ i.unit.2 ≤ i.high * i.unit.1 ∧
      (i.closed = false → i.low * i.unit.1 < i.unit.2) := by
  have hpos : 0 < 10 ^ k := Nat.pow_pos (by decide)
  have hle : ∀ a b, a * 10 ^ k ≤ 10 ^ k * b → a ≤ b := fun a b hab =>
    Nat.le_of_mul_le_mul_right (by rwa [Nat.mul_comm b]) hpos
  have hge : ∀ a b, 10 ^ k * b ≤ a * 10 ^ k → b ≤ a := fun a b hab =>
    Nat.le_of_mul_le_mul_right (by rwa [Nat.mul_comm b]) hpos
  have hlt : ∀ a b, a * 10 ^ k < 10 ^ k * b → a < b := fun a b hab =>
    Nat.lt_of_mul_lt_mul_right (by rwa [Nat.mul_comm b])
  unfold ReadingInterval.holds at h
  rw [ratio_oneWithZeros] at h
  dsimp only at h
  split at h
  · next hclosed =>
    rw [Bool.and_eq_true, decide_eq_true_eq, decide_eq_true_eq] at h
    exact ⟨hle _ _ h.1, hge _ _ h.2, fun hopen => by simp [hclosed] at hopen⟩
  · rw [Bool.and_eq_true, decide_eq_true_eq, decide_eq_true_eq] at h
    exact ⟨hle _ _ (Nat.le_of_lt h.1), hge _ _ (Nat.le_of_lt h.2), fun _ => hlt _ _ h.1⟩

theorem ratio_of_nonneg (hq : 0 ≤ q) : ratio m q = (m * 2 ^ q.toNat, 1) := by
  rw [ratio, scaleRatio, if_pos hq]
  rfl

theorem ratio_of_nonpos (hq : q ≤ 0) : ratio m q = (m, 2 ^ (-q).toNat) := by
  rw [ratio, scaleRatio]
  split
  · next h =>
    obtain rfl : q = 0 := by omega
    simp [twoPow]
  · rw [Nat.one_mul]
    rfl

theorem toInt?_eq_one (hq : q ≤ 0) (hm : m = 2 ^ (-q).toNat) :
    (finite false m q).toInt? = some 1 := by
  have hpos : 0 < 2 ^ (-q).toNat := Nat.pow_pos (by decide)
  rw [toInt?, ratio_of_nonpos hq, hm]
  simp

/-- Only the number one is read from the decimal one. -/
theorem toInt?_eq_one_of_holds {k : Nat} (hm : m ≠ 0)
    (h : (readingInterval m q).holds (oneWithZeros k) = true) :
    (finite false m q).toInt? = some 1 := by
  obtain ⟨hlow, hhigh, hopen⟩ := holds_oneWithZeros h
  have hbelow : 4 * m - 2 ≤ (readingInterval m q).low := by
    unfold readingInterval
    dsimp only
    split <;> omega
  have hends : (readingInterval m q).high = 4 * m + 2 := rfl
  have hclosed : (readingInterval m q).closed = (m % 2 == 0) := rfl
  have hunit : (readingInterval m q).unit = ratio 1 (q - 2) := rfl
  rw [hunit] at hlow hhigh hopen
  rw [hends] at hhigh
  rw [hclosed] at hopen
  rcases Int.lt_or_le 1 q with hq | hq
  · -- All of the interval is above two.
    rw [ratio_of_nonneg (by omega)] at hlow
    have hpos : 0 < 2 ^ (q - 2).toNat := Nat.pow_pos (by decide)
    have hmul : (readingInterval m q).low * 1 ≤
        (readingInterval m q).low * (1 * 2 ^ (q - 2).toNat) :=
      Nat.mul_le_mul_left _ (by omega)
    simp only at hlow
    omega
  · rw [ratio_of_nonpos (by omega)] at hlow hhigh hopen
    rcases Int.lt_or_le 0 q with hq | hq
    · -- One is the lower end, where the mantissa is odd.
      obtain rfl : q = 1 := by omega
      have hpower : 2 ^ (-((1 : Int) - 2)).toNat = 2 := rfl
      simp only [hpower] at hlow hhigh hopen
      obtain rfl : m = 1 := by omega
      have hlt := hopen rfl
      omega
    · -- The ends are half a binary place away, so that one is at no other mantissa.
      have hpower : 2 ^ (-(q - 2)).toNat = 4 * 2 ^ (-q).toNat := by
        have hsucc : (-(q - 2)).toNat = (-q).toNat + 2 := by omega
        rw [hsucc, Nat.pow_add]
        omega
      simp only [hpower] at hlow hhigh
      exact toInt?_eq_one hq (by omega)

end Interval

/-! ## Seventeen digits suffice -/

section Shortest

variable {m : Nat} {q : Int}

/-- The search ends with a decimal in the interval, or there is none next to the number at any of
the lengths that are tried. -/
theorem holds_or_of_shortestFrom {i : ReadingInterval} {num den : Nat} {first : Int}
    {tries digits : Nat} {d : Decimal} (h : shortestFrom i num den first tries digits = d) :
    i.holds d = true ∨ d = ⟨num / den, 0⟩ ∧
      ∀ k < tries, ∀ d' ∈ neighbours num den (first - (digits + k : Nat) + 1),
        i.holds d' = false := by
  induction tries generalizing digits with
  | zero => exact .inr ⟨h.symm, fun k hk => absurd hk (Nat.not_lt_zero k)⟩
  | succ tries ih =>
    rw [shortestFrom] at h
    cases hfind : (neighbours num den (first - digits + 1)).find? i.holds with
    | some d' =>
      rw [hfind] at h
      cases h
      exact .inl (List.find?_some hfind)
    | none =>
      rw [hfind] at h
      obtain hholds | ⟨hresult, hnone⟩ := ih h
      · exact .inl hholds
      · refine .inr ⟨hresult, fun k hk d' hd' => ?_⟩
        cases k with
        | zero => simpa using List.find?_eq_none.1 hfind d' hd'
        | succ k =>
          rw [← Nat.succ_add_eq_add_succ] at hd'
          exact hnone k (Nat.lt_of_succ_lt_succ hk) d' hd'

/-- A decimal lies in an interval when it is properly between its ends. -/
theorem ReadingInterval.holds_of_lt {i : ReadingInterval} {d : Decimal}
    (hlow : i.low * i.unit.1 * d.ratio.2 < d.ratio.1 * i.unit.2)
    (hhigh : d.ratio.1 * i.unit.2 < i.high * i.unit.1 * d.ratio.2) : i.holds d = true := by
  rw [holds]
  dsimp only
  split
  · simp [Nat.le_of_lt hlow, Nat.le_of_lt hhigh]
  · simp [hlow, hhigh]

/-- A multiple of `10 ^ -16` lies in the interval of a number when it is less than a quarter of the
last binary place away. -/
theorem holds_of_near {p digits : Nat} (hm : m ≠ 0)
    (hbelow : 4 * (m * 10 ^ 16) < 4 * (digits * 2 ^ p) + 10 ^ 16)
    (habove : 4 * (digits * 2 ^ p) < 4 * (m * 10 ^ 16) + 10 ^ 16) :
    (readingInterval m (-(p : Int))).holds ⟨digits, -16⟩ = true := by
  have hratio : (⟨digits, -16⟩ : Decimal).ratio = (digits, 10 ^ 16) := rfl
  have hlow : (readingInterval m (-(p : Int))).low ≤ 4 * m - 1 := by
    unfold readingInterval
    dsimp only
    split <;> omega
  have hhigh : (readingInterval m (-(p : Int))).high = 4 * m + 2 := rfl
  have hunit : (readingInterval m (-(p : Int))).unit = (1, 4 * 2 ^ p) := by
    have hpower : (-(-(p : Int) - 2)).toNat = p + 2 := by omega
    have hratio : (readingInterval m (-(p : Int))).unit = ratio 1 (-(p : Int) - 2) := rfl
    rw [hratio, ratio_of_nonpos (by omega), hpower, Nat.pow_add]
    simp [Nat.mul_comm]
  have hvalue : digits * (4 * 2 ^ p) = 4 * (digits * 2 ^ p) := Nat.mul_left_comm _ _ _
  refine ReadingInterval.holds_of_lt ?_ ?_
  · rw [hratio, hunit]
    simp only [hvalue]
    have hends := Nat.mul_le_mul_right (10 ^ 16) hlow
    omega
  · rw [hratio, hunit, hhigh]
    simp only [hvalue]
    omega

/-- The nearer of the two decimals of seventeen digits next to a number between one and two is in
its interval. -/
theorem exists_holds_neighbours {p : Nat} (hm : m < 2 ^ 53) (hlow : 2 ^ p ≤ m) :
    ∃ d ∈ neighbours m (2 ^ p) (-16), (readingInterval m (-(p : Int))).holds d = true := by
  have hpos : 0 < 2 ^ p := Nat.pow_pos (by decide)
  have hp : p < 53 := (Nat.pow_lt_pow_iff_right (by decide)).1 (Nat.lt_of_le_of_lt hlow hm)
  have hplace : 2 ^ p ≤ 2 ^ 52 := Nat.pow_le_pow_right (by decide) (by omega)
  have hdiv := Nat.div_add_mod (m * 10 ^ 16) (2 ^ p)
  have hmod := Nat.mod_lt (m * 10 ^ 16) hpos
  have hnear : neighbours m (2 ^ p) (-16) =
      if 2 * (m * 10 ^ 16 % 2 ^ p) ≤ 2 ^ p then
        [⟨m * 10 ^ 16 / 2 ^ p, -16⟩, ⟨m * 10 ^ 16 / 2 ^ p + 1, -16⟩]
      else [⟨m * 10 ^ 16 / 2 ^ p + 1, -16⟩, ⟨m * 10 ^ 16 / 2 ^ p, -16⟩] := rfl
  rw [Nat.mul_comm] at hdiv
  rw [hnear]
  split
  · refine ⟨_, List.mem_cons_self, holds_of_near (by omega) ?_ ?_⟩ <;> omega
  · refine ⟨_, List.mem_cons_self, holds_of_near (by omega) ?_ ?_⟩ <;>
      rw [Nat.add_mul] <;> omega

/-- A number whose shortest decimal is one is the number one. -/
theorem toInt?_eq_one_of_shortest (hzero : m ≠ 0) (hm : m < 2 ^ 53) (h : shortest m q = ⟨1, 0⟩) :
    (finite false m q).toInt? = some 1 := by
  obtain ⟨num, den, hratio⟩ : ∃ num den, ratio m q = (num, den) := ⟨_, _, rfl⟩
  rw [shortest, hratio] at h
  obtain ⟨k, hk⟩ := Decimal.exists_of_withoutTrailingZeros h
  have hone : (⟨1 * 10 ^ k, 0 - (k : Int)⟩ : Decimal) = oneWithZeros k := by
    rw [Nat.one_mul, Int.zero_sub]
    rfl
  obtain hholds | ⟨hresult, hnone⟩ := holds_or_of_shortestFrom (hk.trans hone)
  · exact toInt?_eq_one_of_holds hzero hholds
  · -- The whole part is one, so that a decimal of seventeen digits is in the interval after all.
    obtain ⟨hwhole, hexponent⟩ := Decimal.mk.inj (hone.trans hresult)
    obtain rfl : k = 0 := by omega
    rcases Int.lt_or_le q 0 with hq | hq
    · obtain ⟨p, rfl⟩ : ∃ p : Nat, q = -(p : Int) := ⟨(-q).toNat, by omega⟩
      rw [ratio_of_nonpos (by omega), Int.neg_neg, Int.toNat_natCast] at hratio
      obtain ⟨rfl, rfl⟩ := Prod.mk.inj hratio
      have hlow : 2 ^ p ≤ m := by
        by_contra hlt
        rw [Nat.div_eq_of_lt (Nat.lt_of_not_le hlt)] at hwhole
        omega
      have hfirst : leadingPower m (2 ^ p) = 0 := by
        rw [leadingPower, if_pos hlow, ← hwhole]
        rfl
      obtain ⟨d, hd, hholds⟩ := exists_holds_neighbours hm hlow
      rw [hfirst] at hnone
      rw [hnone 16 (by decide) d hd] at hholds
      cases hholds
    · rw [ratio_of_nonneg hq] at hratio
      obtain ⟨rfl, rfl⟩ := Prod.mk.inj hratio
      have hvalue : m * 2 ^ q.toNat = 1 := by simpa using hwhole.symm
      rw [toInt?, ratio_of_nonneg hq, hvalue]
      simp

end Shortest

/-! ## Numbers that are read -/

/-- A quotient is below a bound after it has been scaled. -/
def ScaledBelow (num den : Nat) (power : Int) (bound : Nat) : Prop :=
  (scaleRatio num den power).1 < bound * (scaleRatio num den power).2

theorem scaledBelow_iff {num den bound : Nat} {power : Int} :
    ScaledBelow num den power bound ↔
      num * 2 ^ power.toNat < bound * (den * 2 ^ (-power).toNat) := by
  unfold ScaledBelow scaleRatio twoPow
  split
  · next h =>
    have hzero : (-power).toNat = 0 := by omega
    simp [hzero]
  · next h =>
    have hzero : power.toNat = 0 := by omega
    simp [hzero]

/-- Scaling by one power of two less halves a quotient. -/
theorem ScaledBelow.succ {num den bound : Nat} {power : Int}
    (h : ScaledBelow num den power bound) : ScaledBelow num den (power + 1) (2 * bound) := by
  rw [scaledBelow_iff] at h ⊢
  rcases Int.lt_or_le power 0 with hneg | hpos
  · have hs : (-power).toNat = (-(power + 1)).toNat + 1 := by omega
    have h0 : power.toNat = 0 := by omega
    have h1 : (power + 1).toNat = 0 := by omega
    rw [hs, h0, Nat.pow_succ] at h
    rw [h1]
    calc num * 2 ^ 0 < bound * (den * (2 ^ (-(power + 1)).toNat * 2)) := h
      _ = 2 * bound * (den * 2 ^ (-(power + 1)).toNat) := by
        rw [Nat.mul_comm 2 bound, Nat.mul_assoc bound, ← Nat.mul_assoc den, Nat.mul_comm _ 2]
  · have h0 : (-power).toNat = 0 := by omega
    have h1 : (-(power + 1)).toNat = 0 := by omega
    have hs : (power + 1).toNat = power.toNat + 1 := by omega
    rw [h0] at h
    rw [h1, hs, Nat.pow_succ, ← Nat.mul_assoc, Nat.mul_comm _ 2, Nat.mul_assoc 2]
    exact Nat.mul_lt_mul_of_pos_left h (by decide)

theorem ScaledBelow.mono {num den bound : Nat} {power power' : Int}
    (h : ScaledBelow num den power bound) (hle : power' ≤ power) :
    ScaledBelow num den power' bound := by
  rw [scaledBelow_iff] at h ⊢
  calc num * 2 ^ power'.toNat ≤ num * 2 ^ power.toNat :=
        Nat.mul_le_mul_left _ (Nat.pow_le_pow_right (by decide) (by omega))
    _ < bound * (den * 2 ^ (-power).toNat) := h
    _ ≤ bound * (den * 2 ^ (-power').toNat) :=
        Nat.mul_le_mul_left _ (Nat.mul_le_mul_left _ (Nat.pow_le_pow_right (by decide) (by omega)))

theorem scaleRatio_pos {num den : Nat} (hden : den ≠ 0) (power : Int) :
    0 < (scaleRatio num den power).2 := by
  have hpos : 0 < den * twoPow (-power).toNat :=
    Nat.mul_pos (Nat.pos_of_ne_zero hden) (Nat.pow_pos (by decide))
  unfold scaleRatio
  split
  · exact Nat.pos_of_ne_zero hden
  · exact hpos

/-- The exponent that is chosen brings a quotient below `2 ^ 53`. -/
theorem scaledBelow_exponentFor {num den : Nat} (hden : den ≠ 0) :
    ScaledBelow num den (-exponentFor num den) (2 ^ 53) := by
  obtain ⟨guess, hguess⟩ : ∃ guess : Int,
      guess = (Nat.log2 num : Int) - (Nat.log2 den : Int) - 52 := ⟨_, rfl⟩
  have hnum : num < 2 ^ (num.log2 + 1) := Nat.lt_log2_self
  have hlow : 2 ^ den.log2 ≤ den := Nat.log2_self_le hden
  unfold exponentFor
  dsimp only
  rw [← hguess]
  split
  · next hsmall =>
    have hbelow : ScaledBelow num den (-guess) (2 ^ 52) := by
      unfold ScaledBelow
      exact (Nat.div_lt_iff_lt_mul (scaleRatio_pos hden _)).1 hsmall
    have hpower : -(guess - 1) = -guess + 1 := by omega
    rw [hpower]
    exact hbelow.succ
  · rw [scaledBelow_iff]
    calc num * 2 ^ (-guess).toNat < 2 ^ (num.log2 + 1) * 2 ^ (-guess).toNat :=
          Nat.mul_lt_mul_of_pos_right hnum (Nat.pow_pos (by decide))
      _ = 2 ^ 53 * (2 ^ den.log2 * 2 ^ (- -guess).toNat) := by
          rw [← Nat.pow_add, ← Nat.pow_add, ← Nat.pow_add]
          congr 1
          omega
      _ ≤ 2 ^ 53 * (den * 2 ^ (- -guess).toNat) :=
          Nat.mul_le_mul_left _ (Nat.mul_le_mul_right _ hlow)

theorem roundHalfEven_le (num den : Nat) : roundHalfEven num den ≤ num / den + 1 := by
  unfold roundHalfEven
  dsimp only
  split_ifs <;> omega

theorem isDouble_ofRatio (negative : Bool) (num : Nat) {den : Nat} (hden : den ≠ 0) :
    (ofRatio negative num den).IsDouble := by
  unfold ofRatio
  split
  · exact Nat.pow_pos (by decide)
  · have hbelow : ScaledBelow num den (-max leastExponent (exponentFor num den)) (2 ^ 53) :=
      (scaledBelow_exponentFor hden).mono (by omega)
    have hquotient := (Nat.div_lt_iff_lt_mul (scaleRatio_pos hden _)).2 hbelow
    have hround := roundHalfEven_le
      (scaleRatio num den (-max leastExponent (exponentFor num den))).1
      (scaleRatio num den (-max leastExponent (exponentFor num den))).2
    dsimp only
    split
    · split
      · trivial
      · exact Nat.pow_lt_pow_right (by decide) (by decide)
    · next hne =>
      split
      · trivial
      · have hle : roundHalfEven _ _ ≤ twoPow 53 := Nat.le_trans hround hquotient
        exact Nat.lt_of_le_of_ne hle hne

theorem isDouble_ofDecimal (negative : Bool) (digits : Nat) (power : Int) :
    (ofDecimal negative digits power).IsDouble := by
  have hten : ∀ n, tenPow n ≠ 0 := fun n => Nat.ne_of_gt (Nat.pow_pos (by decide))
  unfold ofDecimal
  dsimp only
  split_ifs
  · exact Nat.pow_pos (by decide)
  · trivial
  · exact Nat.pow_pos (by decide)
  · exact isDouble_ofRatio _ _ (by decide)
  · exact isDouble_ofRatio _ _ (hten _)

/-- Every number that is read from a text is one of 64 bits. -/
theorem isDouble_of_readBinary64? {s : String} {x : Binary64} (h : readBinary64? s = some x) :
    x.IsDouble := by
  unfold readBinary64? at h
  dsimp only at h
  split at h
  · cases h
    trivial
  · split at h
    · cases h
      trivial
    · obtain ⟨n, -, rfl⟩ := Option.map_eq_some_iff.1 h
      exact isDouble_ofDecimal _ _ _

theorem isOne_of_toInt? {x : Binary64} (h : x.toInt? = some 1) : x.isOne = true := by
  rw [isOne, h]
  rfl

end Binary64

namespace Cell

/-- A number whose text is `1` is one. -/
theorem isOne_of_numberText_eq_one {x : Binary64} (hx : x.IsDouble) (h : numberText x = "1") :
    x.isOne = true := by
  unfold numberText at h
  cases hint : x.smallInt? with
  | some i =>
    rw [hint] at h
    obtain rfl := eq_one_of_decimalText h
    exact Binary64.isOne_of_toInt? (Option.filter_eq_some_iff.1 hint).1
  | none =>
    rw [hint] at h
    have hchars := congrArg String.toList h
    cases x with
    | nan => simp [Binary64.positionalText] at hchars
    | infinite s => cases s <;> simp [Binary64.positionalText, Binary64.signText] at hchars
    | finite s m q =>
      rw [Binary64.positionalText, String.toList_ofList] at hchars
      cases s with
      | true => simp [Binary64.signText] at hchars
      | false =>
        split at hchars
        · simp [Binary64.signText] at hchars
        · next hzero =>
          have hshortest := Decimal.eq_one_of_positional hchars
          exact Binary64.isOne_of_toInt? (Binary64.toInt?_eq_one_of_shortest hzero hx hshortest)

theorem numberText_eq_one_iff {x : Binary64} (hx : x.IsDouble) :
    numberText x = "1" ↔ x.isOne = true := by
  refine ⟨isOne_of_numberText_eq_one hx, fun h => ?_⟩
  have hint : x.toInt? = some 1 := by simpa [Binary64.isOne] using h
  have hsmall : x.smallInt? = some 1 := by
    rw [Binary64.smallInt?, hint]
    decide +kernel
  have htext : numberText x = decimalText 1 := by rw [numberText, hsmall]
  rw [htext]
  decide +kernel

/-! ## A number as a text -/

section Text

variable {x : Binary64}

theorem trim_numberText (x : Binary64) : Text.trim (numberText x) = numberText x := by
  have hblank : ∀ c ∈ numberChars, Text.isBlank c = false := forall_mem_numberChars (by decide)
  have hends : Text.TrimmedEnds Text.isBlank (numberText x).toList :=
    ⟨fun c hc => hblank c (mem_numberChars (List.mem_of_mem_head? hc)),
      fun c hc => hblank c (mem_numberChars (List.mem_of_mem_getLast? hc))⟩
  rw [Text.trim, hends.stripEnds_eq, String.ofList_toList]

theorem isBlankText_numberText (x : Binary64) : Text.isBlankText (numberText x) = false := by
  have hblank : ∀ c ∈ numberChars, Text.isBlank c = false := forall_mem_numberChars (by decide)
  obtain ⟨c, hc⟩ := List.exists_mem_of_ne_nil (numberText x).toList
    (mt String.toList_eq_nil_iff.1 (numberText_ne_empty x))
  rw [Text.isBlankText, List.all_eq_false]
  exact ⟨c, hc, by simp [hblank c (mem_numberChars hc)]⟩

theorem toList_lower_numberText (x : Binary64) :
    (Text.lower (numberText x)).toList = (numberText x).toList.map Char.toLower := by
  have hlower : ∀ c ∈ numberChars, Text.IsLower c.toLower :=
    forall_mem_numberChars (by decide +kernel)
  rw [Text.lower, String.toList_ofList]
  exact Text.lowerAfter_eq_map fun c hc => hlower c (mem_numberChars hc)

/-- Among the texts of numbers only `1` sets a flag. -/
theorem lower_numberText_mem_trueTokens_iff :
    Text.lower (numberText x) ∈ trueTokens ↔ numberText x = "1" := by
  have htokens : ∀ token ∈ trueTokens,
      token.toList.all (numberChars.map Char.toLower).contains = true → token = "1" := by
    decide +kernel
  have hchar : ∀ c ∈ numberChars, c.toLower = '1' → c = '1' := forall_mem_numberChars (by decide)
  constructor
  · intro hmem
    have hall : (Text.lower (numberText x)).toList.all (numberChars.map Char.toLower).contains := by
      rw [toList_lower_numberText, List.all_map, List.all_eq_true]
      exact fun c hc => List.contains_iff_mem.2 (List.mem_map_of_mem (mem_numberChars hc))
    have hone := htokens _ hmem hall
    have hchars := toList_lower_numberText x
    rw [hone] at hchars
    obtain ⟨c, hc, hlower⟩ := List.map_eq_singleton_iff.1 hchars.symm
    have hc' : c ∈ numberChars := mem_numberChars (hc ▸ List.mem_singleton.2 rfl)
    rw [hchar c hc' hlower] at hc
    exact String.toList_injective hc
  · intro hone
    rw [hone]
    decide +kernel

/-- A number sets a flag when its text does. -/
theorem isTrue_numberText (hx : x.IsDouble) : (text (numberText x)).isTrue = x.isOne := by
  rw [Bool.eq_iff_iff, ← numberText_eq_one_iff hx, ← lower_numberText_mem_trueTokens_iff, isTrue,
    trim_numberText, List.contains_iff_mem]

/-- The text of a number is no marker that has some other character. -/
theorem isMarker_numberText {marker : String}
    (hother : marker.toList.all numberChars.contains = false) :
    (text (numberText x)).isMarker marker = false := by
  rw [isMarker, trim_numberText, beq_eq_false_iff_ne]
  rintro rfl
  have hall : (numberText x).toList.all numberChars.contains = true :=
    List.all_eq_true.2 fun c hc => List.contains_iff_mem.2 (mem_numberChars hc)
  rw [hall] at hother
  cases hother

end Text

end Cell

end Intake
