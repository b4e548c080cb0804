import Mathlib.Data.List.Basic
import Intake.Proofs.Naming

/-!
# Lower case is final

Lower-casing a text in lower case changes nothing (`Text.lower_lower`), and so does bringing the
name of a flow into its normal form twice (`normalFlow_normalFlow`). Both rest on one property of
the table of lower-case forms: no form is itself a character that the table changes, and none is
blank. The table has runs of characters at an equal distance, and the property is decided run
against run (`lowerRuns_avoid_upperPoints`), not character by character.

The case of ASCII letters has no part in lower-casing, neither for these letters themselves nor for
the form of a sigma next to them (`Text.lower_eq_of_sameIgnoringAsciiCase`).
-/

namespace Intake

namespace Text

/-! ## Runs of code points -/

/-- A number of code points at an equal distance. -/
structure PointRun where
  first : Nat
  count : Nat
  step : Nat

/-- The code points of a run. -/
def PointRun.Has (q : PointRun) (n : Nat) : Prop := ∃ k < q.count, n = q.first + k * q.step

/-- The code points that have a lower-case form in a run of the table. -/
def upperPoints (r : Nat × Nat × Nat × Int) : PointRun := ⟨r.1, r.2.1, r.2.2.1⟩

/-- The lower-case forms in a run of the table. -/
def lowerPoints (r : Nat × Nat × Nat × Int) : PointRun := ⟨(r.1 + r.2.2.2).toNat, r.2.1, r.2.2.1⟩

/-- Code points that no lower-case form may be: those of the blank characters, and the capital I
with a dot, which the table leaves to `lowerAfter`. -/
def otherPoints : List PointRun :=
  [⟨0x130, 1, 1⟩, ⟨9, 5, 1⟩, ⟨0x20, 1, 1⟩, ⟨0x85, 1, 1⟩, ⟨0xa0, 1, 1⟩, ⟨0x1680, 1, 1⟩,
    ⟨0x2000, 11, 1⟩, ⟨0x2028, 2, 1⟩, ⟨0x202f, 1, 1⟩, ⟨0x205f, 1, 1⟩, ⟨0x3000, 1, 1⟩]

namespace PointRun

/-- The last code point of a run. -/
def last (q : PointRun) : Nat := q.first + (q.count - 1) * q.step

/-- Two runs have no code point in common, because one ends before the other begins, or because one
has the even and the other the odd ones. -/
def avoids (p q : PointRun) : Bool :=
  p.last.blt q.first || q.last.blt p.first ||
    ((p.count == 1 || p.step % 2 == 0) && q.step % 2 == 0 && (p.first + q.first) % 2 == 1)

variable {p q : PointRun} {n : Nat}

theorem Has.bounds (h : p.Has n) : p.first ≤ n ∧ n ≤ p.last := by
  obtain ⟨k, hk, rfl⟩ := h
  have hle : k * p.step ≤ (p.count - 1) * p.step := Nat.mul_le_mul_right _ (by omega)
  exact ⟨Nat.le_add_right _ _, Nat.add_le_add_left hle _⟩

theorem Has.parity (h : p.Has n) (hstep : p.count = 1 ∨ p.step % 2 = 0) :
    n % 2 = p.first % 2 := by
  obtain ⟨k, hk, rfl⟩ := h
  rcases hstep with hcount | hstep
  · obtain rfl : k = 0 := by omega
    simp
  · rw [Nat.add_mod, Nat.mul_mod, hstep]
    simp

theorem not_has_of_avoids (h : p.avoids q = true) (hp : p.Has n) : ¬ q.Has n := by
  intro hq
  have hpb := hp.bounds
  have hqb := hq.bounds
  simp only [avoids, Bool.or_eq_true, Nat.blt_eq, Bool.and_eq_true, beq_iff_eq] at h
  rcases h with (hlt | hlt) | ⟨⟨hstep, hstep'⟩, hodd⟩
  · omega
  · omega
  · have h₁ := hp.parity hstep
    have h₂ := hq.parity (.inr hstep')
    omega

end PointRun

/-! ## The table -/

/-- Each run of the table leads to characters. -/
theorem lowerRuns_valid : ∀ r ∈ lowerRuns, 0 < r.2.2.1 ∧ 0 ≤ r.1 + r.2.2.2 ∧
    ((lowerPoints r).last < 0xd800 ∨
      0xdfff < (lowerPoints r).first ∧ (lowerPoints r).last < 0x110000) := by
  decide +kernel

/-- No lower-case form in the table has another one. -/
theorem lowerRuns_avoid_upperPoints : (lowerRuns.all fun r => lowerRuns.all fun q =>
    (lowerPoints r).avoids (upperPoints q)) = true := by
  decide +kernel

/-- No lower-case form in the table is one of the other points. -/
theorem lowerRuns_avoid_otherPoints : (lowerRuns.all fun r => otherPoints.all fun q =>
    (lowerPoints r).avoids q) = true := by
  decide +kernel

theorem lowerIn_isSome_iff {n : Nat} {r : Nat × Nat × Nat × Int} (hr : r ∈ lowerRuns) :
    (lowerIn n r).isSome ↔ (upperPoints r).Has n := by
  obtain ⟨hstep, -, -⟩ := lowerRuns_valid r hr
  obtain ⟨first, count, step, shift⟩ := r
  simp only [lowerIn, Bool.and_eq_true, decide_eq_true_eq, beq_iff_eq]
  constructor
  · intro h
    split at h
    · next hn =>
      obtain ⟨⟨hfirst, hlast⟩, hmod⟩ := hn
      obtain ⟨k, hk⟩ := Nat.dvd_of_mod_eq_zero hmod
      refine ⟨k, ?_, ?_⟩
      · refine Nat.lt_of_mul_lt_mul_left (a := step) ?_
        rw [← hk, Nat.mul_comm]
        change n - first < count * step
        omega
      · change n = first + k * step
        rw [Nat.mul_comm, ← hk]
        omega
    · simp at h
  · rintro ⟨k, hk, rfl⟩
    have hlt : k * step < count * step := Nat.mul_lt_mul_of_pos_right hk hstep
    simp [upperPoints, hlt]

theorem toNat_ofNat {n : Nat} (h : n < 0xd800 ∨ 0xdfff < n ∧ n < 0x110000) :
    (Char.ofNat n).toNat = n := by
  have hvalid : n.isValidChar := h
  rw [Char.ofNat, dif_pos hvalid]
  rfl

/-- A lower-case form in the table lies in the run of the forms. -/
theorem has_of_lowerIn {n : Nat} {r : Nat × Nat × Nat × Int} {d : Char} (hr : r ∈ lowerRuns)
    (h : lowerIn n r = some d) : (lowerPoints r).Has d.toNat := by
  obtain ⟨k, hk, hn⟩ := (lowerIn_isSome_iff hr).1 (Option.isSome_of_eq_some h)
  obtain ⟨-, hshift, hvalid⟩ := lowerRuns_valid r hr
  have hd : Char.ofNat (n + r.2.2.2).toNat = d := by
    simp only [lowerIn] at h
    split at h
    · exact Option.some.inj h
    · simp at h
  have hform : (lowerPoints r).Has (n + r.2.2.2).toNat := by
    refine ⟨k, hk, ?_⟩
    simp only [lowerPoints, upperPoints] at hn ⊢
    rw [hn]
    push_cast
    omega
  have hbounds := hform.bounds
  rw [← hd, toNat_ofNat (by omega)]
  exact hform

/-! ## Characters in lower case -/

/-- A character that lower-casing leaves as it is. -/
structure IsLower (c : Char) : Prop where
  ne_sigma : c ≠ 'Σ'
  ne_dotted : c ≠ 'İ'
  lowerChar_eq : lowerChar c = c

instance (c : Char) : Decidable (IsLower c) :=
  decidable_of_iff (c ≠ 'Σ' ∧ c ≠ 'İ' ∧ lowerChar c = c)
    ⟨fun h => ⟨h.1, h.2.1, h.2.2⟩, fun h => ⟨h.1, h.2, h.3⟩⟩

/-- A character that no run of the table and none of the other points has is in lower case, and
not blank. -/
structure IsFinal (c : Char) : Prop where
  not_upper : ∀ r ∈ lowerRuns, ¬ (upperPoints r).Has c.toNat
  not_other : ∀ q ∈ otherPoints, ¬ q.Has c.toNat

theorem PointRun.has_of_step_eq_one {q : PointRun} {n : Nat} (hstep : q.step = 1)
    (hfirst : q.first ≤ n) (hlast : n < q.first + q.count) : q.Has n :=
  ⟨n - q.first, by omega, by rw [hstep]; omega⟩

theorem isFinal_of_lowerIn {n : Nat} {r : Nat × Nat × Nat × Int} {d : Char} (hr : r ∈ lowerRuns)
    (h : lowerIn n r = some d) : IsFinal d where
  not_upper q hq := PointRun.not_has_of_avoids
    (List.all_eq_true.1 (List.all_eq_true.1 lowerRuns_avoid_upperPoints r hr) q hq)
    (has_of_lowerIn hr h)
  not_other q hq := PointRun.not_has_of_avoids
    (List.all_eq_true.1 (List.all_eq_true.1 lowerRuns_avoid_otherPoints r hr) q hq)
    (has_of_lowerIn hr h)

namespace IsFinal

variable {c : Char}

theorem toLower_eq (h : IsFinal c) : c.toLower = c := by
  have hascii := h.not_upper (0x41, 26, 1, 32) (by decide)
  unfold Char.toLower
  rw [dif_neg]
  rintro ⟨hfirst, hlast⟩
  have hfirst : 0x41 ≤ c.toNat := hfirst
  have hlast : c.toNat ≤ 0x5a := hlast
  exact hascii (PointRun.has_of_step_eq_one rfl hfirst (Nat.lt_succ_of_le hlast))

theorem isLower (h : IsFinal c) : IsLower c where
  ne_sigma := by
    rintro rfl
    exact h.not_upper (0x3a3, 9, 1, 32) (by decide) ⟨0, by decide, rfl⟩
  ne_dotted := by
    rintro rfl
    exact h.not_other ⟨0x130, 1, 1⟩ (by simp [otherPoints]) ⟨0, by decide, rfl⟩
  lowerChar_eq := by
    unfold lowerChar
    split
    · exact h.toLower_eq
    · have hnone : lowerRuns.findSome? (lowerIn c.toNat) = none := by
        rw [List.findSome?_eq_none_iff]
        intro r hr
        rw [← Option.not_isSome_iff_eq_none, lowerIn_isSome_iff hr]
        exact h.not_upper r hr
      rw [hnone]
      rfl

theorem isBlank_eq_false (h : IsFinal c) : isBlank c = false := by
  rw [← Bool.not_eq_true]
  intro hblank
  have hpoint : ∃ q ∈ otherPoints, q.step = 1 ∧ q.first ≤ c.toNat ∧
      c.toNat < q.first + q.count := by
    simp only [isBlank, Bool.or_eq_true, Bool.and_eq_true, decide_eq_true_eq, beq_iff_eq] at hblank
    simp only [otherPoints, List.mem_cons, List.not_mem_nil, or_false, exists_eq_or_imp,
      exists_eq_left, true_and]
    omega
  obtain ⟨q, hq, hstep, hfirst, hlast⟩ := hpoint
  exact h.not_other q hq (PointRun.has_of_step_eq_one hstep hfirst hlast)

end IsFinal

theorem isLower_sigma (before after : List Char) : IsLower (sigma before after) := by
  unfold sigma
  split <;> decide

theorem isBlank_sigma (before after : List Char) : isBlank (sigma before after) = false := by
  unfold sigma
  split <;> decide

theorem toLower_ascii : ∀ n < 0x80, IsLower (Char.ofNat n).toLower ∧
    (isBlank (Char.ofNat n) = false → isBlank (Char.ofNat n).toLower = false) := by
  decide +kernel

/-- The lower-case form of a character is in lower case, and blank only if the character is. -/
theorem isLower_lowerChar {c : Char} (hsigma : c ≠ 'Σ') (hdotted : c ≠ 'İ') :
    IsLower (lowerChar c) ∧ (isBlank c = false → isBlank (lowerChar c) = false) := by
  by_cases hascii : c.toNat < 0x80
  · have h := toLower_ascii c.toNat hascii
    rw [Char.ofNat_toNat] at h
    rwa [lowerChar, if_pos hascii]
  · cases hform : lowerRuns.findSome? (lowerIn c.toNat) with
    | none =>
      have heq : lowerChar c = c := by rw [lowerChar, if_neg hascii, hform, Option.getD_none]
      rw [heq]
      exact ⟨⟨hsigma, hdotted, heq⟩, id⟩
    | some d =>
      have heq : lowerChar c = d := by rw [lowerChar, if_neg hascii, hform, Option.getD_some]
      obtain ⟨r, hr, hd⟩ := List.exists_of_findSome?_eq_some hform
      have hfinal := isFinal_of_lowerIn hr hd
      rw [heq]
      exact ⟨hfinal.isLower, fun _ => hfinal.isBlank_eq_false⟩

/-! ## Texts in lower case -/

/-- A character turns into one or more characters in lower case, blank only if it is. -/
theorem exists_lowerAfter_cons (before : List Char) (c : Char) (cs : List Char) :
    ∃ ds, ds ≠ [] ∧ lowerAfter before (c :: cs) = ds ++ lowerAfter (c :: before) cs ∧
      (∀ d ∈ ds, IsLower d) ∧ (isBlank c = false → ∀ d ∈ ds, isBlank d = false) := by
  by_cases hsigma : c = 'Σ'
  · refine ⟨[sigma before cs], by simp, by rw [lowerAfter, if_pos hsigma], ?_, fun _ => ?_⟩
    · simpa using isLower_sigma before cs
    · simpa using isBlank_sigma before cs
  · by_cases hdotted : c = 'İ'
    · have hletter : IsLower 'i' ∧ isBlank 'i' = false := by decide
      have hdot : IsLower '\u0307' ∧ isBlank '\u0307' = false := by decide
      refine ⟨['i', '\u0307'], by simp, ?_, ?_, fun _ => ?_⟩
      · rw [lowerAfter, if_neg hsigma, if_pos hdotted]
      · exact List.forall_mem_cons.2 ⟨hletter.1, List.forall_mem_singleton.2 hdot.1⟩
      · exact List.forall_mem_cons.2 ⟨hletter.2, List.forall_mem_singleton.2 hdot.2⟩
    · obtain ⟨hlower, hblank⟩ := isLower_lowerChar hsigma hdotted
      refine ⟨[lowerChar c], by simp, ?_, by simpa using hlower, fun hc => by simpa using hblank hc⟩
      rw [lowerAfter, if_neg hsigma, if_neg hdotted]

theorem isLower_of_mem_lowerAfter {before cs : List Char} {d : Char}
    (h : d ∈ lowerAfter before cs) : IsLower d := by
  induction cs generalizing before with
  | nil => simp [lowerAfter] at h
  | cons c cs ih =>
    obtain ⟨ds, -, heq, hlower, -⟩ := exists_lowerAfter_cons before c cs
    rw [heq, List.mem_append] at h
    exact h.elim (hlower d) ih

theorem lowerAfter_eq_self {before cs : List Char} (h : ∀ c ∈ cs, IsLower c) :
    lowerAfter before cs = cs := by
  induction cs generalizing before with
  | nil => rfl
  | cons c cs ih =>
    obtain ⟨hc, hcs⟩ := List.forall_mem_cons.1 h
    rw [lowerAfter, if_neg hc.ne_sigma, if_neg hc.ne_dotted, hc.lowerChar_eq, ih hcs]
    rfl

/-- Lower-casing a text in lower case changes nothing. -/
theorem lower_lower (s : String) : lower (lower s) = lower s := by
  conv_lhs => rw [lower, lower, String.toList_ofList]
  rw [lowerAfter_eq_self fun c hc => isLower_of_mem_lowerAfter hc]
  rfl

/-! ## The case of ASCII letters -/

theorem toLower_eq_self {c : Char} (h : 0x80 ≤ c.toNat) : c.toLower = c := by
  unfold Char.toLower
  rw [dif_neg]
  rintro ⟨-, hlast⟩
  have hlast : c.toNat ≤ 0x5a := hlast
  omega

/-- Characters that play the same part when a text is brought into lower case. -/
structure SameInLower (c d : Char) : Prop where
  sigma_iff : c = 'Σ' ↔ d = 'Σ'
  dotted_iff : c = 'İ' ↔ d = 'İ'
  lowerChar_eq : lowerChar c = lowerChar d
  ignorable_eq : caseIgnorable.contains c = caseIgnorable.contains d
  cased_eq : cased.contains c = cased.contains d

instance (c d : Char) : Decidable (SameInLower c d) :=
  decidable_of_iff ((c = 'Σ' ↔ d = 'Σ') ∧ (c = 'İ' ↔ d = 'İ') ∧ lowerChar c = lowerChar d ∧
      caseIgnorable.contains c = caseIgnorable.contains d ∧ cased.contains c = cased.contains d)
    ⟨fun ⟨h₁, h₂, h₃, h₄, h₅⟩ => ⟨h₁, h₂, h₃, h₄, h₅⟩,
      fun ⟨h₁, h₂, h₃, h₄, h₅⟩ => ⟨h₁, h₂, h₃, h₄, h₅⟩⟩

theorem sameInLower_toLower (c : Char) : SameInLower c.toLower c := by
  have hascii : ∀ n < 0x80, SameInLower (Char.ofNat n).toLower (Char.ofNat n) := by
    decide +kernel
  by_cases h : c.toNat < 0x80
  · simpa using hascii c.toNat h
  · rw [toLower_eq_self (Nat.not_lt.1 h)]
    exact ⟨.rfl, .rfl, rfl, rfl, rfl⟩

theorem meetsCased_map_toLower (cs : List Char) :
    meetsCased (cs.map Char.toLower) = meetsCased cs := by
  induction cs with
  | nil => rfl
  | cons c cs ih =>
    have hc := sameInLower_toLower c
    unfold meetsCased at ih ⊢
    rw [List.map_cons, List.dropWhile_cons, List.dropWhile_cons, hc.ignorable_eq]
    by_cases hignored : caseIgnorable.contains c = true
    · rw [if_pos hignored, if_pos hignored]
      exact ih
    · rw [if_neg hignored, if_neg hignored]
      exact hc.cased_eq

theorem lowerAfter_map_toLower (before cs : List Char) :
    lowerAfter (before.map Char.toLower) (cs.map Char.toLower) = lowerAfter before cs := by
  induction cs generalizing before with
  | nil => rfl
  | cons c cs ih =>
    have hc := sameInLower_toLower c
    have hrest := ih (c :: before)
    rw [List.map_cons] at hrest ⊢
    rw [lowerAfter, lowerAfter, hrest, sigma, sigma, meetsCased_map_toLower, meetsCased_map_toLower,
      hc.lowerChar_eq]
    simp only [hc.sigma_iff, hc.dotted_iff]

/-- The lower-case form of a text does not depend on the case of its ASCII letters. -/
theorem lower_eq_of_sameIgnoringAsciiCase {s t : String} (h : sameIgnoringAsciiCase s t = true) :
    lower t = lower s := by
  rw [sameIgnoringAsciiCase, beq_iff_eq] at h
  rw [lower, lower, ← lowerAfter_map_toLower [] t.toList, ← lowerAfter_map_toLower [] s.toList, h]

/-! ## Marks -/

/-- An ASCII character that is not a letter. -/
def IsMark (d : Char) : Prop := d.toNat < 0x80 ∧ d.isAlpha = false

instance (d : Char) : Decidable (IsMark d) :=
  inferInstanceAs (Decidable (d.toNat < 0x80 ∧ d.isAlpha = false))

/-- The code points of the marks. -/
def markPoints : List PointRun := [⟨0, 0x41, 1⟩, ⟨0x5b, 6, 1⟩, ⟨0x7b, 5, 1⟩]

/-- No lower-case form in the table is a mark. -/
theorem lowerRuns_avoid_markPoints : (lowerRuns.all fun r => markPoints.all fun q =>
    (lowerPoints r).avoids q) = true := by
  decide +kernel

theorem toLower_ascii_mark : ∀ n < 0x80,
    if IsMark (Char.ofNat n) then (Char.ofNat n).toLower = Char.ofNat n ∧
      ∃ q ∈ markPoints, q.step = 1 ∧ q.first ≤ n ∧ n < q.first + q.count
    else ¬ IsMark (Char.ofNat n).toLower := by
  decide +kernel

/-- Lower-casing neither changes marks nor turns other characters into them. -/
theorem lowerChar_eq_iff {c d : Char} (hd : IsMark d) : lowerChar c = d ↔ c = d := by
  have hself : ∀ {c : Char}, IsMark c → lowerChar c = c := by
    intro c hc
    have hlower := toLower_ascii_mark c.toNat hc.1
    rw [Char.ofNat_toNat, if_pos hc] at hlower
    rw [lowerChar, if_pos hc.1, hlower.1]
  have hother : ∀ {c : Char}, ¬ IsMark c → ¬ IsMark (lowerChar c) := by
    intro c hc
    by_cases hascii : c.toNat < 0x80
    · have hlower := toLower_ascii_mark c.toNat hascii
      rw [Char.ofNat_toNat, if_neg hc] at hlower
      rwa [lowerChar, if_pos hascii]
    · rw [lowerChar, if_neg hascii]
      cases hform : lowerRuns.findSome? (lowerIn c.toNat) with
      | none => exact hc
      | some e =>
        obtain ⟨r, hr, he⟩ := List.exists_of_findSome?_eq_some hform
        rw [Option.getD_some]
        intro hmark
        have hlower := toLower_ascii_mark e.toNat hmark.1
        rw [Char.ofNat_toNat, if_pos hmark] at hlower
        obtain ⟨q, hq, hstep, hfirst, hlast⟩ := hlower.2
        exact PointRun.not_has_of_avoids
          (List.all_eq_true.1 (List.all_eq_true.1 lowerRuns_avoid_markPoints r hr) q hq)
          (has_of_lowerIn hr he) (PointRun.has_of_step_eq_one hstep hfirst hlast)
  constructor
  · rintro rfl
    exact (hself (by_contra fun hc => hother hc hd)).symm
  · rintro rfl
    exact hself hd

/-- A mark stays in its place, and any other character turns into one or more that are no marks. -/
theorem exists_lowerAfter_cons_marks (before : List Char) (c : Char) (cs : List Char) :
    ∃ ds, ds ≠ [] ∧ lowerAfter before (c :: cs) = ds ++ lowerAfter (c :: before) cs ∧
      (IsMark c → ds = [c]) ∧ (¬ IsMark c → ∀ d ∈ ds, ¬ IsMark d) := by
  by_cases hsigma : c = 'Σ'
  · have hnot : ¬ IsMark c := hsigma ▸ by decide
    refine ⟨[sigma before cs], by simp, by rw [lowerAfter, if_pos hsigma], (absurd · hnot),
      fun _ => List.forall_mem_singleton.2 ?_⟩
    unfold sigma
    split <;> decide
  · by_cases hdotted : c = 'İ'
    · have hnot : ¬ IsMark c := hdotted ▸ by decide
      refine ⟨['i', '\u0307'], by simp, by rw [lowerAfter, if_neg hsigma, if_pos hdotted],
        (absurd · hnot), fun _ => List.forall_mem_cons.2 ⟨?_, List.forall_mem_singleton.2 ?_⟩⟩
      all_goals decide
    · refine ⟨[lowerChar c], by simp, by rw [lowerAfter, if_neg hsigma, if_neg hdotted], ?_, ?_⟩
      · exact fun hc => by rw [(lowerChar_eq_iff hc).2 rfl]
      · refine fun hc => List.forall_mem_singleton.2 fun hmark => hc ?_
        rwa [(lowerChar_eq_iff hmark).1 rfl]

theorem mem_lowerAfter_iff {before cs : List Char} {d : Char} (hd : IsMark d) :
    d ∈ lowerAfter before cs ↔ d ∈ cs := by
  induction cs generalizing before with
  | nil => rfl
  | cons c cs ih =>
    obtain ⟨ds, -, heq, hmark, hother⟩ := exists_lowerAfter_cons_marks before c cs
    rw [heq, List.mem_append, List.mem_cons, ih]
    refine or_congr_left ?_
    by_cases hc : IsMark c
    · rw [hmark hc, List.mem_singleton]
    · refine iff_of_false (fun h => hother hc d h hd) ?_
      rintro rfl
      exact hc hd

theorem mem_lower_iff {s : String} {d : Char} (hd : IsMark d) :
    d ∈ (lower s).toList ↔ d ∈ s.toList := by
  rw [lower, String.toList_ofList, mem_lowerAfter_iff hd]

/-- What a text in lower case has before and after a mark comes from what is before and after it. -/
theorem exists_of_lowerAfter_eq_append_cons {before cs xs ys : List Char} {m : Char}
    (h : lowerAfter before cs = xs ++ m :: ys) (hm : IsMark m) :
    ∃ us vs before', cs = us ++ m :: vs ∧ lowerAfter before' vs = ys ∧
      (∀ d, IsMark d → (d ∈ us ↔ d ∈ xs)) ∧ (us = [] ↔ xs = []) := by
  induction cs generalizing before xs with
  | nil => simp [lowerAfter] at h
  | cons c cs ih =>
    obtain ⟨ds, hne, heq, hmark, hother⟩ := exists_lowerAfter_cons_marks before c cs
    rw [heq] at h
    by_cases hfirst : xs = []
    · obtain ⟨d, ds, rfl⟩ := List.exists_cons_of_ne_nil hne
      rw [hfirst, List.nil_append, List.cons_append] at h
      obtain ⟨rfl, hys⟩ := List.cons.inj h
      have hc : IsMark c := by_contra fun hc => hother hc d (by simp) hm
      obtain ⟨rfl, rfl⟩ := List.cons.inj (hmark hc)
      exact ⟨[], cs, d :: before, rfl, hys, by simp [hfirst], by simp [hfirst]⟩
    · have hrest : ∃ xs', xs = ds ++ xs' ∧ lowerAfter (c :: before) cs = xs' ++ m :: ys := by
        rcases List.append_eq_append_iff.1 h with ⟨xs', hxs, hlower⟩ | ⟨es, hds, hes⟩
        · exact ⟨xs', hxs, hlower⟩
        · cases es with
          | nil => exact ⟨[], by simpa using hds.symm, by simpa using hes.symm⟩
          | cons e es =>
            obtain ⟨rfl, -⟩ := List.cons.inj hes
            by_cases hc : IsMark c
            · have hlength := congrArg List.length ((hmark hc).symm.trans hds)
              have hpos := List.length_pos_iff.2 hfirst
              simp only [List.length_append, List.length_cons, List.length_nil] at hlength
              omega
            · exact absurd hm (hother hc m (by simp [hds]))
      obtain ⟨xs', rfl, hlower⟩ := hrest
      obtain ⟨us, vs, before', rfl, hvs, hmarks, -⟩ := ih hlower
      refine ⟨c :: us, vs, before', rfl, hvs, fun d hd => ?_, by simp [hne]⟩
      rw [List.mem_cons, List.mem_append, hmarks d hd]
      refine or_congr_left ?_
      by_cases hc : IsMark c
      · rw [hmark hc, List.mem_singleton]
      · refine iff_of_false ?_ fun h => hother hc d h hd
        rintro rfl
        exact hc hd

/-! ## Trimmed texts -/

/-- Only what is at the ends is stripped. -/
theorem stripEnds_append_of_all {p : Char → Bool} {as bs cs : List Char}
    (has : ∀ c ∈ as, p c = true) (hbs : ∀ c ∈ bs, p c = true) :
    stripEnds p (as ++ cs ++ bs) = stripEnds p cs := by
  have hreverse : ∀ c ∈ bs.reverse, p c = true := fun c hc => hbs c (List.mem_reverse.1 hc)
  rw [stripEnds, stripEnds, List.append_assoc, List.dropWhile_append_of_pos has,
    List.dropWhile_append]
  split
  · next hcs => rw [List.isEmpty_iff.1 hcs, List.dropWhile_eq_nil_iff.2 hbs]
  · rw [List.reverse_append, List.dropWhile_append_of_pos hreverse]

/-- A list without characters of a kind at its ends. -/
structure TrimmedEnds (p : Char → Bool) (cs : List Char) : Prop where
  head : ∀ c ∈ cs.head?, p c = false
  last : ∀ c ∈ cs.getLast?, p c = false

theorem TrimmedEnds.stripEnds_eq {p : Char → Bool} {cs : List Char} (h : TrimmedEnds p cs) :
    stripEnds p cs = cs := by
  have hdrop : ∀ {l : List Char}, (∀ c ∈ l.head?, p c = false) → l.dropWhile p = l := by
    intro l hl
    cases l with
    | nil => rfl
    | cons c rest =>
      have hc : p c = false := hl c rfl
      rw [List.dropWhile_cons_of_neg (by simp [hc])]
  have hlast : ∀ c ∈ cs.reverse.head?, p c = false := by simpa using h.last
  rw [stripEnds, hdrop h.head, hdrop hlast, List.reverse_reverse]

theorem trimmedEnds_stripEnds (p : Char → Bool) (cs : List Char) :
    TrimmedEnds p (stripEnds p cs) := by
  have hhead : ∀ {l : List Char}, ∀ c ∈ (l.dropWhile p).head?, p c = false := by
    intro l c hc
    have hnot := List.head?_dropWhile_not p l
    rw [Option.mem_def.1 hc] at hnot
    simpa using hnot
  refine ⟨fun c hc => ?_, fun c hc => ?_⟩
  · have hbefore : stripEnds p cs <+: cs.dropWhile p := by
      rw [stripEnds, ← List.reverse_suffix, List.reverse_reverse]
      exact List.dropWhile_suffix p
    obtain ⟨rest, hrest⟩ := hbefore
    refine hhead (l := cs) c ?_
    rw [← hrest, List.head?_append, Option.mem_def.1 hc]
    rfl
  · rw [stripEnds, List.getLast?_reverse] at hc
    exact hhead c hc

/-- Lower-casing puts no blanks at the ends of a text. -/
theorem TrimmedEnds.lowerAfter {before cs : List Char} (h : TrimmedEnds isBlank cs) :
    TrimmedEnds isBlank (lowerAfter before cs) := by
  constructor
  · cases cs with
    | nil => simp [Text.lowerAfter]
    | cons c cs =>
      obtain ⟨ds, hne, heq, -, hblank⟩ := exists_lowerAfter_cons before c cs
      have hc : isBlank c = false := h.head c rfl
      intro d hd
      rw [heq, List.head?_append_of_ne_nil _ hne] at hd
      exact hblank hc d (List.mem_of_mem_head? hd)
  · have hlast := h.last
    clear h
    induction cs generalizing before with
    | nil => simp [Text.lowerAfter]
    | cons c cs ih =>
      obtain ⟨ds, hne, heq, -, hblank⟩ := exists_lowerAfter_cons before c cs
      rw [heq]
      cases cs with
      | nil =>
        have hc : isBlank c = false := hlast c rfl
        intro d hd
        rw [Text.lowerAfter, List.append_nil] at hd
        exact hblank hc d (List.mem_of_mem_getLast? hd)
      | cons c' rest =>
        have hne' : Text.lowerAfter (c :: before) (c' :: rest) ≠ [] :=
          mt lowerAfter_eq_nil_iff.1 (by simp)
        rw [List.getLast?_append_of_ne_nil _ hne']
        exact ih (by simpa using hlast)

/-- Lower-casing puts no marks at the ends of a text. -/
theorem TrimmedEnds.lowerAfter_of_marks {p : Char → Bool} {before cs : List Char}
    (hp : ∀ c, p c = true → IsMark c) (h : TrimmedEnds p cs) :
    TrimmedEnds p (Text.lowerAfter before cs) := by
  refine ⟨fun d hd => Bool.eq_false_iff.2 fun hpd => ?_,
    fun d hd => Bool.eq_false_iff.2 fun hpd => ?_⟩
  · obtain ⟨ys, hys⟩ := List.head?_eq_some_iff.1 hd
    have hstart : Text.lowerAfter before cs = [] ++ d :: ys := hys
    obtain ⟨us, vs, -, rfl, -, -, hnil⟩ := exists_of_lowerAfter_eq_append_cons hstart (hp d hpd)
    rw [hnil.2 rfl] at h
    exact Bool.eq_false_iff.1 (h.head d rfl) hpd
  · obtain ⟨xs, hxs⟩ := List.getLast?_eq_some_iff.1 hd
    obtain ⟨us, vs, before', rfl, hvs, -, -⟩ := exists_of_lowerAfter_eq_append_cons hxs (hp d hpd)
    obtain rfl := lowerAfter_eq_nil_iff.1 hvs
    exact Bool.eq_false_iff.1 (h.last d (by simp)) hpd

theorem trim_lower_trim (s : String) : trim (lower (trim s)) = lower (trim s) := by
  have h : TrimmedEnds isBlank (lowerAfter [] (stripEnds isBlank s.toList)) :=
    (trimmedEnds_stripEnds isBlank s.toList).lowerAfter
  simp only [trim, lower, String.toList_ofList]
  rw [h.stripEnds_eq]

end Text

/-- The normal form of a flow's name is its own normal form. -/
theorem normalFlow_normalFlow (flow : String) : normalFlow (normalFlow flow) = normalFlow flow := by
  unfold normalFlow
  rw [Text.trim_lower_trim, Text.lower_lower]

/-- The normal form of a flow's name is in lower case. -/
theorem lower_normalFlow (flow : String) : Text.lower (normalFlow flow) = normalFlow flow :=
  Text.lower_lower _

end Intake
