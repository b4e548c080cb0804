import Mathlib.Data.List.Forall2
import Intake.Json.Term

/-!
# Strings read back

Reading what `encode` writes gives the text, whatever follows the closing quote
(`Term.readString?_encode`). Each character is read as one piece that spells it (`Piece.Spells`):
as itself, or, a control without a short escape, as the code unit of its number.
-/

namespace Intake.Json

namespace Piece

/-- A piece that stands for a character by itself. -/
def Spells (p : Piece) (c : Char) : Prop := p = .char c ∨ p = .unit c.toNat ∧ c.toNat < 0x20

/-- A code unit below the surrogates is a character, whatever comes after it. -/
theorem join?_unit {n : Nat} (h : n < 0x20) (rest : List Piece) :
    join? (.unit n :: rest) = (join? rest).map (Char.ofNat n :: ·) := by
  have hhigh : isHigh n = false := by simp [isHigh]; omega
  have hlow : isLow n = false := by simp [isLow]; omega
  cases rest with
  | nil => simp [join?, hhigh, hlow]
  | cons p rest => cases p <;> simp [join?, hhigh, hlow]

theorem join?_of_spells {pieces : List Piece} {cs : List Char}
    (h : List.Forall₂ Spells pieces cs) : join? pieces = some cs := by
  induction h with
  | nil => rfl
  | cons hp _ ih =>
    rcases hp with rfl | ⟨rfl, hlt⟩
    · simp [join?, ih]
    · rw [join?_unit hlt, ih, Option.map_some, Char.ofNat_toNat]

end Piece

/-! ## Characters -/

theorem hexValue?_hexDigit (n : Nat) (h : n < 16) : hexValue? (hexDigit n) = some n := by
  have hall : ∀ m < 16, hexValue? (hexDigit m) = some m := by decide
  exact hall n h

theorem readPieces?_escaped {c e : Char} (h : shortEscape? e = some c) (he : e ≠ 'u')
    (rest : List Char) :
    readPieces? ('\\' :: e :: rest) = (readPieces? rest).map fun q => (.char c :: q.1, q.2) := by
  simp only [readPieces?, he, h, false_implies, implies_true, Option.bind_eq_bind,
    Option.bind_some]
  cases readPieces? rest <;> rfl

theorem readPieces?_unit {n : Nat} (h : n < 0x20) (rest : List Char) :
    readPieces? ('\\' :: 'u' :: '0' :: '0' :: hexDigit (n / 16) :: hexDigit (n % 16) :: rest) =
      (readPieces? rest).map fun q => (.unit n :: q.1, q.2) := by
  have hzero : hexValue? '0' = some 0 := by decide
  have hunit : hexUnit? '0' '0' (hexDigit (n / 16)) (hexDigit (n % 16)) = some n := by
    simp only [hexUnit?, hzero, hexValue?_hexDigit (n / 16) (by omega),
      hexValue?_hexDigit (n % 16) (by omega), Option.bind_eq_bind, Option.bind_some,
      Option.pure_def, Option.some.injEq]
    omega
  simp only [readPieces?, hunit, Option.bind_eq_bind, Option.bind_some]
  cases readPieces? rest <;> rfl

theorem readPieces?_plain {c : Char} (hq : c ≠ '"') (hb : c ≠ '\\') (h : ¬c.toNat < 0x20)
    (rest : List Char) :
    readPieces? (c :: rest) = (readPieces? rest).map fun q => (.char c :: q.1, q.2) := by
  simp only [readPieces?, hb, h, or_self, if_false, false_implies, implies_true,
    Option.bind_eq_bind]
  cases readPieces? rest <;> rfl

/-- A written character is read as a piece that spells it. -/
theorem exists_piece_encodeChar (c : Char) : ∃ p : Piece, p.Spells c ∧ ∀ rest,
    readPieces? (encodeChar c ++ rest) = (readPieces? rest).map fun q => (p :: q.1, q.2) := by
  have hshort : ∀ e, encodeChar c = ['\\', e] → shortEscape? e = some c → e ≠ 'u' →
      ∃ p : Piece, p.Spells c ∧ ∀ rest,
        readPieces? (encodeChar c ++ rest) = (readPieces? rest).map fun q => (p :: q.1, q.2) :=
    fun e hc he hu => ⟨.char c, Or.inl rfl, fun rest => by
      rw [hc]
      exact readPieces?_escaped he hu rest⟩
  by_cases h1 : c = '"'
  · subst h1; exact hshort '"' rfl rfl (by decide)
  by_cases h2 : c = '\\'
  · subst h2; exact hshort '\\' rfl rfl (by decide)
  by_cases h3 : c = '\x08'
  · subst h3; exact hshort 'b' rfl rfl (by decide)
  by_cases h4 : c = '\x0c'
  · subst h4; exact hshort 'f' rfl rfl (by decide)
  by_cases h5 : c = '\n'
  · subst h5; exact hshort 'n' rfl rfl (by decide)
  by_cases h6 : c = '\r'
  · subst h6; exact hshort 'r' rfl rfl (by decide)
  by_cases h7 : c = '\t'
  · subst h7; exact hshort 't' rfl rfl (by decide)
  have hc : encodeChar c = if c.toNat < 0x20 then
      ['\\', 'u', '0', '0', hexDigit (c.toNat / 16), hexDigit (c.toNat % 16)] else [c] := by
    rw [encodeChar]
    all_goals assumption
  by_cases hlt : c.toNat < 0x20
  · refine ⟨.unit c.toNat, Or.inr ⟨rfl, hlt⟩, fun rest => ?_⟩
    rw [hc, if_pos hlt]
    exact readPieces?_unit hlt rest
  · refine ⟨.char c, Or.inl rfl, fun rest => ?_⟩
    rw [hc, if_neg hlt]
    exact readPieces?_plain h1 h2 hlt rest

/-! ## Texts -/

theorem readPieces?_encode (cs rest : List Char) : ∃ pieces,
    readPieces? (cs.flatMap encodeChar ++ '"' :: rest) = some (pieces, rest) ∧
      List.Forall₂ Piece.Spells pieces cs := by
  induction cs with
  | nil => exact ⟨[], rfl, .nil⟩
  | cons c cs ih =>
    obtain ⟨pieces, hread, hspell⟩ := ih
    obtain ⟨p, hp, hc⟩ := exists_piece_encodeChar c
    refine ⟨p :: pieces, ?_, .cons hp hspell⟩
    rw [List.flatMap_cons, List.append_assoc, hc, hread]
    rfl

/-- Reading a written text gives the text and what follows it. -/
theorem Term.readString?_encode (s : String) (rest : List Char) :
    readString? (s.toList.flatMap encodeChar ++ '"' :: rest) = some (some s, rest) := by
  obtain ⟨pieces, hread, hspell⟩ := readPieces?_encode s.toList rest
  rw [readString?, hread]
  simp only [Option.map_some, Piece.join?_of_spells hspell, String.ofList_toList]

end Intake.Json
