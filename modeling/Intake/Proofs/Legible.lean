import Intake.Compilation
import Intake.Proofs.Json.Number
import Intake.Proofs.Zip

/-!
# Documents are not containers

The texts of all documents are legible (`Mapping.legible_document`, `Yaml.Tree.legible_write`): they
have no control characters but line feeds, since JSON and YAML write all others with escapes. The
record at the end of a container begins with control characters, so that no document is read as a
workbook (`worksheetsIn_of_legible`).
-/

namespace Intake

/-- A character that is no control character, unless it ends a line. -/
def IsLegible (c : Char) : Prop := 0x20 ≤ c.toNat ∨ c = '\n'

instance (c : Char) : Decidable (IsLegible c) := inferInstanceAs (Decidable (_ ∨ _))

/-- Text without control characters but line feeds. -/
def Legible (cs : List Char) : Prop := ∀ c ∈ cs, IsLegible c

instance (cs : List Char) : Decidable (Legible cs) := List.decidableBAll IsLegible cs

namespace Legible

variable {c : Char} {cs ds : List Char}

@[simp] theorem nil : Legible [] := by simp [Legible]

@[simp] theorem cons_iff : Legible (c :: cs) ↔ IsLegible c ∧ Legible cs := List.forall_mem_cons

@[simp] theorem append_iff : Legible (cs ++ ds) ↔ Legible cs ∧ Legible ds :=
  List.forall_mem_append

theorem sublist (h : Legible cs) (hs : ds.Sublist cs) : Legible ds := fun c hc => h c (hs.subset hc)

theorem replicate (n : Nat) (h : IsLegible c) : Legible (List.replicate n c) := fun d hd => by
  rwa [List.eq_of_mem_replicate hd]

theorem flatMap {f : Char → List Char} (h : ∀ c ∈ cs, Legible (f c)) : Legible (cs.flatMap f) := by
  intro d hd
  obtain ⟨c, hc, hd⟩ := List.mem_flatMap.1 hd
  exact h c hc d hd

end Legible

/-! ## Numbers -/

theorem exists_of_mem_toDigits {base n : Nat} {c : Char} (hbase : 1 < base)
    (h : c ∈ Nat.toDigits base n) : ∃ d < base, c = d.digitChar := by
  induction n using Nat.strongRecOn with
  | _ n ih =>
    rw [Nat.toDigits_eq_if hbase] at h
    split at h
    · next hlt => exact ⟨n, hlt, List.mem_singleton.1 h⟩
    · next hge =>
      rcases List.mem_append.1 h with h | h
      · exact ih (n / base) (Nat.div_lt_self (by omega) hbase) h
      · exact ⟨n % base, Nat.mod_lt n (by omega), List.mem_singleton.1 h⟩

theorem isLegible_digitChar : ∀ d < 16, IsLegible d.digitChar ∧ IsLegible d.digitChar.toUpper := by
  decide

theorem legible_decimalDigits (n : Nat) : Legible (decimalDigits n) := by
  intro c hc
  obtain ⟨d, hd, rfl⟩ := exists_of_mem_toDigits (by decide) hc
  exact (isLegible_digitChar d (by omega)).1

theorem legible_decimalText (i : Int) : Legible (decimalText i).toList := by
  have hminus : IsLegible '-' := by decide
  unfold decimalText
  split <;> simp [legible_decimalDigits, hminus]

namespace Decimal

theorem legible_positional (d : Decimal) : Legible d.positional := by
  have hdigits := legible_decimalDigits d.digits
  have hzeros : ∀ n, Legible (List.replicate n '0') := fun n => .replicate n (by decide)
  have hzero : IsLegible '0' := by decide
  have hpoint : IsLegible '.' := by decide
  unfold positional
  split
  · simp [hdigits, hzeros]
  · dsimp only
    split
    · simp [hdigits, hzeros, hzero, hpoint]
    · have hwhole := fun n => hdigits.sublist (List.take_sublist n _)
      have hfraction := fun n => hdigits.sublist (List.drop_sublist n _)
      simp [hpoint, hwhole, hfraction]

theorem legible_scientific (d : Decimal) : Legible d.scientific := by
  have hdigits := legible_decimalDigits d.digits
  have hpoint : IsLegible '.' := by decide
  unfold scientific
  dsimp only
  rw [Legible.append_iff, Legible.cons_iff, Legible.cons_iff]
  refine ⟨?_, by decide, ?_, legible_decimalDigits _⟩
  · split
    · exact .nil
    · next h => rwa [h] at hdigits
    · next h =>
      rw [h, Legible.cons_iff] at hdigits
      exact Legible.cons_iff.2 ⟨hdigits.1, Legible.cons_iff.2 ⟨hpoint, hdigits.2⟩⟩
  · split <;> decide

end Decimal

/-! ## JSON documents -/

namespace Json

theorem legible_floatText (d : Decimal) : Legible (floatText d) := by
  have hzero : Legible ['.', '0'] := by decide
  unfold floatText
  split
  · split
    · exact Legible.append_iff.2 ⟨d.legible_positional, hzero⟩
    · exact d.legible_positional
  · exact d.legible_scientific

theorem legible_text (n : Number) : Legible n.text.toList := by
  cases n with
  | integer i => exact legible_decimalText i
  | float x =>
    cases x with
    | finite s m q =>
      have hsign : Legible (Binary64.signText s) := by cases s <;> decide
      rw [Number.text, String.toList_ofList, Legible.append_iff]
      refine ⟨hsign, ?_⟩
      split
      · decide
      · exact legible_floatText _
    | nan => decide
    | infinite s => cases s <;> decide

theorem legible_encodeChar (c : Char) : Legible (encodeChar c) := by
  have hopening : Legible ['\\', 'u', '0', '0'] := by decide
  unfold encodeChar
  split
  case h_8 =>
    split
    · next hlt =>
      have hhigh := (isLegible_digitChar (c.toNat / 16) (by omega)).1
      have hlow := (isLegible_digitChar (c.toNat % 16) (by omega)).1
      exact Legible.append_iff.2 ⟨hopening, by simpa [hexDigit] using ⟨hhigh, hlow⟩⟩
    · next hge => exact Legible.cons_iff.2 ⟨.inl (Nat.not_lt.1 hge), .nil⟩
  all_goals decide

theorem legible_encode (s : String) : Legible (encode s) := by
  have hquote : IsLegible '"' := by decide
  have hpieces : Legible (s.toList.flatMap encodeChar) :=
    .flatMap fun c _ => legible_encodeChar c
  simp [encode, hquote, hpieces]

namespace Value

theorem legible_lineBreak (depth : Nat) : Legible (lineBreak depth) :=
  Legible.cons_iff.2 ⟨by decide, .replicate _ (by decide)⟩

mutual

theorem legible_layout : ∀ (depth : Nat) (v : Value), Legible (layout depth v)
  | _, null => by rw [layout]; decide
  | _, bool true => by rw [layout]; decide
  | _, bool false => by rw [layout]; decide
  | _, number n => by rw [layout]; exact legible_text n
  | _, string s => by rw [layout]; exact legible_encode s
  | _, array [] => by rw [layout]; decide
  | depth, array (v :: rest) => by
    have hopen : IsLegible '[' := by decide
    have hclose : IsLegible ']' := by decide
    simp [layout, hopen, hclose, legible_lineBreak, legible_layout (depth + 1) v,
      legible_layoutItems (depth + 1) rest]
  | _, object [] => by rw [layout]; decide
  | depth, object ((k, v) :: rest) => by
    have hopen : IsLegible '\x7b' := by decide
    have hclose : IsLegible '\x7d' := by decide
    have hcolon : IsLegible ':' ∧ IsLegible ' ' := by decide
    simp [layout, hopen, hclose, hcolon, legible_lineBreak, legible_encode,
      legible_layout (depth + 1) v, legible_layoutMembers (depth + 1) rest]

theorem legible_layoutItems : ∀ (depth : Nat) (items : List Value),
    Legible (layoutItems depth items)
  | _, [] => by rw [layoutItems]; exact .nil
  | depth, v :: rest => by
    have hcomma : IsLegible ',' := by decide
    simp [layoutItems, hcomma, legible_lineBreak, legible_layout depth v,
      legible_layoutItems depth rest]

theorem legible_layoutMembers : ∀ (depth : Nat) (members : List (String × Value)),
    Legible (layoutMembers depth members)
  | _, [] => by rw [layoutMembers]; exact .nil
  | depth, (k, v) :: rest => by
    have hcomma : IsLegible ',' := by decide
    have hcolon : IsLegible ':' ∧ IsLegible ' ' := by decide
    simp [layoutMembers, hcomma, hcolon, legible_lineBreak, legible_encode, legible_layout depth v,
      legible_layoutMembers depth rest]

end

end Value

end Json

theorem Mapping.legible_document (m : Mapping) : Legible m.document.toList := by
  rw [Mapping.document, Json.Value.pretty, String.toList_ofList]
  exact Json.Value.legible_layout 0 _

/-! ## YAML documents -/

namespace Yaml

variable {cs : List Char} {s : String}

theorem isLegible_of_isPrintable {c : Char} (h : isPrintable c = true) : IsLegible c := by
  simp only [isPrintable, Bool.or_eq_true, Bool.and_eq_true, beq_iff_eq, decide_eq_true_eq] at h
  rcases h with (hfeed | hascii) | hlater
  · exact .inr (Char.toNat_inj.1 hfeed)
  · exact .inl hascii.1
  · exact .inl (by omega)

/-- Carriage returns are the only breaks that are not legible, and they are written with escapes. -/
theorem legible_of_not_needsEscapes (h : needsEscapes cs = false) : Legible cs := by
  simp only [needsEscapes, Bool.or_eq_false_iff, List.any_eq_false, Bool.and_eq_true,
    Bool.not_eq_true', beq_iff_eq, Bool.or_eq_true, not_and, not_or] at h
  obtain ⟨⟨hchars, hreturns⟩, -⟩ := h
  intro c hc
  cases hprintable : isPrintable c with
  | true => exact isLegible_of_isPrintable hprintable
  | false =>
    have hbreak := hchars c hc hprintable
    simp only [isBreak, Bool.not_eq_false, Bool.or_eq_true, beq_iff_eq] at hbreak
    rcases hbreak with (((rfl | rfl) | rfl) | rfl) | rfl
    · decide
    · exact absurd rfl (hreturns _ hc).1
    all_goals decide

theorem legible_hexText (width n : Nat) : Legible (hexText width n) := by
  have hdigits : Legible ((Nat.toDigits 16 n).map Char.toUpper) := by
    intro c hc
    obtain ⟨c, hdigit, rfl⟩ := List.mem_map.1 hc
    obtain ⟨d, hd, rfl⟩ := exists_of_mem_toDigits (by decide) hdigit
    exact (isLegible_digitChar d hd).2
  rw [hexText]
  exact Legible.append_iff.2 ⟨.replicate _ (by decide), hdigits⟩

theorem legible_escape (c : Char) : Legible (escape c) := by
  have hbackslash : IsLegible '\\' := by decide
  have hkinds : IsLegible 'x' ∧ IsLegible 'u' ∧ IsLegible 'U' := by decide
  unfold escape
  split
  · next e he =>
    refine Legible.cons_iff.2 ⟨hbackslash, Legible.cons_iff.2 ⟨?_, .nil⟩⟩
    unfold shortEscape? at he
    split at he
    all_goals first | cases he; decide | cases he
  · split
    · next hprintable =>
      exact Legible.cons_iff.2 ⟨isLegible_of_isPrintable hprintable, .nil⟩
    · dsimp only
      split
      · simp [hbackslash, hkinds, legible_hexText]
      · split <;> simp [hbackslash, hkinds, legible_hexText]

theorem legible_doubleQuote (cs : List Char) : Legible (doubleQuote cs) := by
  have hquote : IsLegible '"' := by decide
  have hpieces : Legible (cs.flatMap escape) := .flatMap fun c _ => legible_escape c
  simp [doubleQuote, hquote, hpieces]

theorem legible_spaces (indent : Nat) : Legible (spaces indent) := .replicate _ (by decide)

theorem legible_indentLines (indent : Nat) {write : Char → List Char}
    (hwrite : ∀ c, IsLegible c → Legible (write c)) (h : Legible cs) :
    ∀ afterBreak, Legible (indentLines indent write afterBreak cs) := by
  induction cs with
  | nil => simp [indentLines]
  | cons c cs ih =>
    obtain ⟨hc, hcs⟩ := Legible.cons_iff.1 h
    intro afterBreak
    rw [indentLines]
    split
    · exact Legible.cons_iff.2 ⟨hc, ih hcs true⟩
    · cases afterBreak <;> simp [legible_spaces, hwrite c hc, ih hcs false]

theorem legible_singleQuote (indent : Nat) (h : Legible cs) : Legible (singleQuote indent cs) := by
  have hquote : IsLegible '\'' := by decide
  have hlines := legible_indentLines indent (fun c (hc : IsLegible c) =>
    show Legible (if c == '\'' then ['\'', '\''] else [c]) by split <;> simp [hc, hquote]) h false
  have hend : Legible (if cs.getLast?.any isBreak then spaces indent else []) := by
    split <;> simp [legible_spaces]
  rw [singleQuote, Legible.append_iff, List.cons_append, Legible.cons_iff, Legible.append_iff]
  exact ⟨⟨hquote, hlines, hend⟩, by simp [hquote]⟩

theorem legible_chomping (cs : List Char) : Legible (chomping cs) := by
  unfold chomping
  split
  · decide
  · split
    · decide
    · split <;> decide

theorem legible_literalBlock (indent : Nat) (h : Legible cs) :
    Legible (literalBlock indent cs) := by
  have hbar : IsLegible '|' := by decide
  have hhint : IsLegible '2' := by decide
  have hfeed : IsLegible '\n' := by decide
  have hlines := legible_indentLines indent
    (fun c (hc : IsLegible c) => show Legible [c] by simp [hc]) h true
  unfold literalBlock
  dsimp only
  split <;> simp [hbar, hhint, hfeed, legible_chomping, hlines]

theorem legible_endLine (h : Legible cs) : Legible (endLine cs) := by
  have hfeed : IsLegible '\n' := by decide
  unfold endLine
  split
  · exact h
  · simp [h, hfeed]

/-- All styles but double quotes write characters as they are. -/
theorem legible_scalar {style : Style} (indent : Nat)
    (h : style ≠ .doubleQuoted → needsEscapes s.toList = false) :
    Legible (scalar style indent s) := by
  have hchars := fun hstyle => legible_of_not_needsEscapes (h hstyle)
  cases style with
  | plain => exact hchars (by decide)
  | singleQuoted => exact legible_singleQuote indent (hchars (by decide))
  | doubleQuoted => exact legible_doubleQuote _
  | literal => exact legible_literalBlock indent (hchars (by decide))

theorem not_needsEscapes_of_ofLine (h : Style.ofLine s ≠ .doubleQuoted) :
    needsEscapes s.toList = false := by
  unfold Style.ofLine at h
  split at h
  · next hplain =>
    simp only [fitsPlain, Bool.and_eq_true, Bool.not_eq_true'] at hplain
    exact hplain.2.1.1.1.1
  · split at h
    · next hsingle =>
      simp only [fitsSingleQuotes, Bool.and_eq_true, Bool.not_eq_true'] at hsingle
      exact hsingle.1
    · exact absurd rfl h

theorem not_needsEscapes_of_ofText (h : Style.ofText s ≠ .doubleQuoted) :
    needsEscapes s.toList = false := by
  unfold Style.ofText at h
  split at h
  · split at h
    · next hliteral =>
      simp only [fitsLiteral, Bool.and_eq_true, Bool.not_eq_true'] at hliteral
      exact hliteral.1
    · exact absurd rfl h
  · exact not_needsEscapes_of_ofLine h

theorem legible_fieldName (s : String) : Legible (fieldName s) := by
  unfold fieldName
  dsimp only
  split
  · exact legible_scalar 0 fun h => absurd rfl h
  · exact legible_scalar 0 not_needsEscapes_of_ofLine

namespace Tree

theorem legible_writeText (indent : Nat) (s : String) : Legible (writeText indent s) := by
  have hspace : IsLegible ' ' := by decide
  have hscalar := legible_scalar (s := s) (indent + 2) not_needsEscapes_of_ofText
  exact Legible.cons_iff.2 ⟨hspace, legible_endLine hscalar⟩

theorem legible_writeNumber (n : Nat) : Legible (writeNumber n) := by
  have hspace : IsLegible ' ' := by decide
  exact Legible.cons_iff.2 ⟨hspace, legible_endLine (legible_decimalDigits n)⟩

theorem legible_emptyList : Legible emptyList := by decide

theorem legible_emptyRecord : Legible emptyRecord := by decide

mutual

theorem legible_writeValue (indent : Nat) : ∀ t : Tree, Legible (writeValue indent t)
  | text s => legible_writeText indent s
  | number n => legible_writeNumber n
  | list items => by
    have hfeed : IsLegible '\n' := by decide
    rw [writeValue]
    split
    · exact legible_emptyList
    · exact Legible.cons_iff.2 ⟨hfeed, legible_writeItems indent (legible_spaces indent) items⟩
  | record fields => by
    have hfeed : IsLegible '\n' := by decide
    rw [writeValue]
    split
    · exact legible_emptyRecord
    · exact Legible.cons_iff.2
        ⟨hfeed, legible_writeFields (indent + 2) (legible_spaces (indent + 2)) fields⟩

theorem legible_writeItem (indent : Nat) : ∀ t : Tree, Legible (writeItem indent t)
  | text s => legible_writeText indent s
  | number n => legible_writeNumber n
  | list items => by
    have hspace : IsLegible ' ' := by decide
    rw [writeItem]
    split
    · exact legible_emptyList
    · exact Legible.cons_iff.2 ⟨hspace, legible_writeItems (indent + 2) .nil items⟩
  | record fields => by
    have hspace : IsLegible ' ' := by decide
    rw [writeItem]
    split
    · exact legible_emptyRecord
    · exact Legible.cons_iff.2 ⟨hspace, legible_writeFields (indent + 2) .nil fields⟩

theorem legible_writeItems (indent : Nat) : ∀ {lead : List Char}, Legible lead →
    ∀ items : List Tree, Legible (writeItems indent lead items)
  | _, _, [] => by rw [writeItems]; exact .nil
  | _, hlead, t :: rest => by
    have hdash : IsLegible '-' := by decide
    simp [writeItems, hdash, hlead, legible_writeItem indent t,
      legible_writeItems indent (legible_spaces indent) rest]

theorem legible_writeFields (indent : Nat) : ∀ {lead : List Char}, Legible lead →
    ∀ fields : List (String × Tree), Legible (writeFields indent lead fields)
  | _, _, [] => by rw [writeFields]; exact .nil
  | _, hlead, (name, t) :: rest => by
    have hcolon : IsLegible ':' := by decide
    simp [writeFields, hcolon, hlead, legible_fieldName, legible_writeValue indent t,
      legible_writeFields indent (legible_spaces indent) rest]

end

theorem legible_write (t : Tree) : Legible t.write.toList := by
  unfold write
  split
  · rw [String.toList_ofList]
    exact legible_writeFields 0 .nil _
  · rw [String.toList_ofList]
    exact legible_writeItems 0 .nil _
  · rw [String.toList_ofList]
    exact (legible_writeValue 0 t).sublist (List.drop_sublist 1 _)

end Tree

end Yaml

/-! ## Containers -/

theorem toNat_of_mem_utf8EncodeChar {c : Char} {b : UInt8} (hb : b.toNat < 128)
    (h : b ∈ String.utf8EncodeChar c) : c.toNat = b.toNat := by
  unfold String.utf8EncodeChar at h
  dsimp only at h
  split at h
  · next hle =>
    rw [List.mem_singleton.1 h, UInt8.toNat_ofNat']
    change c.val.toNat = _
    omega
  -- All bytes of longer encodings are at least 128.
  · exfalso
    split_ifs at h <;> simp only [List.mem_cons, List.not_mem_nil, or_false] at h
    · rcases h with rfl | rfl <;> rw [UInt8.toNat_ofNat'] at hb <;> omega
    · rcases h with rfl | rfl | rfl <;> rw [UInt8.toNat_ofNat'] at hb <;> omega
    · rcases h with rfl | rfl | rfl | rfl <;> rw [UInt8.toNat_ofNat'] at hb <;> omega

/-- In UTF-8 every byte below 128 is a character of its own. -/
theorem exists_mem_toList_of_mem_toUTF8 {s : String} {b : UInt8} (hb : b.toNat < 128)
    (h : b ∈ s.toUTF8.data.toList) : ∃ c ∈ s.toList, c.toNat = b.toNat := by
  rw [String.toUTF8_eq_toByteArray, ← String.utf8Encode_toList, List.utf8Encode,
    List.data_toByteArray, List.toList_toArray, List.mem_flatMap] at h
  obtain ⟨c, hc, hbyte⟩ := h
  exact ⟨c, hc, toNat_of_mem_utf8EncodeChar hb hbyte⟩

theorem not_mem_toUTF8 {s : String} (h : Legible s.toList) :
    (5 : UInt8) ∉ s.toUTF8.data.toList := by
  intro hmem
  obtain ⟨c, hc, hcode⟩ := exists_mem_toList_of_mem_toUTF8 (by decide) hmem
  have hcode : c.toNat = 5 := hcode
  rcases h c hc with hle | rfl
  · omega
  · simp at hcode

namespace Zip

/-- The third byte of the record at the end is a control character. -/
theorem hasSignature_endSignature_of_not_mem {b : ByteArray} (h : (5 : UInt8) ∉ b.data.toList)
    (place : Nat) : hasSignature b endSignature place = false := by
  rw [hasSignature, beq_eq_false_iff_ne]
  intro hsignature
  obtain ⟨b₀, n₁, -, h₁, heq₀⟩ := natAt?_eq_some_succ_iff.1 hsignature
  obtain ⟨b₁, n₂, -, h₂, rfl⟩ := natAt?_eq_some_succ_iff.1 h₁
  obtain ⟨b₂, n₃, hbyte, -, rfl⟩ := natAt?_eq_some_succ_iff.1 h₂
  have hlt₀ := b₀.toNat_lt
  have hlt₁ := b₁.toNat_lt
  have hlt₂ := b₂.toNat_lt
  rw [endSignature] at heq₀
  have hcode : b₂.toNat = 5 := by omega
  have hthird : b₂ = 5 := UInt8.toNat_inj.1 hcode
  rw [getElem?_eq, hthird] at hbyte
  exact h (List.mem_of_getElem? hbyte)

theorem read_of_not_mem {b : ByteArray} (h : (5 : UInt8) ∉ b.data.toList) :
    read b = .error (.invalid .notContainer) := by
  have hrecord : ∀ place, readEndRecord? b place = none := fun place => by
    simp [readEndRecord?, hasSignature_endSignature_of_not_mem h]
  have hbefore : ∀ n, entriesBefore? b n = none := fun n => by
    induction n with
    | zero => rfl
    | succ n ih => rw [entriesBefore?, hrecord, Option.bind_none, ih]
  rw [read, entries?, hbefore, Option.map_none]

end Zip

/-- Legible text is no workbook. -/
theorem worksheetsIn_of_legible {path s : String} (h : Legible s.toList) :
    worksheetsIn path s.toUTF8 = .error (.workbookInvalid path .notContainer) := by
  rw [worksheetsIn, partsOf, Zip.read_of_not_mem (not_mem_toUTF8 h)]

end Intake
