/-!
# Reading UTF-8 leniently

`decodeLenient` reads bytes as UTF-8 and puts a replacement character where they are not: one for
each longest beginning of a character that is broken off, and one for each byte that begins none.
-/

namespace Intake.Text

/-- A character of which some bytes are still to come. -/
structure PartialChar where
  left : Nat
  value : Nat
  /-- The least and the greatest byte that may come next. -/
  least : UInt8
  greatest : UInt8

/-- What a byte begins: a character of its own or one of several bytes; nothing when no character
begins with it. -/
def beginChar (b : UInt8) : Option (Char ⊕ PartialChar) :=
  if b < 0x80 then some (.inl (Char.ofNat b.toNat))
  else if b < 0xc2 then none
  else if b < 0xe0 then some (.inr ⟨1, b.toNat - 0xc0, 0x80, 0xbf⟩)
  else if b < 0xf0 then
    some (.inr ⟨2, b.toNat - 0xe0,
      if b == 0xe0 then 0xa0 else 0x80, if b == 0xed then 0x9f else 0xbf⟩)
  else if b < 0xf5 then
    some (.inr ⟨3, b.toNat - 0xf0,
      if b == 0xf0 then 0x90 else 0x80, if b == 0xf4 then 0x8f else 0xbf⟩)
  else none

/-- Is a byte one that may come next? -/
def PartialChar.accepts (p : PartialChar) (b : UInt8) : Bool := p.least ≤ b && b ≤ p.greatest

/-- The characters of bytes, after the beginning of a character. -/
def decodeAfter : Option PartialChar → List UInt8 → List Char
  | none, [] => []
  | some _, [] => ['\ufffd']
  | pending, b :: bs =>
    match pending.filter (·.accepts b) with
    | some p =>
      let value := 64 * p.value + (b.toNat - 0x80)
      if p.left ≤ 1 then Char.ofNat value :: decodeAfter none bs
      else decodeAfter (some ⟨p.left - 1, value, 0x80, 0xbf⟩) bs
    | none =>
      let broken := if pending.isSome then ['\ufffd'] else []
      match beginChar b with
      | some (.inl c) => broken ++ c :: decodeAfter none bs
      | some (.inr p) => broken ++ decodeAfter (some p) bs
      | none => broken ++ '\ufffd' :: decodeAfter none bs

/-- The text of bytes, with replacement characters where they are not UTF-8. -/
def decodeLenient (b : ByteArray) : String := String.ofList (decodeAfter none b.toList)

end Intake.Text
