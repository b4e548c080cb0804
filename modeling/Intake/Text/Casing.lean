import Intake.Text.CaseTable

/-!
# Lower case

`lower` is the full lower-casing of a text: each character by itself (`lowerChar`), except that
the capital I with a dot becomes two characters and that the capital sigma takes its final form at
the end of a word (`sigma`). A word ends, for this rule, where the next character that is not
case-ignorable carries no case.
-/

namespace Intake.Text

/-- The lower-case form in a run of the table, if the code point lies in it. -/
def lowerIn (n : Nat) : Nat × Nat × Nat × Int → Option Char
  | (first, count, step, shift) =>
    if first ≤ n && n < first + count * step && (n - first) % step == 0 then
      some (Char.ofNat (n + shift).toNat)
    else
      none

/-- The lower-case form of a character that has one of a single character, else the character. -/
def lowerChar (c : Char) : Char :=
  if c.toNat < 0x80 then c.toLower
  else (lowerRuns.findSome? (lowerIn c.toNat)).getD c

/-- Does a cased character come first, after any case-ignorable ones? -/
def meetsCased (cs : List Char) : Bool :=
  match cs.dropWhile caseIgnorable.contains with
  | [] => false
  | c :: _ => cased.contains c

/-- The small sigma between the characters before it (the nearest first) and those after it. -/
def sigma (before after : List Char) : Char :=
  if meetsCased before && !meetsCased after then 'ς' else 'σ'

/-- Lower-cases the characters that follow `before` (the nearest first). -/
def lowerAfter : (before cs : List Char) → List Char
  | _, [] => []
  | before, c :: cs =>
    let here :=
      if c = 'Σ' then [sigma before cs]
      else if c = 'İ' then ['i', '\u0307']
      else [lowerChar c]
    here ++ lowerAfter (c :: before) cs

/-- The text in lower case. -/
def lower (s : String) : String :=
  String.ofList (lowerAfter [] s.toList)

/-- A text equal to `t` up to the case of ASCII letters. -/
def sameIgnoringAsciiCase (s t : String) : Bool :=
  s.toList.map Char.toLower == t.toList.map Char.toLower

end Intake.Text
