import Intake.Json.Value
import Intake.Numeric.Shortest
import Intake.Text.Blank
import Intake.Text.Casing

/-!
# Cells

A cell of a worksheet and the ways the rest of the library reads one: as text (`Cell.text?`), as a
flag (`Cell.isTrue`), as a marker (`Cell.isMarker`) and as a JSON value (`Cell.toJson`). Blanks
around a text never count. A number without a fractional part reads as an integer, so that a
length typed as a number and one typed as a text are the same.
-/

namespace Intake

/-- The content of a cell. -/
inductive Cell where
  | empty
  | text (s : String)
  | number (x : Binary64)
  | bool (b : Bool)
  deriving DecidableEq, Repr, Inhabited

namespace Cell

/-- Without content, or with a text of blanks only. -/
def isBlank : Cell → Bool
  | empty => true
  | text s => Text.isBlankText s
  | _ => false

/-- The cell with a text trimmed. -/
def trimmed : Cell → Cell
  | text s => text (Text.trim s)
  | c => c

/-- The text of a number: an integer without a point, and all digits of any other number. -/
def numberText (x : Binary64) : String :=
  match x.smallInt? with
  | some i => decimalText i
  | none => x.positionalText

/-- The content as text, when there is any. -/
def text? : Cell → Option String
  | empty => none
  | text s => Text.trimmed? s
  | number x => some (numberText x)
  | bool b => some (if b then "true" else "false")

/-- Does the cell hold exactly this text, but for blanks around it? -/
def isMarker (marker : String) : Cell → Bool
  | text s => Text.trim s == marker
  | _ => false

/-- The texts that set a flag, in lower case. -/
def trueTokens : List String := ["yes", "y", "true", "t", "si", "1"]

/-- The content as a flag; whatever is not known as true is false. -/
def isTrue : Cell → Bool
  | empty => false
  | text s => trueTokens.contains (Text.lower (Text.trim s))
  | number x => x.isOne
  | bool b => b

/-- The content as a JSON value. -/
def toJson : Cell → Json.Value
  | empty => .string ""
  | text s => .string (Text.trim s)
  | number x =>
    match x.smallInt? with
    | some i => .number (.integer i)
    | none => if x.isFinite then .number (.float x) else .null
  | bool b => .bool b

theorem settled_toJson (c : Cell) : c.toJson.Settled := by
  cases c with
  | empty => trivial
  | text s => trivial
  | bool b => trivial
  | number x =>
    simp only [toJson]
    cases h : x.smallInt? with
    | some i =>
      have h := (Option.filter_eq_some_iff.1 h).2
      simp only [decide_eq_true_eq] at h
      simp only [Json.Value.Settled, Json.Number.inRange, Bool.and_eq_true, decide_eq_true_eq]
      have h63 : tenPow 15 ≤ twoPow 63 := by decide
      have h64 : twoPow 63 ≤ twoPow 64 := by decide
      omega
    | none =>
      by_cases hf : x.isFinite = true
      · simp [hf, Json.Value.Settled, Json.Number.inRange]
      · simp [hf, Json.Value.Settled]

end Cell

end Intake
