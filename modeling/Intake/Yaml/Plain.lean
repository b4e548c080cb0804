import Intake.Numeric.Reading

/-!
# What a plain scalar stands for

A scalar without quotes is a null, a truth value or a number when it has the form of one, and a
text otherwise (`Plain.ofChars`). Integers may be written in base ten, sixteen, eight or two. Digits
after a leading zero make a text, so that codes keep their zeros. An integer beyond 64 bits but
within 128 is recognised but has no value here (`Plain.wideInteger`); beyond that it is read as a
floating-point number.
-/

namespace Intake.Yaml

/-- What a plain scalar stands for. -/
inductive Plain where
  | null
  | bool (b : Bool)
  | integer (i : Int)
  /-- An integer that needs more than 64 bits. -/
  | wideInteger
  | float (x : Binary64)
  | text
  deriving DecidableEq, Repr

/-- The value of a digit in a base up to sixteen. -/
def digitIn? (base : Nat) (c : Char) : Option Nat :=
  let value :=
    if '0' ≤ c && c ≤ '9' then c.toNat - '0'.toNat
    else if 'a' ≤ c && c ≤ 'f' then c.toNat - 'a'.toNat + 10
    else if 'A' ≤ c && c ≤ 'F' then c.toNat - 'A'.toNat + 10
    else base
  if value < base then some value else none

/-- The number that digits in a base spell, appended to those read before. -/
def digitsFrom? (base : Nat) : (value : Nat) → List Char → Option Nat
  | value, [] => some value
  | value, c :: cs =>
    match digitIn? base c with
    | some d => digitsFrom? base (base * value + d) cs
    | none => none

/-- The number that a numeral in a base spells; it has at least one digit. -/
def readDigits? (base : Nat) (cs : List Char) : Option Nat :=
  if cs.isEmpty then none else digitsFrom? base 0 cs

/-- Digits that begin with a zero too many. -/
def zeroPadded : List Char → Bool
  | '0' :: c :: cs => (c :: cs).all isDigit
  | _ => false

/-- An integer without a sign, in one of the four bases. -/
def readMagnitude? : List Char → Option Nat
  | '0' :: 'x' :: ds => readDigits? 16 ds
  | '0' :: 'o' :: ds => readDigits? 8 ds
  | '0' :: 'b' :: ds => readDigits? 2 ds
  | ds => if zeroPadded ds then none else readDigits? 10 ds

/-- An integer with or without a sign. -/
def readInteger? : List Char → Option Int
  | '-' :: ds => (readMagnitude? ds).map fun n => -(n : Int)
  | '+' :: ds => (readMagnitude? ds).map fun n => (n : Int)
  | ds => (readMagnitude? ds).map fun n => (n : Int)

/-- The text without a sign in front. -/
def dropSign : List Char → List Char
  | '-' :: cs => cs
  | '+' :: cs => cs
  | cs => cs

/-- A floating-point number that is written without a plus sign. -/
def readUnsignedFloat? (cs : List Char) : Option Binary64 :=
  let s := String.ofList cs
  if s ∈ [".inf", ".Inf", ".INF"] then some (.infinite false)
  else (readBinary64? s).filter (·.isFinite)

/-- A floating-point number: a decimal numeral in range, an infinity or the not-a-number. -/
def readFloat? (cs : List Char) : Option Binary64 :=
  let s := String.ofList cs
  if s ∈ ["-.inf", "-.Inf", "-.INF"] then some (.infinite true)
  else if s ∈ [".nan", ".NaN", ".NAN"] then some .nan
  else match cs with
    | '+' :: '+' :: _ => none
    | '+' :: '-' :: _ => none
    | '+' :: rest => readUnsignedFloat? rest
    | _ => readUnsignedFloat? cs

/-- Does a text spell null? -/
def isNullWord (s : String) : Bool := s ∈ ["null", "Null", "NULL", "~"]

/-- The truth value that a text spells. -/
def readBool? (s : String) : Option Bool :=
  if s ∈ ["true", "True", "TRUE"] then some true
  else if s ∈ ["false", "False", "FALSE"] then some false
  else none

namespace Plain

/-- An integer, when it fits into 128 bits. -/
def ofInteger? (i : Int) : Option Plain :=
  if -(twoPow 63 : Int) ≤ i ∧ i < twoPow 64 then some (integer i)
  else if -(twoPow 127 : Int) ≤ i ∧ i < twoPow 128 then some wideInteger
  else none

/-- What a scalar that is neither null nor a truth value nor an integer stands for. -/
def floatOrText (cs : List Char) : Plain :=
  if zeroPadded (dropSign cs) then text
  else match readFloat? cs with
    | some x => float x
    | none => text

/-- What a plain scalar stands for; an empty one is null. -/
def ofString (s : String) : Plain :=
  if s = "" ∨ isNullWord s then null
  else match readBool? s with
    | some b => bool b
    | none =>
      match (readInteger? s.toList).bind ofInteger? with
      | some p => p
      | none => floatOrText s.toList

/-- Would the text be read as a text when it is written without quotes? -/
def isText (s : String) : Bool := ofString s == text

end Plain

end Intake.Yaml
