import Intake.Json.Value
import Intake.Numeric.Reading
import Intake.Numeric.Shortest

/-!
# The text of JSON numbers

`Number.text` writes a number and `readNumber?` reads one. A floating-point number is written with
the fewest digits that read back, with all digits for powers of ten from `-5` to `15` (`1.0`,
`0.001`) and with a signed exponent outside them (`1e+16`, `2.5e-7`).

Reading takes a numeral apart, gathers as many leading digits as fit into 64 bits, lets the digits
after them only move the power of ten, and then scales by one multiplication or by divisions. The
last binary place of a long numeral can so differ from the nearest value; a numeral beyond the
largest finite number has no value.
-/

namespace Intake.Json

/-- The layout of a decimal in JSON. -/
def floatText (d : Decimal) : List Char :=
  if -5 ≤ d.magnitude ∧ d.magnitude ≤ 15 then
    if 0 ≤ d.exponent then d.positional ++ ['.', '0'] else d.positional
  else d.scientific

/-- The text of a number. -/
def Number.text : Number → String
  | .integer i => decimalText i
  | .float (.finite s m q) =>
    String.ofList (Binary64.signText s ++
      if m = 0 then ['0', '.', '0'] else floatText (Binary64.shortest m q))
  | .float _ => "null"

/-- The bound of the natural numbers of 64 bits. -/
def wordBound : Nat := twoPow 64

/-- Appends digits to a number as long as it fits into 64 bits; gives the digits left over. -/
def gather : Nat → List Char → Nat × List Char
  | n, [] => (n, [])
  | n, c :: cs =>
    if 10 * n + digitValue c < wordBound then gather (10 * n + digitValue c) cs else (n, c :: cs)

/-- The largest power of ten that is itself a floating-point number. -/
def tenTo308 : Binary64 := Binary64.ofDecimal false 1 308

/-- Divides by powers of ten, at most `10 ^ 308` at a time. -/
def scaleDown (x : Binary64) : (power fuel : Nat) → Binary64
  | _, 0 => Binary64.zero false
  | power, fuel + 1 =>
    if power ≤ 308 then x.dividedBy (Binary64.ofDecimal false 1 power)
    else if x = Binary64.zero false then x
    else scaleDown (x.dividedBy tenTo308) (power - 308) fuel

/-- The floating-point number of gathered digits and a power of ten, none beyond the largest. -/
def scale? (digits : Nat) (power : Int) : Option Binary64 :=
  let x := Binary64.ofNat digits
  if power < 0 then some (scaleDown x power.natAbs 4)
  else if power ≤ 308 then
    some (x.times (Binary64.ofDecimal false 1 power)) |>.filter (·.isFinite)
  else if digits = 0 then some x
  else none

/-- The value of a numeral; `isWhole` when it was written without a point and an exponent. -/
def numeralValue? (negative isWhole : Bool) (n : Numeral) : Option Number :=
  let (high, leftWhole) := gather 0 n.whole
  let (digits, leftFraction) := gather high n.fraction
  if isWhole && leftWhole.isEmpty then
    if !negative then some (.integer digits)
    else if digits = 0 ∨ twoPow 63 < digits then some (.float (Binary64.ofNat digits).neg)
    else some (.integer (-digits))
  else
    let power := (leftWhole.length : Int) - (n.fraction.length - leftFraction.length) + n.power
    (scale? digits power).map fun x => .float (if negative then x.neg else x)

/-- Reads the digits of an exponent, with its sign. -/
def readPower? (cs : List Char) : Option (Int × List Char) :=
  let (negative, r) := readSign cs
  let ds := r.takeWhile isDigit
  if ds.isEmpty then none
  else some (if negative then -(digitsValue ds : Int) else digitsValue ds, r.dropWhile isDigit)

/-- Reads a minus sign, if there is one. -/
def readMinus : List Char → Bool × List Char
  | '-' :: r => (true, r)
  | r => (false, r)

/-- Reads a point and the digits after it, if there is one; says whether there was. -/
def readFraction? : List Char → Option (List Char × Bool × List Char)
  | '.' :: r =>
    let ds := r.takeWhile isDigit
    if ds.isEmpty then none else some (ds, true, r.dropWhile isDigit)
  | r => some ([], false, r)

/-- Reads an exponent, if there is one; says whether there was. -/
def readScale? : List Char → Option (Int × Bool × List Char)
  | [] => some (0, false, [])
  | c :: r =>
    if c = 'e' ∨ c = 'E' then (readPower? r).map fun (p, r') => (p, true, r')
    else some (0, false, c :: r)

/-- Reads a number: its value, if it has one, and the rest of the text. -/
def readNumber? (cs : List Char) : Option (Option Number × List Char) := do
  let (negative, cs) := readMinus cs
  let whole := cs.takeWhile isDigit
  guard (!whole.isEmpty && (whole.length == 1 || whole.head? != some '0'))
  let (fraction, hasPoint, rest) ← readFraction? (cs.dropWhile isDigit)
  let (power, hasPower, rest) ← readScale? rest
  some (numeralValue? negative (!hasPoint && !hasPower) ⟨whole, fraction, power⟩, rest)

end Intake.Json
