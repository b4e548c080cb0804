import Intake.Numeric.Binary64

/-!
# Reading numbers

How a text is read as a number: `Numeral` is a decimal numeral taken apart, `readNumeral?` takes a
text apart, `readBinary64?` gives the nearest floating-point number and `readNat?` a natural number
with a bound. A floating-point text may also name an infinity or the not-a-number, in any case of
letters.
-/

namespace Intake

/-- An ASCII digit. -/
def isDigit (c : Char) : Bool := '0' ≤ c && c ≤ '9'

/-- The value of a digit. -/
def digitValue (c : Char) : Nat := c.toNat - '0'.toNat

/-- The number that a list of digits spells in base ten. -/
def digitsValue (cs : List Char) : Nat :=
  cs.foldl (fun n c => 10 * n + digitValue c) 0

/-- A decimal numeral: the digits before and after the point, and the power of ten. -/
structure Numeral where
  whole : List Char
  fraction : List Char
  power : Int
  deriving DecidableEq, Repr

namespace Numeral

/-- All digits, as a number. -/
def digits (n : Numeral) : Nat := digitsValue (n.whole ++ n.fraction)

/-- The power of ten of the last digit. -/
def lastPower (n : Numeral) : Int := n.power - n.fraction.length

/-- The nearest floating-point number. -/
def toBinary64 (n : Numeral) (negative : Bool) : Binary64 :=
  Binary64.ofDecimal negative n.digits n.lastPower

end Numeral

/-- A sign in front of a numeral; without one it is positive. -/
def readSign : List Char → Bool × List Char
  | '-' :: cs => (true, cs)
  | '+' :: cs => (false, cs)
  | cs => (false, cs)

/-- An exponent at the end of a numeral: nothing, or `e` with a signed number. -/
def readExponent? : List Char → Option Int
  | [] => some 0
  | c :: cs =>
    if c = 'e' ∨ c = 'E' then
      let (negative, ds) := readSign cs
      if ds.isEmpty || !ds.all isDigit then none
      else some (if negative then -(digitsValue ds : Int) else digitsValue ds)
    else none

/-- A numeral without a sign, with at least one digit before or after the point. -/
def readNumeral? (cs : List Char) : Option Numeral :=
  let whole := cs.takeWhile isDigit
  let rest := cs.dropWhile isDigit
  let (fraction, tail) := match rest with
    | '.' :: r => (r.takeWhile isDigit, r.dropWhile isDigit)
    | r => ([], r)
  if whole.isEmpty && fraction.isEmpty then none
  else (readExponent? tail).map fun power => ⟨whole, fraction, power⟩

/-- The nearest floating-point number to the one a text spells. -/
def readBinary64? (s : String) : Option Binary64 :=
  let (negative, cs) := readSign s.toList
  let word := String.ofList (cs.map Char.toLower)
  if word == "inf" || word == "infinity" then some (.infinite negative)
  else if word == "nan" then some .nan
  else (readNumeral? cs).map (·.toBinary64 negative)

/-- The natural number below a bound that a text spells, a plus sign in front allowed. -/
def readNat? (bound : Nat) (s : String) : Option Nat :=
  let ds := match s.toList with
    | '+' :: ds => ds
    | ds => ds
  if ds.isEmpty || !ds.all isDigit then none
  else some (digitsValue ds) |>.filter (· < bound)

end Intake
