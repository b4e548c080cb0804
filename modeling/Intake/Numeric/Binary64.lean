import Intake.Numeric.Power

/-!
# Binary floating-point numbers

`Binary64` holds the values of a 64-bit binary floating-point number exactly: a finite value is a
sign, a mantissa and a power of two. Values come from `Binary64.ofRatio`, which rounds a quotient
of natural numbers to the nearest mantissa below `2 ^ 53`, a tie to the even one, so that reading,
multiplying and dividing are correctly rounded by construction and no machine arithmetic is
involved. Zero has two signs, and the not-a-number is one value.
-/

namespace Intake

/-- A binary floating-point number of 64 bits. -/
inductive Binary64 where
  /-- Not a number. -/
  | nan
  /-- An infinity. -/
  | infinite (negative : Bool)
  /-- The number `± mantissa * 2 ^ exponent`. -/
  | finite (negative : Bool) (mantissa : Nat) (exponent : Int)
  deriving DecidableEq, Repr, Inhabited

namespace Binary64

/-- The least exponent: that of the subnormal numbers and of zero. -/
def leastExponent : Int := -1074

/-- The greatest exponent of a finite number. -/
def greatestExponent : Int := 971

/-- The zero of a sign. -/
def zero (negative : Bool) : Binary64 := .finite negative 0 leastExponent

/-- Is it a number, and not an infinity? -/
def isFinite : Binary64 → Bool
  | finite .. => true
  | _ => false

/-- A quotient multiplied by a power of two, again as a quotient. -/
def scaleRatio (num den : Nat) (power : Int) : Nat × Nat :=
  if 0 ≤ power then (num * twoPow power.toNat, den) else (num, den * twoPow (-power).toNat)

/-- The nearest natural number to a quotient, a tie going to the even one. -/
def roundHalfEven (num den : Nat) : Nat :=
  let whole := num / den
  let twice := 2 * (num % den)
  if twice < den then whole
  else if den < twice then whole + 1
  else if whole % 2 == 0 then whole else whole + 1

/-- The exponent for a positive quotient that puts the mantissa into `[2 ^ 52, 2 ^ 53)`. -/
def exponentFor (num den : Nat) : Int :=
  let guess : Int := (Nat.log2 num : Int) - (Nat.log2 den : Int) - 52
  let (n, d) := scaleRatio num den (-guess)
  if n / d < twoPow 52 then guess - 1 else guess

/-- The value nearest to `± num / den`, a tie going to the even mantissa. -/
def ofRatio (negative : Bool) (num den : Nat) : Binary64 :=
  if num = 0 then zero negative
  else
    let q := max leastExponent (exponentFor num den)
    let (n, d) := scaleRatio num den (-q)
    let m := roundHalfEven n d
    if m = twoPow 53 then
      if greatestExponent ≤ q then .infinite negative else .finite negative (twoPow 52) (q + 1)
    else if greatestExponent < q then .infinite negative
    else .finite negative m q

/-- The value nearest to `± digits * 10 ^ power`. Powers far outside the range of the type are
decided without computing them. -/
def ofDecimal (negative : Bool) (digits : Nat) (power : Int) : Binary64 :=
  if digits = 0 then zero negative
  else
    let size : Int := (Nat.log2 digits : Int) / 3 + power
    if 400 < power then .infinite negative
    else if size < -400 then zero negative
    else if 0 ≤ power then ofRatio negative (digits * tenPow power.toNat) 1
    else ofRatio negative digits (tenPow (-power).toNat)

/-- The value nearest to a natural number. -/
def ofNat (n : Nat) : Binary64 := ofRatio false n 1

/-- The magnitude of a finite number as a quotient. -/
def ratio (mantissa : Nat) (exponent : Int) : Nat × Nat :=
  scaleRatio mantissa 1 exponent

/-- The quotient of two finite numbers, rounded once. -/
def dividedBy : Binary64 → (divisor : Binary64) → Binary64
  | finite s m q, finite s' m' q' =>
    let (n, d) := ratio m q
    let (n', d') := ratio m' q'
    if n' = 0 then nan else ofRatio (s != s') (n * d') (d * n')
  | x, _ => x

/-- The product of two finite numbers, rounded once. -/
def times : Binary64 → Binary64 → Binary64
  | finite s m q, finite s' m' q' =>
    let (n, d) := ratio m q
    let (n', d') := ratio m' q'
    ofRatio (s != s') (n * n') (d * d')
  | infinite s, finite s' _ _ => infinite (s != s')
  | x, _ => x

/-- The other sign. -/
def neg : Binary64 → Binary64
  | nan => nan
  | infinite s => infinite (!s)
  | finite s m q => finite (!s) m q

/-- The integer that a finite number without a fractional part is. -/
def toInt? : Binary64 → Option Int
  | finite s m q =>
    let (n, d) := ratio m q
    if n % d = 0 then some (if s then -((n / d : Nat) : Int) else ((n / d : Nat) : Int)) else none
  | _ => none

/-- The integer, for a number without a fractional part below `10 ^ 15` in magnitude. -/
def smallInt? (x : Binary64) : Option Int :=
  x.toInt?.filter fun i => decide (i.natAbs < tenPow 15)

/-- Is it the number one? -/
def isOne (x : Binary64) : Bool :=
  x.toInt? == some 1

end Binary64

end Intake
