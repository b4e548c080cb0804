import Intake.Numeric.Binary64

/-!
# The fewest digits that read back

`Binary64.shortest` gives for a positive number the decimal with the fewest digits among those
that are read back as the number, and of these the nearest one. The numbers read back as a value
form an interval around it (`ReadingInterval`): halfway to the neighbour on either side, the ends
included when the mantissa is even. For one digit, then two, and so on, the two decimals of that
length next to the value are tried; seventeen digits always suffice.

`Decimal.positional` and `Decimal.scientific` lay the digits out.
-/

namespace Intake

/-- The decimal `digits * 10 ^ exponent`. -/
structure Decimal where
  digits : Nat
  exponent : Int
  deriving DecidableEq, Repr

/-- The digits of a natural number in base ten. -/
def decimalDigits (n : Nat) : List Char := Nat.toDigits 10 n

/-- The text of an integer in base ten. -/
def decimalText (i : Int) : String :=
  if i < 0 then "-" ++ String.ofList (decimalDigits i.natAbs)
  else String.ofList (decimalDigits i.natAbs)

namespace Decimal

/-- The same decimal without zeros at the end of its digits. -/
def withoutTrailingZeros : (fuel : Nat) → Decimal → Decimal
  | 0, d => d
  | fuel + 1, d =>
    if d.digits ≠ 0 ∧ d.digits % 10 = 0 then
      withoutTrailingZeros fuel ⟨d.digits / 10, d.exponent + 1⟩
    else d

/-- The decimal as a quotient. -/
def ratio (d : Decimal) : Nat × Nat :=
  if 0 ≤ d.exponent then (d.digits * tenPow d.exponent.toNat, 1)
  else (d.digits, tenPow (-d.exponent).toNat)

/-- The power of ten of the first digit. -/
def magnitude (d : Decimal) : Int :=
  (decimalDigits d.digits).length + d.exponent - 1

/-- All digits written out, without an exponent and without a point when there is no fraction. -/
def positional (d : Decimal) : List Char :=
  let ds := decimalDigits d.digits
  if 0 ≤ d.exponent then ds ++ List.replicate d.exponent.toNat '0'
  else
    let places := (-d.exponent).toNat
    if ds.length ≤ places then
      '0' :: '.' :: (List.replicate (places - ds.length) '0' ++ ds)
    else
      ds.take (ds.length - places) ++ '.' :: ds.drop (ds.length - places)

/-- One digit before the point, and the power of ten with its sign. -/
def scientific (d : Decimal) : List Char :=
  let ds := decimalDigits d.digits
  let mantissa := match ds with
    | [] => []
    | [c] => [c]
    | c :: rest => c :: '.' :: rest
  let power := d.magnitude
  mantissa ++ 'e' :: (if power < 0 then '-' else '+') :: decimalDigits power.natAbs

end Decimal

namespace Binary64

/-- The interval of the quotients that are read as a positive finite number. -/
structure ReadingInterval where
  /-- The lower end, in units of a quarter of the last binary place. -/
  low : Nat
  /-- The upper end, in the same unit. -/
  high : Nat
  /-- The unit, as a quotient. -/
  unit : Nat × Nat
  /-- Whether the ends belong to the interval. -/
  closed : Bool

/-- The interval of a mantissa and exponent. Below a power of two the neighbour is half as far. -/
def readingInterval (m : Nat) (q : Int) : ReadingInterval where
  low := 4 * m - (if m = twoPow 52 ∧ leastExponent < q then 1 else 2)
  high := 4 * m + 2
  unit := ratio 1 (q - 2)
  closed := m % 2 == 0

/-- Is a decimal in the interval? -/
def ReadingInterval.holds (i : ReadingInterval) (d : Decimal) : Bool :=
  let (n, e) := d.ratio
  let value := n * i.unit.2
  let low := i.low * i.unit.1 * e
  let high := i.high * i.unit.1 * e
  if i.closed then decide (low ≤ value) && decide (value ≤ high)
  else decide (low < value) && decide (value < high)

/-- The power of ten of the first digit of a positive quotient. -/
def leadingPower (num den : Nat) : Int :=
  if den ≤ num then (decimalDigits (num / den)).length - 1
  else -((decimalDigits ((den + num - 1) / num - 1)).length : Int)

/-- The two decimals next to a quotient that are multiples of a power of ten, the nearer first. -/
def neighbours (num den : Nat) (power : Int) : List Decimal :=
  let (n, d) :=
    if 0 ≤ power then (num, den * tenPow power.toNat) else (num * tenPow (-power).toNat, den)
  let below : Decimal := ⟨n / d, power⟩
  let above : Decimal := ⟨n / d + 1, power⟩
  if 2 * (n % d) ≤ d then [below, above] else [above, below]

/-- The first decimal in the interval with at least the given number of digits. -/
def shortestFrom (i : ReadingInterval) (num den : Nat) (first : Int) :
    (tries digits : Nat) → Decimal
  | 0, _ => ⟨num / den, 0⟩
  | tries + 1, digits =>
    match (neighbours num den (first - digits + 1)).find? i.holds with
    | some d => d
    | none => shortestFrom i num den first tries (digits + 1)

/-- The decimal with the fewest digits that is read as `mantissa * 2 ^ exponent`. -/
def shortest (m : Nat) (q : Int) : Decimal :=
  let (num, den) := ratio m q
  (shortestFrom (readingInterval m q) num den (leadingPower num den) 17 1).withoutTrailingZeros 20

/-- The sign of a number, as it is written. -/
def signText (negative : Bool) : List Char := if negative then ['-'] else []

/-- The number with all its digits written out, never with an exponent. -/
def positionalText : Binary64 → String
  | nan => "NaN"
  | infinite s => String.ofList (signText s ++ "inf".toList)
  | finite s m q =>
    String.ofList (signText s ++ if m = 0 then ['0'] else (shortest m q).positional)

end Binary64

end Intake
