/-!
# Powers

The powers that number formats are made of: those of two, which count what fits into bits, and those
of ten, which count what fits into digits.
-/

namespace Intake

/-- How many numbers there are of `n` bits. -/
def twoPow (n : Nat) : Nat := Nat.pow 2 n

/-- How many numbers there are of `n` digits. -/
def tenPow (n : Nat) : Nat := Nat.pow 10 n

end Intake
