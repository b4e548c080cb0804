/-!
# Sets of code points

A property of characters that a standard fixes by a table is kept as the increasing list of the
code points where it changes. `CodeSet.contains` counts the changes up to a character: an odd
count means that the character is in the set. A table of ranges `[a, b)`, `[c, d)`, … is then the
list `a, b, c, d, …`.
-/

namespace Intake.Text

/-- A set of code points, given by the increasing list of the points where membership changes. -/
structure CodeSet where
  /-- The first point inside, the first point outside again, and so on. -/
  changes : List Nat

namespace CodeSet

/-- A character is in the set when an odd number of changes lie at or below it. -/
def contains (s : CodeSet) (c : Char) : Bool :=
  (s.changes.takeWhile (· ≤ c.toNat)).length % 2 == 1

end CodeSet

end Intake.Text
