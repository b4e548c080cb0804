import Intake.Naming

/-!
# Table names from filenames

A table that does not name its source takes the name from the pattern of its files. What varies
from one file to the next is cut away: the extensions (`cutExtensions`), the placeholders that a
scheduler fills in (`removePlaceholders`), the wildcards, and the separators left at either end.
-/

namespace Intake

namespace FileStem

/-- The text before the first point after which there is no line break. -/
def cutExtensions : List Char → List Char
  | [] => []
  | c :: cs => if c = '.' ∧ '\n' ∉ cs then [] else c :: cutExtensions cs

/-- What follows a placeholder whose two opening braces have been read. -/
def afterPlaceholder? (cs : List Char) : Option (List Char) :=
  match cs.dropWhile (· != '\x7d') with
  | '\x7d' :: '\x7d' :: rest => some rest
  | _ => none

theorem length_afterPlaceholder? {cs rest : List Char} (h : afterPlaceholder? cs = some rest) :
    rest.length < cs.length := by
  have hle := (List.dropWhile_sublist (· != '\x7d') (l := cs)).length_le
  unfold afterPlaceholder? at h
  split at h
  · next r heq =>
    cases h
    rw [heq] at hle
    simp only [List.length_cons] at hle
    omega
  · simp at h

/-- The text without placeholders, each of which is two opening braces, a body without a closing
brace, and two closing braces. -/
def removePlaceholders : List Char → List Char
  | '\x7b' :: '\x7b' :: body =>
    match h : afterPlaceholder? body with
    | some rest =>
      have := length_afterPlaceholder? h
      removePlaceholders rest
    | none => '\x7b' :: removePlaceholders ('\x7b' :: body)
  | c :: cs => c :: removePlaceholders cs
  | [] => []
termination_by cs => cs.length
decreasing_by
  · simp only [List.length_cons]
    omega
  · simp
  · simp

/-- Characters that separate the parts of a filename. -/
def isSeparator (c : Char) : Bool := c == '_' || c == ' ' || c == '.' || c == '-'

/-- Characters that stand for others in a filename pattern. -/
def isWildcard (c : Char) : Bool := c == '*' || c == '?'

/-- The stem of a filename, in lower case; it may be empty. -/
def ofFilename (filename : String) : String :=
  let stem := removePlaceholders (cutExtensions (Text.trim filename).toList)
  let stem := stem.map fun c => if c = '-' then '_' else c
  let stem := (Text.stripEnds isSeparator stem).filter fun c => !isWildcard c
  Text.lower (String.ofList (Text.stripEnds (· == '_') stem))

end FileStem

/-- The name of the source table of a filename, unless nothing of the filename is left. -/
def sourceTableOfFilename? (filename flow : String) : Option String :=
  let stem := FileStem.ofFilename filename
  if stem = "" then none else some (withFlowPrefix stem flow)

end Intake
