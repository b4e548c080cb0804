import Intake.Source.Tests

/-!
# What a condition compares

A condition is a text. Its words are separated by blanks: each comparison takes three of them, the
key standing at the beginning of the first one, and the word `and` stands between two comparisons.
`comparedKeys` reads the keys off a condition in this way. Since no partition key contains a blank,
the keys that are read are those that the condition was made of (`comparedKeys_eq`).
-/

namespace Intake

/-- The first word of each comparison: every fourth word of a condition. -/
def comparedWords : List (List Char) → List (List Char)
  | [] => []
  | word :: _ :: _ :: _ :: rest => word :: comparedWords rest
  | word :: _ => [word]

/-- What stands between a key and the variable that it is compared with. -/
def comparisonMark : List Char := "='\x7b\x7b".toList

/-- The keys that a condition compares, in order. -/
def comparedKeys (condition : String) : List String :=
  (comparedWords (condition.toList.splitOn ' ')).map fun word =>
    String.ofList (word.take (word.length - comparisonMark.length))

variable {key : String}

theorem partitionPredicate?_eq_none_iff {keys : List String} :
    partitionPredicate? keys = none ↔ keys = [] := by
  unfold partitionPredicate?
  split
  · next hempty => simpa using hempty
  · next hne => simpa using hne

theorem toList_partitionComparison (key : String) : (partitionComparison key).toList =
    (key.toList ++ comparisonMark) ++ ' ' :: (("var('".toList ++ key.toList ++ "')".toList) ++
      ' ' :: "\x7d\x7d'".toList) := by
  simp [partitionComparison, comparisonMark]

/-- The first two words of a comparison, and what is left with the text that follows it. -/
theorem splitOn_comparison (h : ' ' ∉ key.toList) (rest : List Char) :
    ((partitionComparison key).toList ++ rest).splitOn ' ' =
      (key.toList ++ comparisonMark) :: ("var('".toList ++ key.toList ++ "')".toList) ::
        ("\x7d\x7d'".toList ++ rest).splitOn ' ' := by
  have hfirst : ' ' ∉ key.toList ++ comparisonMark := by simp [h, comparisonMark]
  have hsecond : ' ' ∉ "var('".toList ++ key.toList ++ "')".toList := by simp [h]
  rw [toList_partitionComparison, List.append_assoc, List.cons_append,
    List.splitOn_append_cons_self_of_not_mem hfirst, List.append_assoc, List.cons_append,
    List.splitOn_append_cons_self_of_not_mem hsecond]

theorem comparedWords_comparison (h : ' ' ∉ key.toList) :
    comparedWords ((partitionComparison key).toList.splitOn ' ') =
      [key.toList ++ comparisonMark] := by
  have hclose : ' ' ∉ "\x7d\x7d'".toList := by decide
  have hwords := splitOn_comparison h []
  rw [List.append_nil, List.append_nil, List.splitOn_eq_singleton hclose] at hwords
  rw [hwords]
  rfl

/-- After a comparison and the word `and`, the words of the next comparison begin. -/
theorem comparedWords_comparison_and (h : ' ' ∉ key.toList) (rest : List Char) :
    comparedWords (((partitionComparison key).toList ++ " and ".toList ++ rest).splitOn ' ') =
      (key.toList ++ comparisonMark) :: comparedWords (rest.splitOn ' ') := by
  have hclose : ' ' ∉ "\x7d\x7d'".toList := by decide
  have hand : ' ' ∉ "and".toList := by decide
  have hsplit : " and ".toList ++ rest = ' ' :: ("and".toList ++ ' ' :: rest) := rfl
  rw [List.append_assoc, splitOn_comparison h, hsplit,
    List.splitOn_append_cons_self_of_not_mem hclose, List.splitOn_append_cons_self_of_not_mem hand,
    comparedWords]

theorem comparedWords_conjunction {keys : List String} (hne : keys ≠ [])
    (h : ∀ key ∈ keys, ' ' ∉ key.toList) :
    comparedWords ((" and ".intercalate (keys.map partitionComparison)).toList.splitOn ' ') =
      keys.map fun key => key.toList ++ comparisonMark := by
  induction keys with
  | nil => exact absurd rfl hne
  | cons key rest ih =>
    obtain ⟨hkey, hrest⟩ := List.forall_mem_cons.1 h
    cases rest with
    | nil =>
      rw [List.map_singleton, String.intercalate_singleton, comparedWords_comparison hkey]
      rfl
    | cons next rest =>
      have hih := ih (by simp) hrest
      rw [List.map_cons, List.map_cons, String.intercalate_cons_cons, String.toList_append,
        String.toList_append, comparedWords_comparison_and hkey, ← List.map_cons, hih]
      rfl

/-- The keys that are read off a condition are those that it was made of. -/
theorem comparedKeys_eq {keys : List String} {condition : String}
    (hcondition : partitionPredicate? keys = some condition)
    (h : ∀ key ∈ keys, ' ' ∉ key.toList) : comparedKeys condition = keys := by
  unfold partitionPredicate? at hcondition
  split at hcondition
  · simp at hcondition
  · next hne =>
    cases hcondition
    rw [comparedKeys, comparedWords_conjunction (by simpa using hne) h, List.map_map]
    refine (List.map_congr_left fun key _ => ?_).trans (List.map_id keys)
    simp

end Intake
