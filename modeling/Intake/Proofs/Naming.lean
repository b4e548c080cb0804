import Mathlib.Data.List.TakeWhile
import Mathlib.Tactic.SplitIfs
import Intake.Cell
import Intake.Naming
import Intake.FileStem

/-!
# Names and locations are well formed

Trimming leaves something of every text that is not blank, and lower-casing leaves something of
every text that is not empty, so that no accepted text of a cell turns into an empty name
(`Cell.text?_ne_empty`, `Text.lower_eq_empty_iff`). A name of a flow bears the prefix of the flow,
whether it was declared with it or not (`withFlowPrefix_hasFlowPrefix`, `withFlowPrefix_eq_iff`), and
a location ends with a slash, whether it was declared or derived.
-/

namespace Intake

namespace Text

/-! ## Trimming and lower-casing -/

theorem stripEnds_eq_nil_iff {p : Char → Bool} {cs : List Char} :
    stripEnds p cs = [] ↔ ∀ c ∈ cs, p c = true := by
  unfold stripEnds
  rw [List.reverse_eq_nil_iff, List.dropWhile_eq_nil_iff]
  refine ⟨fun h => ?_, fun h c hc => ?_⟩
  · have hall : ∀ c ∈ cs.dropWhile p, p c = true := fun c hc => h c (by simpa using hc)
    rw [← List.dropWhile_eq_nil_iff]
    cases hd : cs.dropWhile p with
    | nil => rfl
    | cons c rest =>
      have hc : p c = true := hall c (by simp [hd])
      have := List.head_dropWhile_not p (l := cs) (by simp [hd])
      simp [hd, hc] at this
  · exact h c ((List.dropWhile_sublist p).subset (by simpa using hc))

theorem exists_eq_append_stripEnds (p : Char → Bool) (cs : List Char) :
    ∃ as bs, cs = as ++ stripEnds p cs ++ bs ∧ (∀ c ∈ as, p c = true) ∧ ∀ c ∈ bs, p c = true := by
  refine ⟨cs.takeWhile p, ((cs.dropWhile p).reverse.takeWhile p).reverse, ?_,
    fun c hc => List.mem_takeWhile_imp hc, fun c hc => ?_⟩
  · have hend : cs.dropWhile p =
        stripEnds p cs ++ ((cs.dropWhile p).reverse.takeWhile p).reverse := by
      rw [stripEnds, ← List.reverse_append, List.takeWhile_append_dropWhile, List.reverse_reverse]
    rw [List.append_assoc, ← hend, List.takeWhile_append_dropWhile]
  · exact List.mem_takeWhile_imp (List.mem_reverse.1 hc)

theorem toList_trim (s : String) : (trim s).toList = stripEnds isBlank s.toList :=
  String.toList_ofList

theorem trim_eq_empty {s : String} (h : isBlankText s = true) : trim s = "" := by
  rw [trim, String.ofList_eq_empty_iff, stripEnds_eq_nil_iff]
  exact List.all_eq_true.1 h

theorem trim_ne_empty {s : String} (h : isBlankText s = false) : trim s ≠ "" := by
  intro ht
  rw [trim, String.ofList_eq_empty_iff, stripEnds_eq_nil_iff, ← List.all_eq_true] at ht
  rw [isBlankText, ht] at h
  exact Bool.noConfusion h

theorem trimmed?_ne_empty {s t : String} (h : trimmed? s = some t) : t ≠ "" := by
  unfold trimmed? at h
  split at h
  · simp at h
  · next hb =>
    cases h
    exact trim_ne_empty (by simpa using hb)

theorem lowerAfter_eq_nil_iff {before cs : List Char} : lowerAfter before cs = [] ↔ cs = [] := by
  cases cs with
  | nil => simp [lowerAfter]
  | cons c cs =>
    simp only [lowerAfter, List.append_eq_nil_iff, reduceCtorEq, iff_false, not_and]
    intro h
    split_ifs at h

/-- No text vanishes by lower-casing. -/
theorem lower_eq_empty_iff {s : String} : lower s = "" ↔ s = "" := by
  rw [lower, String.ofList_eq_empty_iff, lowerAfter_eq_nil_iff, String.toList_eq_nil_iff]

end Text

/-! ## Texts of cells -/

theorem decimalDigits_ne_nil (n : Nat) : decimalDigits n ≠ [] :=
  Nat.toDigits_ne_nil

theorem decimalText_ne_empty (i : Int) : decimalText i ≠ "" := by
  unfold decimalText
  split <;> simp [String.ofList_eq_empty_iff, decimalDigits_ne_nil]

theorem Decimal.positional_ne_nil (d : Decimal) : d.positional ≠ [] := by
  unfold positional
  dsimp only
  split_ifs
  all_goals simp [decimalDigits_ne_nil]

theorem Binary64.positionalText_ne_empty (x : Binary64) : x.positionalText ≠ "" := by
  cases x with
  | nan => simp [positionalText]
  | infinite s => simp [positionalText, String.ofList_eq_empty_iff]
  | finite s m q =>
    rw [positionalText, Ne, String.ofList_eq_empty_iff, List.append_eq_nil_iff, not_and]
    intro _
    split
    · simp
    · exact Decimal.positional_ne_nil _

namespace Cell

theorem numberText_ne_empty (x : Binary64) : numberText x ≠ "" := by
  unfold numberText
  split
  · exact decimalText_ne_empty _
  · exact x.positionalText_ne_empty

/-- The text of a cell is never the empty one: such a cell has none. -/
theorem text?_ne_empty {c : Cell} {s : String} (h : c.text? = some s) : s ≠ "" := by
  cases c with
  | empty => simp [text?] at h
  | text t => exact Text.trimmed?_ne_empty h
  | number x =>
    cases h
    exact numberText_ne_empty x
  | bool b =>
    cases h
    cases b <;> simp

end Cell

/-! ## The prefix of a flow -/

/-- A name in the namespace of a flow. -/
def HasFlowPrefix (flow name : String) : Prop := ∃ rest, name = flow ++ "_" ++ rest

theorem withFlowPrefix_hasFlowPrefix (name flow : String) :
    HasFlowPrefix flow (withFlowPrefix name flow) := by
  unfold withFlowPrefix
  dsimp only
  split
  · next rest h =>
    refine ⟨String.ofList rest, String.toList_injective ?_⟩
    rw [Text.dropStart?_eq_some_iff.1 h]
    simp [flowPrefix]
  · exact ⟨Text.lower name, rfl⟩

variable {flow name rest : String}

theorem dropStart?_flowPrefix_eq_some_iff {after : List Char} :
    Text.dropStart? (flowPrefix flow).toList name.toList = some after ↔
      name = flow ++ "_" ++ String.ofList after := by
  rw [Text.dropStart?_eq_some_iff, ← String.toList_inj]
  simp [flowPrefix]

theorem hasFlowPrefix_iff : HasFlowPrefix flow name ↔
    (Text.dropStart? (flowPrefix flow).toList name.toList).isSome = true := by
  rw [Option.isSome_iff_exists]
  simp only [dropStart?_flowPrefix_eq_some_iff]
  constructor
  · rintro ⟨rest, rfl⟩
    exact ⟨rest.toList, by simp⟩
  · rintro ⟨after, hafter⟩
    exact ⟨_, hafter⟩

instance (flow name : String) : Decidable (HasFlowPrefix flow name) :=
  decidable_of_iff _ hasFlowPrefix_iff.symm

theorem stripFlowPrefix_eq (flow rest : String) :
    stripFlowPrefix (flow ++ "_" ++ rest) flow = rest := by
  have hdrop : Text.dropStart? (flowPrefix flow).toList (flow ++ "_" ++ rest).toList =
      some rest.toList := dropStart?_flowPrefix_eq_some_iff.2 (by simp)
  rw [stripFlowPrefix, hdrop]
  simp

/-- A name leads to a name of the flow in one of two ways: as it is, or with the prefix that it
lacks. -/
theorem withFlowPrefix_eq_iff : withFlowPrefix name flow = flow ++ "_" ++ rest ↔
    Text.lower name = flow ++ "_" ++ rest ∨
      (Text.lower name = rest ∧ ¬ HasFlowPrefix flow (Text.lower name)) := by
  rw [hasFlowPrefix_iff]
  unfold withFlowPrefix
  dsimp only
  split
  · next after hdrop => simp [hdrop]
  · next hdrop =>
    have hbears : Text.lower name ≠ flow ++ "_" ++ rest := by
      intro heq
      have hsome := hasFlowPrefix_iff.1 ⟨rest, heq⟩
      simp [hdrop] at hsome
    rw [or_iff_right hbears, hdrop, flowPrefix, ← String.toList_inj, ← String.toList_inj]
    simp

theorem exists_withFlowPrefix_of_filename {filename flow name : String}
    (h : sourceTableOfFilename? filename flow = some name) :
    ∃ stem, name = withFlowPrefix stem flow := by
  unfold sourceTableOfFilename? at h
  dsimp only at h
  split at h
  · simp at h
  · cases h
    exact ⟨_, rfl⟩

/-! ## Slashes at the end of locations -/

theorem endsWithSlash_append_slash (location : String) :
    Path.endsWithSlash (location ++ "/") = true := by
  simp [Path.endsWithSlash]

theorem endsWithSlash_ensureTrailingSlash (location : String) :
    Path.endsWithSlash (ensureTrailingSlash location) = true := by
  unfold ensureTrailingSlash
  split
  · assumption
  · exact endsWithSlash_append_slash location

theorem endsWithSlash_tableLocation (base flow table : String) :
    Path.endsWithSlash (tableLocation base flow table) = true :=
  endsWithSlash_append_slash _

end Intake
