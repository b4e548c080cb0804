import Intake.Proofs.Json.Layout
import Intake.Proofs.KeyMap

/-!
# Settled values as terms

A settled value is the value of its term (`Term.value?_ofValue`), as long as it is no deeper than
the reader goes, and the value of a term is no deeper than that (`Term.depth_le_of_value?`). The
reader sorts the members of every object, which leaves those of a settled one as they are.
-/

namespace Intake.Json

namespace Value

theorem itemsDepth_le_iff {items : List Value} {n : Nat} :
    itemsDepth items ≤ n ↔ ∀ v ∈ items, v.depth ≤ n := by
  induction items with
  | nil => simp [itemsDepth]
  | cons v rest ih => rw [itemsDepth, Nat.max_le, List.forall_mem_cons, ih]

theorem membersDepth_le_iff {members : List (String × Value)} {n : Nat} :
    membersDepth members ≤ n ↔ ∀ e ∈ members, e.2.depth ≤ n := by
  induction members with
  | nil => simp [membersDepth]
  | cons e rest ih => rw [membersDepth, Nat.max_le, List.forall_mem_cons, ih]

mutual

/-- The numbers in a settled value are in range. -/
theorem inRange_of_mem_numbers : ∀ {v : Value}, v.Settled → ∀ n ∈ v.numbers, n.inRange = true
  | .null, _, n, hn => by simp [numbers] at hn
  | .bool _, _, n, hn => by simp [numbers] at hn
  | .number m, h, n, hn => by
    rw [numbers, List.mem_singleton] at hn
    rw [hn]
    exact h
  | .string _, _, n, hn => by simp [numbers] at hn
  | .array _, h, n, hn => inRange_of_mem_itemsNumbers (allSettled_iff.1 h) n hn
  | .object _, h, n, hn => inRange_of_mem_membersNumbers (membersSettled_iff.1 h.2) n hn

theorem inRange_of_mem_itemsNumbers : ∀ {items : List Value}, (∀ v ∈ items, v.Settled) →
    ∀ n ∈ itemsNumbers items, n.inRange = true
  | [], _, n, hn => by simp [itemsNumbers] at hn
  | v :: rest, h, n, hn => by
    obtain ⟨hv, hrest⟩ := List.forall_mem_cons.1 h
    rcases List.mem_append.1 hn with hn | hn
    · exact inRange_of_mem_numbers hv n hn
    · exact inRange_of_mem_itemsNumbers hrest n hn

theorem inRange_of_mem_membersNumbers : ∀ {members : List (String × Value)},
    (∀ e ∈ members, e.2.Settled) → ∀ n ∈ membersNumbers members, n.inRange = true
  | [], _, n, hn => by simp [membersNumbers] at hn
  | (_, v) :: rest, h, n, hn => by
    obtain ⟨hv, hrest⟩ := List.forall_mem_cons.1 h
    rcases List.mem_append.1 hn with hn | hn
    · exact inRange_of_mem_numbers hv n hn
    · exact inRange_of_mem_membersNumbers hrest n hn

end

/-- The floating-point numbers in the value read back. -/
def FloatsReadBack (v : Value) : Prop :=
  ∀ n ∈ v.numbers, n.isFloat = true → n.ReadsBack

instance (v : Value) : Decidable v.FloatsReadBack :=
  inferInstanceAs (Decidable (∀ n ∈ v.numbers, n.isFloat = true → n.ReadsBack))

/-- All numbers in a settled value read back when its floating-point numbers do. -/
theorem readsBack_of_mem_numbers {v : Value} (h : v.Settled) (hf : v.FloatsReadBack) :
    ∀ n ∈ v.numbers, n.ReadsBack := by
  intro n hn
  cases n with
  | integer i => exact Number.readsBack_integer (inRange_of_mem_numbers h _ hn)
  | float x => exact hf _ hn rfl

end Value

namespace Term

/-! ## The value of the term of a value -/

mutual

/-- A settled value that is not too deep is the value of its term. -/
theorem value?_ofValue : ∀ {levels : Nat} {v : Value}, v.Settled → v.depth ≤ levels →
    (ofValue v).value? levels = some v
  | _, .null, _, _ => by rw [ofValue, value?]
  | _, .bool b, _, _ => by rw [ofValue, value?]
  | _, .number n, h, _ => by
    have hn : n.inRange = true := h
    simp [ofValue, value?, hn]
  | _, .string s, _, _ => by simp [ofValue, value?]
  | 0, .array items, _, hd => by simp [Value.depth] at hd
  | levels + 1, .array items, h, hd => by
    have hitems := values?_ofValues (Value.allSettled_iff.1 h)
      (Value.itemsDepth_le_iff.1 (Nat.le_of_succ_le_succ hd))
    rw [ofValue, value?, hitems, Option.map_some]
  | 0, .object members, _, hd => by simp [Value.depth] at hd
  | levels + 1, .object members, h, hd => by
    have hmembers := memberValues?_ofMembers (Value.membersSettled_iff.1 h.2)
      (Value.membersDepth_le_iff.1 (Nat.le_of_succ_le_succ hd))
    rw [ofValue, value?, hmembers, Option.map_some, sortEntries_eq_self h.1]

theorem values?_ofValues : ∀ {levels : Nat} {items : List Value}, (∀ v ∈ items, v.Settled) →
    (∀ v ∈ items, v.depth ≤ levels) → values? levels (ofValues items) = some items
  | _, [], _, _ => by rw [ofValues, values?]
  | levels, v :: rest, h, hd => by
    obtain ⟨hv, hrest⟩ := List.forall_mem_cons.1 h
    obtain ⟨hdv, hdrest⟩ := List.forall_mem_cons.1 hd
    simp only [ofValues, values?, value?_ofValue hv hdv, values?_ofValues hrest hdrest]

theorem memberValues?_ofMembers : ∀ {levels : Nat} {members : List (String × Value)},
    (∀ e ∈ members, e.2.Settled) → (∀ e ∈ members, e.2.depth ≤ levels) →
      memberValues? levels (ofMembers members) = some members
  | _, [], _, _ => by rw [ofMembers, memberValues?]
  | levels, (k, v) :: rest, h, hd => by
    obtain ⟨hv, hrest⟩ := List.forall_mem_cons.1 h
    obtain ⟨hdv, hdrest⟩ := List.forall_mem_cons.1 hd
    simp only [ofMembers, memberValues?, value?_ofValue hv hdv,
      memberValues?_ofMembers hrest hdrest]

end

/-! ## The depth of what is read -/

/-- The value of a term is no deeper than the reader goes. -/
theorem depth_le_of_value? {levels : Nat} {t : Term} {v : Value} (h : t.value? levels = some v) :
    v.depth ≤ levels := by
  have hdepth : Kept fun levels v => v.depth ≤ levels := {
    null := Nat.zero_le
    bool := fun levels _ => Nat.zero_le levels
    number := fun _ => Nat.zero_le _
    string := fun levels _ => Nat.zero_le levels
    array := fun h => Nat.succ_le_succ (Value.itemsDepth_le_iff.2 h)
    object := fun h => Nat.succ_le_succ
      (Value.membersDepth_le_iff.2 (Value.forall_mem_sortEntries h)) }
  exact kept_of_value? hdepth h

end Term

end Intake.Json
