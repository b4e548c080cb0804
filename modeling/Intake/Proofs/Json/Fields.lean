import Mathlib.Data.List.Nodup
import Intake.Json.Fields
import Intake.Proofs.Json.Settled
import Intake.Proofs.Outcome

/-!
# Records read back

A record is written as the list of its fields, the absent ones left out, and read by asking for one
field after the other. `Carries` says that members give the fields of a list, as far as they are
there; members that were written from the list do, whatever other members stand beside them
(`carries_presentMembers`). The readers of single fields then give back what was written, and
`settledMembers?` the members beside the fields.
-/

namespace Intake.Json

/-- The members that say those of an object, under their keys. -/
def Term.ofFields (members : List (String × Value)) : List (String × Term) :=
  members.map fun e => (e.1, ofValue e.2)

/-- The fields of a list are found in members, and those that are absent are not. -/
def Carries (members : List (String × Term)) (fields : List (String × Option Value)) : Prop :=
  ∀ f ∈ fields, field? members f.1 = some (f.2.map Term.ofValue)

open Term (ofFields ofValue)

theorem textKeys?_ofMembers (members : List (String × Value)) :
    Term.textKeys? (Term.ofMembers members) = some (ofFields members) := by
  induction members with
  | nil => rfl
  | cons e rest ih => simp [Term.ofMembers, Term.textKeys?, ih, ofFields]

theorem members?_object (members : List (String × Value)) :
    (ofValue (.object members)).members? = some (ofFields members) := by
  rw [ofValue, Term.members?, textKeys?_ofMembers]

/-! ## Members of written fields -/

/-- Members are told apart by their keys, written or read. -/
theorem filter_ofFields (p : String → Bool) (members : List (String × Value)) :
    (ofFields members).filter (fun m => p m.1) = ofFields (members.filter fun e => p e.1) := by
  rw [ofFields, List.filter_map]
  rfl

theorem filter_presentMembers (p : String → Bool) (fields : List (String × Option Value)) :
    (presentMembers fields).filter (fun e => p e.1) =
      presentMembers (fields.filter fun f => p f.1) := by
  induction fields with
  | nil => rfl
  | cons f rest ih =>
    obtain ⟨name, o⟩ := f
    cases o <;> cases hp : p name <;> simpa [presentMembers, hp] using ih

/-- Members that are written from fields carry them, whatever stands beside them. -/
theorem carries_presentMembers {fields : List (String × Option Value)}
    {extra : List (String × Value)} (hn : (fields.map (·.1)).Nodup)
    (he : ∀ e ∈ extra, e.1 ∉ fields.map (·.1)) :
    Carries (ofFields (presentMembers fields ++ extra)) fields := by
  intro f hf
  have hextra : extra.filter (fun e => e.1 == f.1) = [] := by
    rw [List.filter_eq_nil_iff]
    intro e hmem heq
    rw [beq_iff_eq] at heq
    exact he e hmem (heq ▸ List.mem_map_of_mem hf)
  obtain ⟨name, o⟩ := f
  rw [field?, filter_ofFields (· == name), List.filter_append, hextra,
    filter_presentMembers (· == name), filter_key_eq hn hf]
  cases o <;> rfl

/-- Fields without numbers are written without numbers. -/
theorem membersNumbers_presentMembers {fields : List (String × Option Value)}
    (h : ∀ f ∈ fields, ∀ v ∈ f.2, v.numbers = []) :
    Value.membersNumbers (presentMembers fields) = [] := by
  induction fields with
  | nil => rfl
  | cons f rest ih =>
    obtain ⟨name, o⟩ := f
    obtain ⟨hf, hrest⟩ := List.forall_mem_cons.1 h
    have hih := ih hrest
    cases o with
    | none => exact hih
    | some v =>
      have hv : v.numbers = [] := hf v rfl
      rw [show presentMembers ((name, some v) :: rest) = (name, v) :: presentMembers rest from rfl,
        Value.membersNumbers, hv, hih]
      rfl

/-! ## Reading single fields -/

section Fields

variable {members : List (String × Term)} {name : String}

theorem requiredField?_of_field? {α : Type} {v : Value}
    (h : field? members name = some ((some v).map ofValue)) (read : Term → Option α) :
    requiredField? read members name = read (ofValue v) := by
  rw [Option.map_some] at h
  rw [requiredField?, h]

theorem requiredText?_of_field? {s : String}
    (h : field? members name = some ((some (.string s)).map ofValue)) :
    requiredField? Term.text? members name = some s :=
  requiredField?_of_field? h Term.text?

theorem optionalText?_of_field? {s? : Option String}
    (h : field? members name = some ((s?.map .string).map ofValue)) :
    optionalText? members name = some s? := by
  rw [optionalText?, h]
  cases s? <;> rfl

theorem textOrEmpty?_of_field? {s : String}
    (h : field? members name = some ((some (.string s)).map ofValue)) :
    textOrEmpty? members name = some s := by
  rw [textOrEmpty?, h]
  rfl

theorem flag?_of_field? {b : Bool}
    (h : field? members name = some ((some (.bool b)).map ofValue)) :
    flag? members name = some b := by
  rw [flag?, h]
  rfl

end Fields

theorem texts?_array (texts : List String) :
    (ofValue (.array (texts.map .string))).texts? = some texts := by
  rw [ofValue, Term.texts?, Term.ofValues_eq_map, List.map_map]
  exact mapM_map_eq_some fun _ _ => rfl

/-! ## Members of settled values -/

theorem settledMembers?_ofFields {levels : Nat} {members : List (String × Value)}
    (h : ∀ e ∈ members, e.2.Settled) (hd : ∀ e ∈ members, e.2.depth ≤ levels) :
    settledMembers? levels (ofFields members) = some ⟨members, h⟩ := by
  induction members with
  | nil => rfl
  | cons e rest ih =>
    obtain ⟨key, v⟩ := e
    obtain ⟨hv, hrest⟩ := List.forall_mem_cons.1 h
    obtain ⟨hdv, hdrest⟩ := List.forall_mem_cons.1 hd
    have hvalue := Term.value?_ofValue hv hdv
    simp only [ofFields, List.map_cons] at ih ⊢
    unfold settledMembers?
    split
    · next v' ms hms hv' hrest' =>
      rw [ih hrest hdrest, Option.some.injEq, Subtype.mk.injEq] at hrest'
      rw [hvalue, Option.some.injEq] at hv'
      subst hrest' hv'
      rfl
    · next hnone =>
      exact absurd (ih hrest hdrest) (hnone v rest hrest hvalue)

/-- What is read keeps its keys and is no deeper than the reader goes. -/
theorem forall_mem_of_settledMembers? {levels : Nat} {members : List (String × Term)}
    {r : { ms : List (String × Value) // ∀ e ∈ ms, e.2.Settled }}
    (h : settledMembers? levels members = some r) :
    ∀ e ∈ r.1, e.1 ∈ members.map (·.1) ∧ e.2.depth ≤ levels := by
  induction members generalizing r with
  | nil =>
    cases h
    simp
  | cons m rest ih =>
    obtain ⟨key, t⟩ := m
    unfold settledMembers? at h
    split at h
    · next v ms hms hv hrest =>
      cases h
      refine List.forall_mem_cons.2 ⟨⟨by simp, Term.depth_le_of_value? hv⟩, fun e he => ?_⟩
      obtain ⟨hkey, hdepth⟩ := ih hrest e he
      exact ⟨List.mem_cons_of_mem _ hkey, hdepth⟩
    · simp at h

end Intake.Json
