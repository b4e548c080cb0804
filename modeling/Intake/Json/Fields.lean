import Intake.Json.Term

/-!
# Fields of records

How a record is read from a term: an object whose keys are texts (`Term.members?`), in which a
known field occurs at most once (`field?`). A field that is missing is absent or has a default
where the record allows it; `null` stands for an absent text, and for nothing else.
-/

namespace Intake.Json

namespace Term

/-- The keys of members, when all of them are texts. -/
def textKeys? : List (Option String × Term) → Option (List (String × Term))
  | [] => some []
  | (key, t) :: rest =>
    match key, textKeys? rest with
    | some k, some ms => some ((k, t) :: ms)
    | _, _ => none

/-- The members of an object. -/
def members? : Term → Option (List (String × Term))
  | object members => textKeys? members
  | _ => none

/-- The text of a string. -/
def text? : Term → Option String
  | string s? => s?
  | _ => none

/-- The texts of an array of strings. -/
def texts? : Term → Option (List String)
  | array items => items.mapM text?
  | _ => none

end Term

/-- A field that may be missing and may not be repeated. -/
def field? (members : List (String × Term)) (name : String) : Option (Option Term) :=
  match members.filter fun m => m.1 == name with
  | [] => some none
  | [m] => some (some m.2)
  | _ => none

/-- A field that has to be there, read in some way. -/
def requiredField? {α : Type} (read : Term → Option α) (members : List (String × Term))
    (name : String) : Option α :=
  match field? members name with
  | some (some t) => read t
  | _ => none

/-- A text that may be missing or `null`. -/
def optionalText? (members : List (String × Term)) (name : String) : Option (Option String) :=
  match field? members name with
  | some none => some none
  | some (some .null) => some none
  | some (some t) => t.text?.map some
  | none => none

/-- A text that is empty when it is missing. -/
def textOrEmpty? (members : List (String × Term)) (name : String) : Option String :=
  match field? members name with
  | some none => some ""
  | some (some t) => t.text?
  | none => none

/-- A flag that is false when it is missing. -/
def flag? (members : List (String × Term)) (name : String) : Option Bool :=
  match field? members name with
  | some none => some false
  | some (some (.bool b)) => some b
  | _ => none

/-- The members of an object to be written, those left out that are absent. -/
def presentMembers (fields : List (String × Option Value)) : List (String × Value) :=
  fields.filterMap fun f => f.2.map fun v => (f.1, v)

/-- The values of members whose terms all have one. -/
def settledMembers? (levels : Nat) :
    List (String × Term) → Option { ms : List (String × Value) // ∀ e ∈ ms, e.2.Settled }
  | [] => some ⟨[], by simp⟩
  | (key, t) :: rest =>
    match h : t.value? levels, settledMembers? levels rest with
    | some v, some ⟨ms, hms⟩ =>
      some ⟨(key, v) :: ms, fun e he => by
        rcases List.mem_cons.1 he with rfl | he
        · exact Term.settled_of_value? h
        · exact hms e he⟩
    | _, _ => none

end Intake.Json
