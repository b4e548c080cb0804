import Intake.Yaml.Value

/-!
# Fields of YAML mappings

How a record is read from a value: a mapping whose keys are texts (`Value.fields?`), in which a
known field occurs at most once. A field that may be missing may also be null (`setting?`).
-/

namespace Intake.Yaml

namespace Value

/-- The value without tags around it. -/
def untagged : Value → Value
  | tagged _ v => untagged v
  | v => v

/-- The text that a value is, tags apart. -/
def text? (v : Value) : Option String :=
  match v.untagged with
  | text s => some s
  | _ => none

/-- The fields of a mapping; all of its keys have to be texts. -/
def fields? (v : Value) : Option (List (String × Value)) :=
  match v.untagged with
  | mapping entries => entries.mapM fun (k, v) => k.text?.map fun name => (name, v)
  | _ => none

/-- The items of a list, each read in some way. -/
def items? {α : Type} (read : Value → Option α) (v : Value) : Option (List α) :=
  match v.untagged with
  | list items => items.mapM read
  | _ => none

end Value

/-- The text that a value is, without any tag. -/
def plainText? : Value → Option String
  | .text s => some s
  | _ => none

/-- The value of a field; null stands for a missing one, and no field may be repeated. -/
def setting? (fields : List (String × Value)) (name : String) : Option (Option Value) :=
  match fields.filter fun f => f.1 == name with
  | [] => some none
  | [(_, .null)] => some none
  | [(_, v)] => some (some v)
  | _ => none

/-- A setting that is read in some way when there is one, and else has a default. -/
def settingOr? {α : Type} (read : Value → Option α) (default : α)
    (fields : List (String × Value)) (name : String) : Option α :=
  match setting? fields name with
  | some none => some default
  | some (some v) => read v
  | none => none

/-- A field that has to be there. -/
def requiredSetting? {α : Type} (read : Value → Option α) (fields : List (String × Value))
    (name : String) : Option α :=
  match fields.filter fun f => f.1 == name with
  | [(_, v)] => read v
  | _ => none

/-- A text that may be missing or null. -/
def optionalSetting? (fields : List (String × Value)) (name : String) : Option (Option String) :=
  settingOr? (fun v => v.text?.map some) none fields name

end Intake.Yaml
