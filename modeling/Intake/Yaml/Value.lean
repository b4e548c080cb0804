import Intake.Numeric.Binary64

/-!
# YAML values

`Value` is what a YAML document denotes: scalars, lists, and mappings whose keys may be any values,
in the order in which they are written. `Tree` is the part of it that documents of this library are
made of: texts, natural numbers, lists, and records under names. `Tree.toValue` says what a tree
denotes.
-/

namespace Intake.Yaml

/-- The value of a YAML document. -/
inductive Value where
  | null
  | bool (b : Bool)
  | integer (i : Int)
  | float (x : Binary64)
  | text (s : String)
  | list (items : List Value)
  | mapping (entries : List (Value × Value))
  /-- A value under a tag of the document's own. -/
  | tagged (tag : String) (v : Value)
  deriving Repr, Inhabited

namespace Value

mutual

/-- Equality of values. -/
def decEq : (v w : Value) → Decidable (v = w)
  | null, null => .isTrue rfl
  | bool a, bool b =>
    if h : a = b then .isTrue (h ▸ rfl) else .isFalse fun e => h (by cases e; rfl)
  | integer a, integer b =>
    if h : a = b then .isTrue (h ▸ rfl) else .isFalse fun e => h (by cases e; rfl)
  | float a, float b =>
    if h : a = b then .isTrue (h ▸ rfl) else .isFalse fun e => h (by cases e; rfl)
  | text a, text b =>
    if h : a = b then .isTrue (h ▸ rfl) else .isFalse fun e => h (by cases e; rfl)
  | list as, list bs =>
    match decEqItems as bs with
    | .isTrue h => .isTrue (h ▸ rfl)
    | .isFalse h => .isFalse fun e => h (by cases e; rfl)
  | mapping es, mapping fs =>
    match decEqEntries es fs with
    | .isTrue h => .isTrue (h ▸ rfl)
    | .isFalse h => .isFalse fun e => h (by cases e; rfl)
  | tagged a v, tagged b w =>
    if ha : a = b then
      match decEq v w with
      | .isTrue h => .isTrue (ha ▸ h ▸ rfl)
      | .isFalse h => .isFalse fun e => h (by cases e; rfl)
    else .isFalse fun e => ha (by cases e; rfl)
  | null, bool _ | null, integer _ | null, float _ | null, text _ | null, list _ | null, mapping _
  | null, tagged _ _ | bool _, null | bool _, integer _ | bool _, float _ | bool _, text _
  | bool _, list _ | bool _, mapping _ | bool _, tagged _ _ | integer _, null | integer _, bool _
  | integer _, float _ | integer _, text _ | integer _, list _ | integer _, mapping _
  | integer _, tagged _ _ | float _, null | float _, bool _ | float _, integer _ | float _, text _
  | float _, list _ | float _, mapping _ | float _, tagged _ _ | text _, null | text _, bool _
  | text _, integer _ | text _, float _ | text _, list _ | text _, mapping _ | text _, tagged _ _
  | list _, null | list _, bool _ | list _, integer _ | list _, float _ | list _, text _
  | list _, mapping _ | list _, tagged _ _ | mapping _, null | mapping _, bool _
  | mapping _, integer _ | mapping _, float _ | mapping _, text _ | mapping _, list _
  | mapping _, tagged _ _ | tagged _ _, null | tagged _ _, bool _ | tagged _ _, integer _
  | tagged _ _, float _ | tagged _ _, text _ | tagged _ _, list _ | tagged _ _, mapping _ =>
    .isFalse (by intro e; cases e)

/-- Equality of lists of values. -/
def decEqItems : (as bs : List Value) → Decidable (as = bs)
  | [], [] => .isTrue rfl
  | [], _ :: _ => .isFalse (by intro e; cases e)
  | _ :: _, [] => .isFalse (by intro e; cases e)
  | a :: as, b :: bs =>
    match decEq a b, decEqItems as bs with
    | .isTrue h, .isTrue h' => .isTrue (h ▸ h' ▸ rfl)
    | .isFalse h, _ => .isFalse fun e => h (by cases e; rfl)
    | _, .isFalse h => .isFalse fun e => h (by cases e; rfl)

/-- Equality of lists of entries. -/
def decEqEntries : (es fs : List (Value × Value)) → Decidable (es = fs)
  | [], [] => .isTrue rfl
  | [], _ :: _ => .isFalse (by intro e; cases e)
  | _ :: _, [] => .isFalse (by intro e; cases e)
  | (k, v) :: es, (l, w) :: fs =>
    match decEq k l, decEq v w, decEqEntries es fs with
    | .isTrue h, .isTrue h', .isTrue h'' => .isTrue (h ▸ h' ▸ h'' ▸ rfl)
    | .isFalse h, _, _ => .isFalse fun e => h (by cases e; rfl)
    | _, .isFalse h, _ => .isFalse fun e => h (by cases e; rfl)
    | _, _, .isFalse h => .isFalse fun e => h (by cases e; rfl)

end

instance : DecidableEq Value := decEq

end Value

/-- A tree of texts and numbers. -/
inductive Tree where
  | text (s : String)
  | number (n : Nat)
  | list (items : List Tree)
  | record (fields : List (String × Tree))
  deriving Repr, Inhabited

namespace Tree

mutual

/-- The value that a tree denotes. -/
def toValue : Tree → Value
  | text s => .text s
  | number n => .integer n
  | list items => .list (itemsToValues items)
  | record fields => .mapping (fieldsToEntries fields)

/-- The values of a list of trees. -/
def itemsToValues : List Tree → List Value
  | [] => []
  | t :: rest => toValue t :: itemsToValues rest

/-- The entries of the fields of a record. -/
def fieldsToEntries : List (String × Tree) → List (Value × Value)
  | [] => []
  | (name, t) :: rest => (.text name, toValue t) :: fieldsToEntries rest

end

/-- A field that is left out when it is absent. -/
def optionalField (name : String) : Option String → List (String × Tree)
  | none => []
  | some s => [(name, .text s)]

/-- A list that is left out when it is empty. -/
def listField (name : String) : List Tree → List (String × Tree)
  | [] => []
  | items => [(name, .list items)]

end Tree

end Intake.Yaml
