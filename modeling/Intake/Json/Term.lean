import Intake.Json.Number
import Intake.Json.Quoted

/-!
# What a JSON text says

`Term` is a JSON text taken apart: it has the shape of a value, but members keep their order and
may repeat a key, and a number beyond the range of numbers or a string with half of a surrogate
pair is kept as a literal without a value. `Term.read?` is the grammar. What a term means depends
on who reads it: `Term.value?` gives the value of a term all of whose literals have one, up to a
bound on the depth; of repeated keys the last counts.
-/

namespace Intake.Json

/-- A JSON text taken apart. -/
inductive Term where
  | null
  | bool (b : Bool)
  | number (n? : Option Number)
  | string (s? : Option String)
  | array (items : List Term)
  | object (members : List (Option String × Term))
  deriving Repr, Inhabited

namespace Term

/-- The blanks of the grammar. -/
def isSpace (c : Char) : Bool := c == ' ' || c == '\n' || c == '\t' || c == '\r'

/-- The text after its leading blanks. -/
def skipSpace (cs : List Char) : List Char := cs.dropWhile isSpace

/-- Reads a string, after its opening quote. -/
def readString? (cs : List Char) : Option (Option String × List Char) :=
  (readPieces? cs).map fun (pieces, rest) => ((Piece.join? pieces).map String.ofList, rest)

mutual

/-- Reads a value at the beginning of a text, blanks before it skipped. -/
def readValue? : (fuel : Nat) → List Char → Option (Term × List Char)
  | 0, _ => none
  | fuel + 1, cs =>
    match skipSpace cs with
    | 'n' :: 'u' :: 'l' :: 'l' :: rest => some (null, rest)
    | 't' :: 'r' :: 'u' :: 'e' :: rest => some (bool true, rest)
    | 'f' :: 'a' :: 'l' :: 's' :: 'e' :: rest => some (bool false, rest)
    | '"' :: rest => (readString? rest).map fun (s, r) => (string s, r)
    | '[' :: rest =>
      match skipSpace rest with
      | ']' :: r => some (array [], r)
      | _ => (readItems? fuel rest).map fun (items, r) => (array items, r)
    | '\x7b' :: rest =>
      match skipSpace rest with
      | '\x7d' :: r => some (object [], r)
      | _ => (readMembers? fuel rest).map fun (members, r) => (object members, r)
    | rest => (readNumber? rest).map fun (n, r) => (number n, r)

/-- Reads the items of an array, of which there is at least one, and its closing bracket. -/
def readItems? : (fuel : Nat) → List Char → Option (List Term × List Char)
  | 0, _ => none
  | fuel + 1, cs =>
    match readValue? fuel cs with
    | none => none
    | some (item, rest) =>
      match skipSpace rest with
      | ']' :: r => some ([item], r)
      | ',' :: r => (readItems? fuel r).map fun (items, r') => (item :: items, r')
      | _ => none

/-- Reads the members of an object, of which there is at least one, and its closing brace. -/
def readMembers? : (fuel : Nat) → List Char → Option (List (Option String × Term) × List Char)
  | 0, _ => none
  | fuel + 1, cs =>
    match skipSpace cs with
    | '"' :: rest =>
      match readString? rest with
      | none => none
      | some (key, rest) =>
        match skipSpace rest with
        | ':' :: rest =>
          match readValue? fuel rest with
          | none => none
          | some (value, rest) =>
            match skipSpace rest with
            | '\x7d' :: r => some ([(key, value)], r)
            | ',' :: r =>
              (readMembers? fuel r).map fun (members, r') => ((key, value) :: members, r')
            | _ => none
        | _ => none
    | _ => none

end

/-- Reads a text that holds one value and blanks around it. Every value begins with a character of
its own, so that the length of the text bounds the steps. -/
def read? (s : String) : Option Term :=
  let cs := s.toList
  match readValue? (2 * cs.length + 2) cs with
  | some (t, rest) => if (skipSpace rest).isEmpty then some t else none
  | none => none

mutual

/-- The value of a term in which no more than `levels` arrays and objects lie inside each other and
every literal has a value. -/
def value? : (levels : Nat) → Term → Option Value
  | _, null => some .null
  | _, bool b => some (.bool b)
  | _, number n? => (n?.filter (·.inRange)).map .number
  | _, string s? => s?.map .string
  | 0, array _ => none
  | levels + 1, array items => (values? levels items).map .array
  | 0, object _ => none
  | levels + 1, object members =>
    (memberValues? levels members).map fun ms => .object (sortEntries ms)

/-- The values of a list of terms. -/
def values? : (levels : Nat) → List Term → Option (List Value)
  | _, [] => some []
  | levels, t :: rest =>
    match value? levels t, values? levels rest with
    | some v, some vs => some (v :: vs)
    | _, _ => none

/-- The values of members, under their keys. -/
def memberValues? : (levels : Nat) → List (Option String × Term) → Option (List (String × Value))
  | _, [] => some []
  | levels, (key, t) :: rest =>
    match key, value? levels t, memberValues? levels rest with
    | some k, some v, some vs => some ((k, v) :: vs)
    | _, _, _ => none

end

/-- What is kept when values are put together at one level from those at the level below. -/
structure Kept (P : (levels : Nat) → Value → Prop) : Prop where
  null (levels : Nat) : P levels .null
  bool (levels : Nat) (b : Bool) : P levels (.bool b)
  number {levels : Nat} {n : Number} (hn : n.inRange = true) : P levels (.number n)
  string (levels : Nat) (s : String) : P levels (.string s)
  array {levels : Nat} {vs : List Value} (h : ∀ v ∈ vs, P levels v) : P (levels + 1) (.array vs)
  object {levels : Nat} {ms : List (String × Value)} (h : ∀ e ∈ ms, P levels e.2) :
    P (levels + 1) (.object (sortEntries ms))

section Kept

variable {P : (levels : Nat) → Value → Prop}

mutual

/-- The induction over terms that have a value. -/
theorem kept_of_value? (hP : Kept P) : ∀ {levels : Nat} {t : Term} {v : Value},
    t.value? levels = some v → P levels v
  | levels, null, v, h => by
    simp only [value?, Option.some.injEq] at h
    subst h
    exact hP.null levels
  | levels, bool b, v, h => by
    simp only [value?, Option.some.injEq] at h
    subst h
    exact hP.bool levels b
  | _, number n?, v, h => by
    simp only [value?, Option.map_eq_some_iff] at h
    obtain ⟨n, hn, rfl⟩ := h
    exact hP.number (Option.filter_eq_some_iff.1 hn).2
  | levels, string s?, v, h => by
    simp only [value?, Option.map_eq_some_iff] at h
    obtain ⟨s, -, rfl⟩ := h
    exact hP.string levels s
  | 0, array _, v, h => by simp [value?] at h
  | levels + 1, array items, v, h => by
    simp only [value?, Option.map_eq_some_iff] at h
    obtain ⟨vs, hvs, rfl⟩ := h
    exact hP.array (kept_of_values? hP hvs)
  | 0, object _, v, h => by simp [value?] at h
  | levels + 1, object members, v, h => by
    simp only [value?, Option.map_eq_some_iff] at h
    obtain ⟨ms, hms, rfl⟩ := h
    exact hP.object (kept_of_memberValues? hP hms)

theorem kept_of_values? (hP : Kept P) : ∀ {levels : Nat} {ts : List Term} {vs : List Value},
    values? levels ts = some vs → ∀ v ∈ vs, P levels v
  | _, [], vs, h => by
    simp only [values?, Option.some.injEq] at h
    subst h
    simp
  | levels, t :: rest, vs, h => by
    unfold values? at h
    split at h
    · next v vs' hv hvs =>
      cases h
      exact List.forall_mem_cons.2 ⟨kept_of_value? hP hv, kept_of_values? hP hvs⟩
    · simp at h

theorem kept_of_memberValues? (hP : Kept P) : ∀ {levels : Nat} {ts : List (Option String × Term)}
    {vs : List (String × Value)}, memberValues? levels ts = some vs → ∀ e ∈ vs, P levels e.2
  | _, [], vs, h => by
    simp only [memberValues?, Option.some.injEq] at h
    subst h
    simp
  | levels, (key, t) :: rest, vs, h => by
    unfold memberValues? at h
    split at h
    · next k v vs' hv hvs =>
      cases h
      exact List.forall_mem_cons.2 ⟨kept_of_value? hP hv, kept_of_memberValues? hP hvs⟩
    · simp at h

end

end Kept

theorem settled_of_value? {levels : Nat} {t : Term} {v : Value} (h : t.value? levels = some v) :
    v.Settled := by
  have hsettled : Kept fun _ v => v.Settled := {
    null := fun _ => trivial
    bool := fun _ _ => trivial
    number := fun hn => hn
    string := fun _ _ => trivial
    array := fun h => Value.allSettled_iff.2 h
    object := fun h => Value.settled_object_sortEntries h }
  exact kept_of_value? hsettled h

end Term

end Intake.Json
