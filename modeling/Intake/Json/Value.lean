import Intake.KeyMap
import Intake.Numeric.Binary64

/-!
# JSON values

`Value` is a JSON value. An integer is kept as one when it fits into 64 bits, with or without a
sign; any other number is a floating-point number. The members of an object are a list, in the
order in which they are written: a document chooses the order of its fields.

`Value.Settled` marks the values that are the only form of what they say: every object in key
order without repeated keys, every number in range. `Object` is an object of such values; settings
that a document carries along without knowing them are kept in one.
-/

namespace Intake.Json

/-- A JSON number. -/
inductive Number where
  | integer (i : Int)
  | float (x : Binary64)
  deriving DecidableEq, Repr, Inhabited

/-- Integers of 64 bits with or without a sign, and finite floating-point numbers. -/
def Number.inRange : Number → Bool
  | integer i => decide (-(twoPow 63 : Int) ≤ i) && decide (i < twoPow 64)
  | float x => x.isFinite

/-- A JSON value. -/
inductive Value where
  | null
  | bool (b : Bool)
  | number (n : Number)
  | string (s : String)
  | array (items : List Value)
  | object (members : List (String × Value))
  deriving Repr, Inhabited

namespace Value

mutual

/-- Equality of values. -/
def decEq : (v w : Value) → Decidable (v = w)
  | null, null => .isTrue rfl
  | bool a, bool b => if h : a = b then .isTrue (h ▸ rfl) else .isFalse fun e => h (by cases e; rfl)
  | number a, number b =>
    if h : a = b then .isTrue (h ▸ rfl) else .isFalse fun e => h (by cases e; rfl)
  | string a, string b =>
    if h : a = b then .isTrue (h ▸ rfl) else .isFalse fun e => h (by cases e; rfl)
  | array as, array bs =>
    match decEqItems as bs with
    | .isTrue h => .isTrue (h ▸ rfl)
    | .isFalse h => .isFalse fun e => h (by cases e; rfl)
  | object as, object bs =>
    match decEqMembers as bs with
    | .isTrue h => .isTrue (h ▸ rfl)
    | .isFalse h => .isFalse fun e => h (by cases e; rfl)
  | null, bool _ | null, number _ | null, string _ | null, array _ | null, object _
  | bool _, null | bool _, number _ | bool _, string _ | bool _, array _ | bool _, object _
  | number _, null | number _, bool _ | number _, string _ | number _, array _
  | number _, object _ | string _, null | string _, bool _ | string _, number _
  | string _, array _ | string _, object _ | array _, null | array _, bool _
  | array _, number _ | array _, string _ | array _, object _ | object _, null
  | object _, bool _ | object _, number _ | object _, string _ | object _, array _ =>
    .isFalse (by intro e; cases e)

/-- Equality of lists of values. -/
def decEqItems : (as bs : List Value) → Decidable (as = bs)
  | [], [] => .isTrue rfl
  | [], _ :: _ => .isFalse (by intro e; cases e)
  | _ :: _, [] => .isFalse (by intro e; cases e)
  | a :: as, b :: bs =>
    match decEq a b, decEqItems as bs with
    | .isTrue h, .isTrue h' => .isTrue (h ▸ h' ▸ rfl)
    | .isFalse h, _ => .isFalse fun e => h (by cases e; rfl)
    | _, .isFalse h => .isFalse fun e => h (by cases e; rfl)

/-- Equality of lists of members. -/
def decEqMembers : (as bs : List (String × Value)) → Decidable (as = bs)
  | [], [] => .isTrue rfl
  | [], _ :: _ => .isFalse (by intro e; cases e)
  | _ :: _, [] => .isFalse (by intro e; cases e)
  | (k, a) :: as, (l, b) :: bs =>
    if hk : k = l then
      match decEq a b, decEqMembers as bs with
      | .isTrue h, .isTrue h' => .isTrue (hk ▸ h ▸ h' ▸ rfl)
      | .isFalse h, _ => .isFalse fun e => h (by cases e; rfl)
      | _, .isFalse h => .isFalse fun e => h (by cases e; rfl)
    else .isFalse fun e => hk (by cases e; rfl)

end

instance : DecidableEq Value := decEq

mutual

/-- The value is the only form of what it says: objects are in key order, numbers in range. -/
def Settled : Value → Prop
  | null => True
  | bool _ => True
  | number n => n.inRange = true
  | string _ => True
  | array items => AllSettled items
  | object members => KeysIncrease members ∧ MembersSettled members

/-- All values of a list are settled. -/
def AllSettled : List Value → Prop
  | [] => True
  | v :: rest => Settled v ∧ AllSettled rest

/-- The values of all members are settled. -/
def MembersSettled : List (String × Value) → Prop
  | [] => True
  | (_, v) :: rest => Settled v ∧ MembersSettled rest

end

theorem allSettled_iff {items : List Value} : AllSettled items ↔ ∀ v ∈ items, Settled v := by
  induction items with
  | nil => simp [AllSettled]
  | cons v rest ih => simp [AllSettled, ih]

theorem membersSettled_iff {members : List (String × Value)} :
    MembersSettled members ↔ ∀ e ∈ members, Settled e.2 := by
  induction members with
  | nil => simp [MembersSettled]
  | cons e rest ih => obtain ⟨k, v⟩ := e; simp [MembersSettled, ih]

theorem forall_mem_insertEntry {P : String × Value → Prop} {k : String} {v : Value}
    {m : List (String × Value)} (hv : P (k, v)) (hm : ∀ e ∈ m, P e) :
    ∀ e ∈ insertEntry k v m, P e := by
  intro e he
  rcases mem_insertEntry he with rfl | he
  · exact hv
  · exact hm e he

theorem forall_mem_sortEntries {P : String × Value → Prop} {entries : List (String × Value)}
    (h : ∀ e ∈ entries, P e) : ∀ e ∈ sortEntries entries, P e := by
  suffices ∀ m : List (String × Value), (∀ e ∈ m, P e) →
      ∀ e ∈ entries.foldl (fun m e => insertEntry e.1 e.2 m) m, P e from
    this [] (by simp)
  induction entries with
  | nil => intro m hm; exact hm
  | cons e rest ih =>
    intro m hm
    exact ih (fun x hx => h x (List.mem_cons_of_mem _ hx)) _
      (forall_mem_insertEntry (h e (by simp)) hm)

/-- Objects made of settled values by sorting are settled. -/
theorem settled_object_sortEntries {entries : List (String × Value)}
    (h : ∀ e ∈ entries, Settled e.2) : Settled (object (sortEntries entries)) :=
  ⟨keysIncrease_sortEntries entries,
    membersSettled_iff.2 (forall_mem_sortEntries (P := fun e => Settled e.2) h)⟩

mutual

/-- How many arrays and objects lie inside each other, at most. -/
def depth : Value → Nat
  | null => 0
  | bool _ => 0
  | number _ => 0
  | string _ => 0
  | array items => itemsDepth items + 1
  | object members => membersDepth members + 1

/-- The greatest depth of a list of values. -/
def itemsDepth : List Value → Nat
  | [] => 0
  | v :: rest => max (depth v) (itemsDepth rest)

/-- The greatest depth of the values of members. -/
def membersDepth : List (String × Value) → Nat
  | [] => 0
  | (_, v) :: rest => max (depth v) (membersDepth rest)

end

end Value

/-- An object in key order whose values are settled. -/
structure Object where
  members : List (String × Value)
  settled : (Value.object members).Settled

namespace Object

instance : DecidableEq Object := fun a b =>
  if h : a.members = b.members then .isTrue (by cases a; cases b; cases h; rfl)
  else .isFalse fun e => h (e ▸ rfl)

instance : Repr Object := ⟨fun o n => reprPrec o.members n⟩

/-- The object without members. -/
def empty : Object := ⟨[], List.Pairwise.nil, trivial⟩

instance : Inhabited Object := ⟨empty⟩

/-- The object of a list of settled members, of equal keys the last. -/
def ofMembers (members : List (String × Value)) (h : ∀ e ∈ members, e.2.Settled) : Object :=
  ⟨sortEntries members, Value.settled_object_sortEntries h⟩

/-- The value of a member. -/
def get? (o : Object) (key : String) : Option Value := entryValue? key o.members

end Object

end Intake.Json
