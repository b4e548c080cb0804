import Intake.Json.Layout
import Intake.Proofs.Json.Number
import Intake.Proofs.Json.Quoted

/-!
# Documents read back

The term of a value (`Term.ofValue`) is what a text that says the value is read as. Reading the
layout of a value at any depth gives its term and what follows it (`Term.readValue?_layout`), so
that the text of a document is read as the term of its value (`Term.read?_pretty`), provided that
its numbers read back.

The induction goes over the value. Items and members after the first are taken together with what
has been read of the one before them, as the reader meets them; the length of the layout bounds the
steps that the reader needs.
-/

namespace Intake.Json

namespace Value

mutual

/-- The numbers in a value. -/
def numbers : Value → List Number
  | null => []
  | bool _ => []
  | number n => [n]
  | string _ => []
  | array items => itemsNumbers items
  | object members => membersNumbers members

/-- The numbers in a list of values. -/
def itemsNumbers : List Value → List Number
  | [] => []
  | v :: rest => numbers v ++ itemsNumbers rest

/-- The numbers in the values of members. -/
def membersNumbers : List (String × Value) → List Number
  | [] => []
  | (_, v) :: rest => numbers v ++ membersNumbers rest

end

theorem itemsNumbers_eq_nil {items : List Value} (h : ∀ v ∈ items, v.numbers = []) :
    itemsNumbers items = [] := by
  induction items with
  | nil => rfl
  | cons v rest ih =>
    obtain ⟨hv, hrest⟩ := List.forall_mem_cons.1 h
    rw [itemsNumbers, hv, ih hrest]
    rfl

theorem mem_membersNumbers {n : Number} {members : List (String × Value)} :
    n ∈ membersNumbers members ↔ ∃ e ∈ members, n ∈ e.2.numbers := by
  induction members with
  | nil => simp [membersNumbers]
  | cons e rest ih => simp [membersNumbers, ih]

end Value

namespace Term

mutual

/-- The term that says a value. -/
def ofValue : Value → Term
  | .null => null
  | .bool b => bool b
  | .number n => number (some n)
  | .string s => string (some s)
  | .array items => array (ofValues items)
  | .object members => object (ofMembers members)

/-- The terms that say the values of a list. -/
def ofValues : List Value → List Term
  | [] => []
  | v :: rest => ofValue v :: ofValues rest

/-- The members that say those of an object. -/
def ofMembers : List (String × Value) → List (Option String × Term)
  | [] => []
  | (k, v) :: rest => (some k, ofValue v) :: ofMembers rest

end

theorem ofValues_eq_map (items : List Value) : ofValues items = items.map ofValue := by
  induction items with
  | nil => rfl
  | cons v rest ih => simp [ofValues, ih]

/-! ## Blanks between values -/

theorem skipSpace_cons_of_not {c : Char} (h : isSpace c = false) (cs : List Char) :
    skipSpace (c :: cs) = c :: cs := by
  simp [skipSpace, h]

theorem skipSpace_lineBreak (depth : Nat) (cs : List Char) :
    skipSpace (Value.lineBreak depth ++ cs) = skipSpace cs := by
  have hspaces : ∀ k, skipSpace (List.replicate k ' ' ++ cs) = skipSpace cs := by
    intro k
    induction k with
    | zero => rfl
    | succ k ih =>
      rw [List.replicate_succ, List.cons_append, ← ih]
      exact List.dropWhile_cons_of_pos rfl
  rw [Value.lineBreak, List.cons_append, ← hspaces (2 * depth)]
  exact List.dropWhile_cons_of_pos rfl

theorem skipSpace_space (cs : List Char) : skipSpace (' ' :: cs) = skipSpace cs :=
  List.dropWhile_cons_of_pos rfl

theorem readValue?_congr {fuel : Nat} {cs cs' : List Char} (h : skipSpace cs = skipSpace cs') :
    readValue? fuel cs = readValue? fuel cs' := by
  cases fuel with
  | zero => simp [readValue?]
  | succ fuel => rw [readValue?, readValue?, h]

theorem readMembers?_congr {fuel : Nat} {cs cs' : List Char} (h : skipSpace cs = skipSpace cs') :
    readMembers? fuel cs = readMembers? fuel cs' := by
  cases fuel with
  | zero => simp [readMembers?]
  | succ fuel => rw [readMembers?, readMembers?, h]

/-! ## How values begin -/

/-- A number that reads back begins with a minus sign or a digit. -/
theorem exists_head_of_readsBack {n : Number} (h : n.ReadsBack) :
    ∃ c cs, n.text.toList = c :: cs ∧ (c = '-' ∨ isDigit c = true) := by
  unfold Number.ReadsBack at h
  cases ht : n.text.toList with
  | nil =>
    rw [ht] at h
    simp [readNumber?, readMinus, ↓guard_eq_ite] at h
  | cons c cs =>
    refine ⟨c, cs, rfl, ?_⟩
    by_contra hc
    rw [not_or, Bool.not_eq_true] at hc
    have hminus : readMinus (c :: cs) = (false, c :: cs) := by simp [readMinus, hc.1]
    rw [ht] at h
    simp [readNumber?, hminus, hc.2, ↓guard_eq_ite] at h

/-- A value begins with a character that is no blank and closes no array. -/
theorem exists_head_layout (depth : Nat) (v : Value) (h : ∀ n ∈ v.numbers, n.ReadsBack) :
    ∃ c cs, Value.layout depth v = c :: cs ∧ isSpace c = false ∧ c ≠ ']' := by
  cases v with
  | null => exact ⟨'n', _, rfl, rfl, by decide⟩
  | bool b => cases b <;> exact ⟨_, _, rfl, rfl, by decide⟩
  | string s => exact ⟨'"', _, rfl, rfl, by decide⟩
  | array items => cases items <;> exact ⟨'[', _, by rw [Value.layout], rfl, by decide⟩
  | object members => cases members <;> exact ⟨'\x7b', _, by rw [Value.layout], rfl, by decide⟩
  | number n =>
    obtain ⟨c, cs, hcs, hc⟩ := exists_head_of_readsBack (h n (by simp [Value.numbers]))
    refine ⟨c, cs, by rw [Value.layout, hcs], ?_, ?_⟩
    · rcases hc with rfl | hc
      · rfl
      · simp only [isDigit, Bool.and_eq_true, decide_eq_true_eq, Char.le_def] at hc
        simp only [isSpace, Bool.or_eq_false_iff, beq_eq_false_iff_ne]
        refine ⟨⟨⟨?_, ?_⟩, ?_⟩, ?_⟩ <;> rintro rfl <;> exact absurd hc (by decide)
    · rcases hc with rfl | hc
      · decide
      · rintro rfl
        exact absurd hc (by decide)

/-! ## Reading a layout -/

theorem endsNumber_layoutItems (depth close : Nat) (items : List Value) (rest : List Char) :
    EndsNumber (Value.layoutItems depth items ++ Value.lineBreak close ++ rest) := by
  cases items <;> simp [Value.layoutItems, Value.lineBreak, endsNumber_cons, isDigit]

theorem endsNumber_layoutMembers (depth close : Nat) (members : List (String × Value))
    (rest : List Char) :
    EndsNumber (Value.layoutMembers depth members ++ Value.lineBreak close ++ rest) := by
  cases members with
  | nil => simp [Value.layoutMembers, Value.lineBreak, endsNumber_cons, isDigit]
  | cons e members => simp [Value.layoutMembers, endsNumber_cons, isDigit]

theorem readValue?_number {n : Number} (h : n.ReadsBack) {rest : List Char}
    (hr : EndsNumber rest) (fuel : Nat) :
    readValue? (fuel + 1) (n.text.toList ++ rest) = some (number (some n), rest) := by
  obtain ⟨c, cs, hcs, hc⟩ := exists_head_of_readsBack h
  have hread := readNumber?_append hr h
  rw [hcs, List.cons_append] at hread ⊢
  have hne : ∀ x ∈ [' ', '\n', '\t', '\r', 'n', 't', 'f', '"', '[', '\x7b'], c ≠ x := by
    rintro x hx rfl
    rcases hc with rfl | hc
    · revert hx; decide
    · revert hc
      simp only [List.mem_cons, List.not_mem_nil, or_false] at hx
      rcases hx with rfl | rfl | rfl | rfl | rfl | rfl | rfl | rfl | rfl | rfl <;> decide
  simp only [List.mem_cons, List.not_mem_nil, or_false, forall_eq_or_imp, forall_eq] at hne
  obtain ⟨h1, h2, h3, h4, h5, h6, h7, h8, h9, h10⟩ := hne
  have hspace : isSpace c = false := by simp [isSpace, h1, h2, h3, h4]
  rw [readValue?, skipSpace_cons_of_not hspace]
  split
  · next heq => exact absurd (List.cons.inj heq).1 h5
  · next heq => exact absurd (List.cons.inj heq).1 h6
  · next heq => exact absurd (List.cons.inj heq).1 h7
  · next heq => exact absurd (List.cons.inj heq).1 h8
  · next heq => exact absurd (List.cons.inj heq).1 h9
  · next heq => exact absurd (List.cons.inj heq).1 h10
  · rw [hread]
    rfl

theorem readValue?_array {fuel : Nat} {cs rest : List Char} {items : List Term}
    (hne : ∀ r, skipSpace cs ≠ ']' :: r) (h : readItems? fuel cs = some (items, rest)) :
    readValue? (fuel + 1) ('[' :: cs) = some (array items, rest) := by
  have hopen : skipSpace ('[' :: cs) = '[' :: cs := skipSpace_cons_of_not rfl cs
  -- The other branch, for an empty one, is closed by `hne`.
  simp only [readValue?, hopen, h, Option.map_some]

theorem readValue?_object {fuel : Nat} {cs rest : List Char}
    {members : List (Option String × Term)} (hne : ∀ r, skipSpace cs ≠ '\x7d' :: r)
    (h : readMembers? fuel cs = some (members, rest)) :
    readValue? (fuel + 1) ('\x7b' :: cs) = some (object members, rest) := by
  have hopen : skipSpace ('\x7b' :: cs) = '\x7b' :: cs := skipSpace_cons_of_not rfl cs
  -- The other branch, for an empty one, is closed by `hne`.
  simp only [readValue?, hopen, h, Option.map_some]

theorem readItems?_close {fuel : Nat} {cs r rest : List Char} {t : Term}
    (h : readValue? fuel cs = some (t, r)) (hr : skipSpace r = ']' :: rest) :
    readItems? (fuel + 1) cs = some ([t], rest) := by
  simp only [readItems?, h, hr]

theorem readItems?_comma {fuel : Nat} {cs r cs' rest : List Char} {t : Term} {items : List Term}
    (h : readValue? fuel cs = some (t, r)) (hr : skipSpace r = ',' :: cs')
    (hitems : readItems? fuel cs' = some (items, rest)) :
    readItems? (fuel + 1) cs = some (t :: items, rest) := by
  simp only [readItems?, h, hr, hitems, Option.map_some]

theorem readMembers?_close {fuel : Nat} {cs r rest : List Char} {k : String} {t : Term}
    (h : readValue? fuel cs = some (t, r)) (hr : skipSpace r = '\x7d' :: rest) :
    readMembers? (fuel + 1) (encode k ++ ':' :: cs) = some ([(some k, t)], rest) := by
  have hkey := readString?_encode k (':' :: cs)
  simp only [encode, List.cons_append, List.append_assoc, List.nil_append, readMembers?,
    skipSpace_cons_of_not (show isSpace '"' = false from rfl), hkey,
    skipSpace_cons_of_not (show isSpace ':' = false from rfl), h, hr]

theorem readMembers?_comma {fuel : Nat} {cs r cs' rest : List Char} {k : String} {t : Term}
    {members : List (Option String × Term)} (h : readValue? fuel cs = some (t, r))
    (hr : skipSpace r = ',' :: cs') (hmembers : readMembers? fuel cs' = some (members, rest)) :
    readMembers? (fuel + 1) (encode k ++ ':' :: cs) = some ((some k, t) :: members, rest) := by
  have hkey := readString?_encode k (':' :: cs)
  simp only [encode, List.cons_append, List.append_assoc, List.nil_append, readMembers?,
    skipSpace_cons_of_not (show isSpace '"' = false from rfl), hkey,
    skipSpace_cons_of_not (show isSpace ':' = false from rfl), h, hr, hmembers, Option.map_some]

mutual

/-- Reading the layout of a value gives its term and what follows. -/
theorem readValue?_layout : ∀ (v : Value) (depth fuel : Nat) (rest : List Char),
    (∀ n ∈ v.numbers, n.ReadsBack) → EndsNumber rest → (Value.layout depth v).length ≤ fuel →
      readValue? fuel (Value.layout depth v ++ rest) = some (ofValue v, rest)
  | v, depth, 0, _, hn, _, hf => by
    obtain ⟨c, cs, hcs, -⟩ := exists_head_layout depth v hn
    simp [hcs] at hf
  | .null, _, fuel + 1, rest, _, _, _ => rfl
  | .bool true, _, fuel + 1, rest, _, _, _ => rfl
  | .bool false, _, fuel + 1, rest, _, _, _ => rfl
  | .number n, depth, fuel + 1, rest, hn, hr, _ => by
    rw [Value.layout]
    exact readValue?_number (hn n (by simp [Value.numbers])) hr fuel
  | .string s, depth, fuel + 1, rest, _, _, _ => by
    have hread := readString?_encode s rest
    simp only [Value.layout, encode, List.cons_append, List.append_assoc, List.nil_append,
      readValue?, skipSpace_cons_of_not (show isSpace '"' = false from rfl), hread,
      Option.map_some, ofValue]
  | .array [], _, fuel + 1, rest, _, _, _ => rfl
  | .array (v :: items), depth, fuel + 1, rest, hn, _, hf => by
    simp only [Value.layout, List.length_cons, List.length_append, Value.lineBreak] at hf
    obtain ⟨fuel, rfl⟩ : ∃ f, fuel = f + 1 := ⟨fuel - 1, by omega⟩
    simp only [Value.numbers, Value.itemsNumbers, List.mem_append] at hn
    have hv := readValue?_layout v (depth + 1) fuel
      (Value.layoutItems (depth + 1) items ++ Value.lineBreak depth ++ ']' :: rest)
      (fun n h => hn n (Or.inl h)) (endsNumber_layoutItems _ _ _ _) (by omega)
    rw [← readValue?_congr (skipSpace_lineBreak (depth + 1) _)] at hv
    have hitems := readItems?_layoutItems items (ofValue v) (depth + 1) depth fuel _ rest
      (fun n h => hn n (Or.inr h)) (by omega) hv
    obtain ⟨c, cs, hcs, hc, hclose⟩ :=
      exists_head_layout (depth + 1) v fun n h => hn n (Or.inl h)
    have hread := readValue?_array (fun r heq => ?_) hitems
    · simpa [Value.layout, ofValue, ofValues] using hread
    · rw [skipSpace_lineBreak, hcs, List.cons_append, skipSpace_cons_of_not hc] at heq
      exact hclose (List.cons.inj heq).1
  | .object [], _, fuel + 1, rest, _, _, _ => rfl
  | .object ((k, v) :: members), depth, fuel + 1, rest, hn, _, hf => by
    simp only [Value.layout, List.length_cons, List.length_append, Value.lineBreak] at hf
    obtain ⟨fuel, rfl⟩ : ∃ f, fuel = f + 1 := ⟨fuel - 1, by omega⟩
    simp only [Value.numbers, Value.membersNumbers, List.mem_append] at hn
    have hv := readValue?_layout v (depth + 1) fuel
      (Value.layoutMembers (depth + 1) members ++ Value.lineBreak depth ++ '\x7d' :: rest)
      (fun n h => hn n (Or.inl h)) (endsNumber_layoutMembers _ _ _ _) (by omega)
    rw [← readValue?_congr (skipSpace_space _)] at hv
    have hmembers := readMembers?_layoutMembers members k (ofValue v) (depth + 1) depth fuel _ rest
      (fun n h => hn n (Or.inr h)) (by omega) hv
    rw [← readMembers?_congr (skipSpace_lineBreak (depth + 1) _)] at hmembers
    have hread := readValue?_object (fun r heq => ?_) hmembers
    · simpa [Value.layout, ofValue, ofMembers] using hread
    · rw [skipSpace_lineBreak, encode, List.cons_append, List.cons_append,
        skipSpace_cons_of_not rfl] at heq
      exact absurd (List.cons.inj heq).1 (by decide)

/-- Reading on after an item, to the end of the array. -/
theorem readItems?_layoutItems : ∀ (items : List Value) (t : Term) (depth close fuel : Nat)
    (cs rest : List Char), (∀ n ∈ Value.itemsNumbers items, n.ReadsBack) →
      (Value.layoutItems depth items).length ≤ fuel →
      readValue? fuel cs = some (t, Value.layoutItems depth items ++ Value.lineBreak close ++
        ']' :: rest) →
      readItems? (fuel + 1) cs = some (t :: ofValues items, rest)
  | [], t, depth, close, fuel, cs, rest, _, _, hread => by
    refine readItems?_close hread ?_
    rw [Value.layoutItems, List.nil_append, skipSpace_lineBreak, skipSpace_cons_of_not rfl]
  | v :: items, t, depth, close, fuel, cs, rest, hn, hf, hread => by
    simp only [Value.layoutItems, List.length_cons, List.length_append, Value.lineBreak] at hf
    obtain ⟨fuel, rfl⟩ : ∃ f, fuel = f + 1 := ⟨fuel - 1, by omega⟩
    simp only [Value.itemsNumbers, List.mem_append] at hn
    have hv := readValue?_layout v depth fuel
      (Value.layoutItems depth items ++ Value.lineBreak close ++ ']' :: rest)
      (fun n h => hn n (Or.inl h)) (endsNumber_layoutItems _ _ _ _) (by omega)
    rw [← readValue?_congr (skipSpace_lineBreak depth _)] at hv
    have hitems := readItems?_layoutItems items (ofValue v) depth close fuel _ rest
      (fun n h => hn n (Or.inr h)) (by omega) hv
    refine readItems?_comma hread ?_ hitems
    rw [Value.layoutItems, List.cons_append, List.cons_append, skipSpace_cons_of_not rfl]
    simp only [List.append_assoc]

/-- Reading on after the value of a member, to the end of the object. -/
theorem readMembers?_layoutMembers : ∀ (members : List (String × Value)) (k : String) (t : Term)
    (depth close fuel : Nat) (cs rest : List Char),
      (∀ n ∈ Value.membersNumbers members, n.ReadsBack) →
      (Value.layoutMembers depth members).length ≤ fuel →
      readValue? fuel cs = some (t, Value.layoutMembers depth members ++ Value.lineBreak close ++
        '\x7d' :: rest) →
      readMembers? (fuel + 1) (encode k ++ ':' :: cs) =
        some ((some k, t) :: ofMembers members, rest)
  | [], k, t, depth, close, fuel, cs, rest, _, _, hread => by
    refine readMembers?_close hread ?_
    rw [Value.layoutMembers, List.nil_append, skipSpace_lineBreak, skipSpace_cons_of_not rfl]
  | (k', v) :: members, k, t, depth, close, fuel, cs, rest, hn, hf, hread => by
    simp only [Value.layoutMembers, List.length_cons, List.length_append, Value.lineBreak] at hf
    obtain ⟨fuel, rfl⟩ : ∃ f, fuel = f + 1 := ⟨fuel - 1, by omega⟩
    simp only [Value.membersNumbers, List.mem_append] at hn
    have hv := readValue?_layout v depth fuel
      (Value.layoutMembers depth members ++ Value.lineBreak close ++ '\x7d' :: rest)
      (fun n h => hn n (Or.inl h)) (endsNumber_layoutMembers _ _ _ _) (by omega)
    rw [← readValue?_congr (skipSpace_space _)] at hv
    have hmembers := readMembers?_layoutMembers members k' (ofValue v) depth close fuel _ rest
      (fun n h => hn n (Or.inr h)) (by omega) hv
    rw [← readMembers?_congr (skipSpace_lineBreak depth _)] at hmembers
    refine readMembers?_comma hread ?_ hmembers
    rw [Value.layoutMembers, List.cons_append, List.cons_append, skipSpace_cons_of_not rfl]
    simp only [List.append_assoc, List.cons_append, List.nil_append]

end

/-- The text of a document is read as the term of its value. -/
theorem read?_pretty {v : Value} (h : ∀ n ∈ v.numbers, n.ReadsBack) :
    read? v.pretty = some (ofValue v) := by
  have hread := readValue?_layout v 0 (2 * (Value.layout 0 v).length + 2) [] h endsNumber_nil
    (by omega)
  rw [List.append_nil] at hread
  rw [read?, Value.pretty, String.toList_ofList]
  simp only [hread]
  rfl

end Term

end Intake.Json
