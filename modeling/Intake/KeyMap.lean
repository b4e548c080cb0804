/-!
# Maps from text to values, in key order

A map is a list of entries with increasing keys (`KeyMap`). `insertEntry` puts an entry at its
place and replaces one with the same key, so that a map built from a list of entries holds for each
key the last entry given (`KeyMap.ofList`). `KeyMap.get?_insert` says what every other statement
about maps rests on: an insertion is seen under its own key and nowhere else. Keys are compared by
code points.
-/

namespace Intake

/-- The value of the first entry with a key. -/
def entryValue? {α : Type} (key : String) : List (String × α) → Option α
  | [] => none
  | (k, v) :: rest => if k = key then some v else entryValue? key rest

/-- Puts an entry before the first with a greater key, in place of one with the same key. -/
def insertEntry {α : Type} (key : String) (value : α) : List (String × α) → List (String × α)
  | [] => [(key, value)]
  | (k, v) :: rest =>
    if key < k then (key, value) :: (k, v) :: rest
    else if k = key then (key, value) :: rest
    else (k, v) :: insertEntry key value rest

/-- The entries in key order, of equal keys the last. -/
def sortEntries {α : Type} (entries : List (String × α)) : List (String × α) :=
  entries.foldl (fun m e => insertEntry e.1 e.2 m) []

/-- Each key is below the keys after it. -/
def KeysIncrease {α : Type} (entries : List (String × α)) : Prop :=
  entries.Pairwise fun a b => a.1 < b.1

theorem entryValue?_insertEntry {α : Type} (key k : String) (v : α) (m : List (String × α)) :
    entryValue? key (insertEntry k v m) = if k = key then some v else entryValue? key m := by
  induction m with
  | nil => simp [insertEntry, entryValue?]
  | cons e rest ih =>
    obtain ⟨k', v'⟩ := e
    unfold insertEntry
    split
    · simp [entryValue?]
    · split
      · next h => subst h; by_cases hk : k' = key <;> simp [entryValue?, hk]
      · next h =>
        by_cases hk : k' = key
        · subst hk; simp [entryValue?, Ne.symm h]
        · simp [entryValue?, hk, ih]

theorem mem_insertEntry {α : Type} {k : String} {v : α} {m : List (String × α)}
    {e : String × α} (h : e ∈ insertEntry k v m) : e = (k, v) ∨ e ∈ m := by
  induction m with
  | nil => simpa [insertEntry] using h
  | cons e' rest ih =>
    obtain ⟨k', v'⟩ := e'
    unfold insertEntry at h
    split at h
    · simpa using h
    · split at h
      · rcases List.mem_cons.1 h with h | h
        · exact .inl h
        · exact .inr (List.mem_cons_of_mem _ h)
      · rcases List.mem_cons.1 h with h | h
        · exact .inr (by simp [h])
        · exact (ih h).imp id (List.mem_cons_of_mem _)

theorem keysIncrease_insertEntry {α : Type} {k : String} {v : α} {m : List (String × α)}
    (h : KeysIncrease m) : KeysIncrease (insertEntry k v m) := by
  induction m with
  | nil => simp [insertEntry, KeysIncrease]
  | cons e rest ih =>
    obtain ⟨k', v'⟩ := e
    have h' := List.pairwise_cons.1 h
    unfold insertEntry
    split
    · next hlt =>
      refine List.pairwise_cons.2 ⟨fun e he => ?_, h⟩
      rcases List.mem_cons.1 he with rfl | he
      · exact hlt
      · exact String.lt_trans hlt (h'.1 e he)
    · next hnlt =>
      split
      · next heq => subst heq; exact List.pairwise_cons.2 ⟨h'.1, h'.2⟩
      · next hne =>
        refine List.pairwise_cons.2 ⟨fun e he => ?_, ih h'.2⟩
        rcases mem_insertEntry he with rfl | he
        · exact Std.lt_of_le_of_ne (Std.not_lt.1 hnlt) hne
        · exact h'.1 e he

theorem keysIncrease_foldl {α : Type} (entries : List (String × α)) {m : List (String × α)}
    (h : KeysIncrease m) :
    KeysIncrease (entries.foldl (fun m e => insertEntry e.1 e.2 m) m) := by
  induction entries generalizing m with
  | nil => exact h
  | cons e rest ih => exact ih (keysIncrease_insertEntry h)

theorem keysIncrease_sortEntries {α : Type} (entries : List (String × α)) :
    KeysIncrease (sortEntries entries) :=
  keysIncrease_foldl entries List.Pairwise.nil

/-- A map from text to values, its entries in key order. -/
structure KeyMap (α : Type) where
  entries : List (String × α)
  increasing : KeysIncrease entries

namespace KeyMap

variable {α : Type}

instance [DecidableEq α] : DecidableEq (KeyMap α) := fun a b =>
  if h : a.entries = b.entries then .isTrue (by cases a; cases b; cases h; rfl)
  else .isFalse fun e => h (e ▸ rfl)

instance [Repr α] : Repr (KeyMap α) := ⟨fun m n => reprPrec m.entries n⟩

/-- The map without entries. -/
def empty : KeyMap α := ⟨[], List.Pairwise.nil⟩

instance : Inhabited (KeyMap α) := ⟨empty⟩

/-- The value under a key. -/
def get? (m : KeyMap α) (key : String) : Option α := entryValue? key m.entries

/-- Sets the value under a key. -/
def insert (m : KeyMap α) (key : String) (value : α) : KeyMap α :=
  ⟨insertEntry key value m.entries, keysIncrease_insertEntry m.increasing⟩

/-- The map of a list of entries, of equal keys the last. -/
def ofList (entries : List (String × α)) : KeyMap α :=
  ⟨sortEntries entries, keysIncrease_sortEntries entries⟩

theorem get?_insert (m : KeyMap α) (k key : String) (v : α) :
    (m.insert k v).get? key = if k = key then some v else m.get? key :=
  entryValue?_insertEntry key k v m.entries

@[simp] theorem get?_empty (key : String) : (empty : KeyMap α).get? key = none := rfl

end KeyMap

end Intake
