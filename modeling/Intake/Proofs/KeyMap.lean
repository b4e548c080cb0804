import Mathlib.Data.List.Induction
import Mathlib.Data.List.Nodup
import Intake.KeyMap

/-!
# Entries in key order

Sorting entries leaves those that are in key order as they are (`sortEntries_eq_self`). Entries in
key order are known from what stands under each key, so that two maps with the same values are the
same (`KeyMap.ext_get?`). In a map made of a list of entries that is the last entry with the key
(`IsLast`, `KeyMap.get?_ofList_eq_some_iff`).
-/

namespace Intake

variable {α : Type}

theorem insertEntry_of_forall_lt {k : String} (v : α) {m : List (String × α)}
    (h : ∀ e ∈ m, e.1 < k) : insertEntry k v m = m ++ [(k, v)] := by
  induction m with
  | nil => rfl
  | cons e rest ih =>
    obtain ⟨k', v'⟩ := e
    have hk : k' < k := h (k', v') (by simp)
    have hgt : ¬ k < k' := fun hlt => String.lt_irrefl k (String.lt_trans hlt hk)
    have hne : k' ≠ k := by
      rintro rfl
      exact hgt hk
    rw [insertEntry, if_neg hgt, if_neg hne, ih fun e he => h e (List.mem_cons_of_mem _ he)]
    rfl

theorem foldl_insertEntry_of_keysIncrease (entries : List (String × α)) {m : List (String × α)}
    (h : KeysIncrease (m ++ entries)) :
    entries.foldl (fun m e => insertEntry e.1 e.2 m) m = m ++ entries := by
  induction entries generalizing m with
  | nil => simp
  | cons e rest ih =>
    have hlt : ∀ x ∈ m, x.1 < e.1 := fun x hx =>
      (List.pairwise_append.1 h).2.2 x hx e (by simp)
    rw [List.foldl_cons, insertEntry_of_forall_lt e.2 hlt, ih (by simpa using h)]
    simp

/-- Entries in key order are left as they are. -/
theorem sortEntries_eq_self {entries : List (String × α)} (h : KeysIncrease entries) :
    sortEntries entries = entries :=
  foldl_insertEntry_of_keysIncrease entries h

/-! ## Maps with the same values -/

theorem entryValue?_eq_none_of_forall_lt {key : String} {m : List (String × α)}
    (h : ∀ e ∈ m, key < e.1) : entryValue? key m = none := by
  induction m with
  | nil => rfl
  | cons e rest ih =>
    obtain ⟨k, v⟩ := e
    have hlt : key < k := h (k, v) (by simp)
    have hne : k ≠ key := by
      rintro rfl
      exact String.lt_irrefl k hlt
    rw [entryValue?, if_neg hne, ih fun e he => h e (List.mem_cons_of_mem _ he)]

/-- The first key of entries in key order is not below the first key of others with the same
values. -/
theorem not_lt_of_entryValue?_eq {k k' : String} {v v' : α} {m m' : List (String × α)}
    (hm : KeysIncrease ((k', v') :: m'))
    (h : entryValue? k ((k, v) :: m) = entryValue? k ((k', v') :: m')) : ¬ k < k' := by
  intro hlt
  have hall : ∀ e ∈ (k', v') :: m', k < e.1 := by
    intro e he
    rcases List.mem_cons.1 he with rfl | he
    · exact hlt
    · exact String.lt_trans hlt ((List.pairwise_cons.1 hm).1 e he)
  rw [entryValue?_eq_none_of_forall_lt hall] at h
  simp [entryValue?] at h

theorem eq_of_entryValue?_eq {m m' : List (String × α)} (hm : KeysIncrease m)
    (hm' : KeysIncrease m') (h : ∀ key, entryValue? key m = entryValue? key m') : m = m' := by
  induction m generalizing m' with
  | nil =>
    cases m' with
    | nil => rfl
    | cons e rest => simpa [entryValue?] using h e.1
  | cons e rest ih =>
    obtain ⟨k, v⟩ := e
    cases m' with
    | nil => simpa [entryValue?] using h k
    | cons e' rest' =>
      obtain ⟨k', v'⟩ := e'
      obtain ⟨hk, hrest⟩ := List.pairwise_cons.1 hm
      obtain ⟨hk', hrest'⟩ := List.pairwise_cons.1 hm'
      have hkeys : k = k' := Std.le_antisymm
        (Std.not_lt.1 (not_lt_of_entryValue?_eq hm (h k').symm))
        (Std.not_lt.1 (not_lt_of_entryValue?_eq hm' (h k)))
      subst hkeys
      have hvalues : v = v' := by simpa [entryValue?] using h k
      subst hvalues
      refine congrArg _ (ih hrest hrest' fun key => ?_)
      by_cases hkey : k = key
      · subst hkey
        rw [entryValue?_eq_none_of_forall_lt hk, entryValue?_eq_none_of_forall_lt hk']
      · simpa [entryValue?, hkey] using h key

/-- A map is known from what stands under each key. -/
theorem KeyMap.ext_get? {m m' : KeyMap α} (h : ∀ key, m.get? key = m'.get? key) : m = m' := by
  obtain ⟨entries, hm⟩ := m
  obtain ⟨entries', hm'⟩ := m'
  obtain rfl : entries = entries' := eq_of_entryValue?_eq hm hm' h
  rfl

theorem entryValue?_filter {p : String → Bool} (key : String) (m : List (String × α)) :
    entryValue? key (m.filter fun e => p e.1) = if p key then entryValue? key m else none := by
  induction m with
  | nil => simp [entryValue?]
  | cons e rest ih =>
    obtain ⟨k, v⟩ := e
    by_cases hk : k = key
    · subst hk
      cases hp : p k <;> simp [hp, ih, entryValue?]
    · cases hp : p k <;> simp [hp, ih, hk, entryValue?]

/-- The entries under keys of a kind are known from what stands under these keys. -/
theorem KeyMap.filter_entries_eq {m m' : KeyMap α} {p : String → Bool}
    (h : ∀ key, p key = true → m.get? key = m'.get? key) :
    m.entries.filter (fun e => p e.1) = m'.entries.filter fun e => p e.1 := by
  refine eq_of_entryValue?_eq (m.increasing.filter _) (m'.increasing.filter _) fun key => ?_
  rw [entryValue?_filter, entryValue?_filter]
  split
  · next hp => exact h key hp
  · rfl

/-- Under a key that occurs once there is one field. -/
theorem filter_key_eq {fields : List (String × α)} (hn : (fields.map (·.1)).Nodup)
    {f : String × α} (hf : f ∈ fields) :
    fields.filter (fun g => g.1 == f.1) = [f] := by
  induction fields with
  | nil => simp at hf
  | cons g rest ih =>
    rw [List.map_cons, List.nodup_cons] at hn
    rcases List.mem_cons.1 hf with rfl | hf
    · have hrest : rest.filter (fun g => g.1 == f.1) = [] := by
        rw [List.filter_eq_nil_iff]
        intro g hg heq
        exact hn.1 (List.mem_map.2 ⟨g, hg, by simpa using heq⟩)
      simp [hrest]
    · have hne : (g.1 == f.1) = false := by
        rw [beq_eq_false_iff_ne]
        intro heq
        exact hn.1 (List.mem_map.2 ⟨f, hf, heq.symm⟩)
      rw [List.filter_cons_of_neg (by simp [hne]), ih hn.2 hf]

/-! ## The last entry with a key -/

/-- A value is that of the last entry with a key. -/
def IsLast {κ : Type} (key : κ) (value : α) (entries : List (κ × α)) : Prop :=
  ∃ before after, entries = before ++ (key, value) :: after ∧ ∀ e ∈ after, e.1 ≠ key

section IsLast

variable {β κ : Type} {key : κ} {value : α} {entries : List (κ × α)}

theorem IsLast.of_mem_of_nodup (h : (key, value) ∈ entries)
    (hnodup : (entries.map Prod.fst).Nodup) : IsLast key value entries := by
  obtain ⟨before, after, rfl⟩ := List.append_of_mem h
  refine ⟨before, after, rfl, fun e he hkey => ?_⟩
  rw [List.map_append, List.map_cons, List.nodup_append, List.nodup_cons] at hnodup
  exact hnodup.2.1.1 (List.mem_map.2 ⟨e, he, hkey⟩)

theorem isLast_concat_iff {k : κ} {v : α} : IsLast key value (entries ++ [(k, v)]) ↔
    (k = key ∧ v = value) ∨ (k ≠ key ∧ IsLast key value entries) := by
  constructor
  · rintro ⟨before, after, hentries, hafter⟩
    rcases after.eq_nil_or_concat with rfl | ⟨after, e, rfl⟩
    · obtain ⟨-, he⟩ := List.append_inj' hentries rfl
      cases he
      exact .inl ⟨rfl, rfl⟩
    · rw [List.concat_eq_append, ← List.cons_append, ← List.append_assoc] at hentries
      obtain ⟨rfl, he⟩ := List.append_inj' hentries rfl
      cases he
      exact .inr ⟨hafter (k, v) (by simp), before, after, rfl, fun e he => hafter e (by simp [he])⟩
  · rintro (⟨rfl, rfl⟩ | ⟨hk, before, after, rfl, hafter⟩)
    · exact ⟨entries, [], rfl, nofun⟩
    · refine ⟨before, after ++ [(k, v)], by simp, fun e he => ?_⟩
      rcases List.mem_append.1 he with he | he
      · exact hafter e he
      · rw [List.mem_singleton.1 he]
        exact hk

/-- The last entry with a key among what the items of a list give is that of the last item that
gives one. -/
theorem isLast_filterMap_iff {give : β → Option (κ × α)} {items : List β} :
    IsLast key value (items.filterMap give) ↔
      ∃ before b after, items = before ++ b :: after ∧ give b = some (key, value) ∧
        ∀ b' ∈ after, ∀ value', give b' ≠ some (key, value') := by
  constructor
  · rintro ⟨before, after, hitems, hafter⟩
    obtain ⟨bs, cs, rfl, -, hcs⟩ := List.filterMap_eq_append_iff.1 hitems
    obtain ⟨silent, b, ds, rfl, -, hb, hds⟩ := List.filterMap_eq_cons_iff.1 hcs
    refine ⟨bs ++ silent, b, ds, by simp, hb, fun b' hb' value' hgive => ?_⟩
    exact hafter (key, value') (hds ▸ List.mem_filterMap.2 ⟨b', hb', hgive⟩) rfl
  · rintro ⟨before, b, after, rfl, hb, hafter⟩
    refine ⟨before.filterMap give, after.filterMap give, by simp [hb], fun e he hkey => ?_⟩
    obtain ⟨b', hb', hgive⟩ := List.mem_filterMap.1 he
    exact hafter b' hb' e.2 (by rw [hgive, ← hkey])

end IsLast

namespace KeyMap

/-- A map of a list of entries has under a key what the last entry with it says. -/
theorem get?_ofList_eq_some_iff {entries : List (String × α)} {key : String} {value : α} :
    (ofList entries).get? key = some value ↔ IsLast key value entries := by
  induction entries using List.reverseRecOn with
  | nil =>
    refine iff_of_false nofun ?_
    rintro ⟨before, after, hentries, -⟩
    simp at hentries
  | append_singleton entries e ih =>
    obtain ⟨k, v⟩ := e
    have hget : (ofList (entries ++ [(k, v)])).get? key =
        if k = key then some v else (ofList entries).get? key := by
      simp only [get?, ofList, sortEntries, List.foldl_append, List.foldl_cons, List.foldl_nil,
        entryValue?_insertEntry]
    rw [hget, isLast_concat_iff, ← ih]
    by_cases hk : k = key <;> simp [hk]

end KeyMap

end Intake
