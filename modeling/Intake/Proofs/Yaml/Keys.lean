import Mathlib.Data.List.Forall2
import Mathlib.Data.List.Induction
import Mathlib.Data.List.Perm.Basic
import Intake.Config.Yaml
import Intake.Proofs.Casing

/-!
# Keys in any case of letters

Lower-casing the keys of a mapping makes some of them equal, and the entries with equal keys are
merged, which is done one entry at a time (`setEntry`). All that is said about merging follows from
one statement: it may be done for the keys of any kind by themselves (`filter_mergeEntries`). What
is left under a name is therefore the value of the last key with this name
(`getLast?_of_mergeEntries_eq`).

Values whose keys are spelled differently have the same lower-case form
(`Respelled.lowerKeys_eq`). A value without an entry that a later one overrides has the same form up
to the order of entries (`Overridden.rearranged`). A reader of records depends neither on this order
(`requiredSetting?_perm`, `settingOr?_perm`) nor on anything but the values of fields
(`requiredSetting?_value`, `settingOr?_value`).
-/

namespace Intake.Yaml

namespace Value

/-! ## Keys that are the same -/

theorem same_text_iff {k : Value} {s : String} : same k (text s) = true ↔ k = text s := by
  cases k <;> simp [same]

theorem text_same_iff {k : Value} {s : String} : same (text s) k = true ↔ k = text s := by
  cases k with
  | text t => simpa [same] using eq_comm
  | _ => simp [same]

/-- Keys that are the same are the same text, if they are texts at all. -/
theorem text?_eq_of_same : ∀ {k l : Value}, same k l = true → k.text? = l.text?
  | text s, l, h => by rw [text_same_iff.1 h]
  | tagged _ k, tagged _ l, h => by
    rw [same, Bool.and_eq_true] at h
    have hinner : k.text? = l.text? := text?_eq_of_same h.2
    exact hinner
  | null, null, _ => rfl
  | bool _, bool _, _ => rfl
  | integer _, integer _, _ => rfl
  | float _, float _, _ => rfl
  | list _, list _, _ => rfl
  | mapping _, mapping _, _ => rfl

/-! ## Merging entries -/

/-- The entries with those of equal keys merged: a later value replaces an earlier one. -/
def mergeEntries (entries : List (Value × Value)) : List (Value × Value) :=
  entries.foldl (fun es e => setEntry e.1 e.2 es) []

theorem mergeEntries_concat (entries : List (Value × Value)) (e : Value × Value) :
    mergeEntries (entries ++ [e]) = setEntry e.1 e.2 (mergeEntries entries) := by
  rw [mergeEntries, List.foldl_append]
  rfl

/-- An entry that is set is in one place, whatever its value is. -/
theorem exists_setEntry_eq (key : Value) (entries : List (Value × Value)) :
    ∃ before k after, (k = key ∨ same k key = true) ∧
      ∀ v, setEntry key v entries = before ++ (k, v) :: after := by
  induction entries with
  | nil => exact ⟨[], key, [], .inl rfl, fun v => rfl⟩
  | cons e rest ih =>
    obtain ⟨l, x⟩ := e
    by_cases hsame : same l key = true
    · exact ⟨[], l, rest, .inr hsame, fun v => by rw [setEntry, if_pos hsame, List.nil_append]⟩
    · obtain ⟨before, k, after, hk, h⟩ := ih
      exact ⟨(l, x) :: before, k, after, hk, fun v => by
        rw [setEntry, if_neg hsame, h, List.cons_append]⟩

theorem mergeEntries_eq_nil_iff {entries : List (Value × Value)} :
    mergeEntries entries = [] ↔ entries = [] := by
  refine ⟨fun h => ?_, fun h => by rw [h, mergeEntries, List.foldl_nil]⟩
  rcases List.eq_nil_or_concat entries with rfl | ⟨before, e, rfl⟩
  · rfl
  · rw [List.concat_eq_append, mergeEntries_concat] at h
    obtain ⟨as, k, bs, -, hset⟩ := exists_setEntry_eq e.1 (mergeEntries before)
    simp [hset] at h

/-- What is left of entries that are merged into one has the value of the last. -/
theorem getLast?_of_mergeEntries_eq {entries : List (Value × Value)} {e : Value × Value}
    (h : mergeEntries entries = [e]) : entries.getLast?.map (·.2) = some e.2 := by
  rcases List.eq_nil_or_concat entries with rfl | ⟨before, last, rfl⟩
  · cases h
  · rw [List.concat_eq_append, mergeEntries_concat] at h
    obtain ⟨as, k, bs, -, hset⟩ := exists_setEntry_eq last.1 (mergeEntries before)
    have hmem : (k, last.2) ∈ [e] := by
      rw [← h, hset]
      exact List.mem_append_right _ List.mem_cons_self
    rw [← List.mem_singleton.1 hmem, List.concat_eq_append, List.getLast?_concat]
    rfl

section Filter

variable {p : Value → Bool}

theorem filter_setEntry (hp : ∀ {k l}, same k l = true → p k = p l) (key value : Value)
    (entries : List (Value × Value)) : (setEntry key value entries).filter (fun e => p e.1) =
      if p key then setEntry key value (entries.filter fun e => p e.1)
      else entries.filter fun e => p e.1 := by
  induction entries with
  | nil => cases hkey : p key <;> simp [setEntry, hkey]
  | cons e rest ih =>
    obtain ⟨k, v⟩ := e
    rw [setEntry]
    by_cases hsame : same k key = true
    · have hk := hp hsame
      rw [if_pos hsame]
      cases hkey : p key <;> simp [hk, hkey, setEntry, hsame]
    · rw [if_neg hsame, List.filter_cons, List.filter_cons, ih]
      cases hk : p k <;> cases hkey : p key <;> simp [setEntry, hsame]

/-- Entries may be merged for the keys of a kind by themselves. -/
theorem filter_mergeEntries (hp : ∀ {k l}, same k l = true → p k = p l)
    (entries : List (Value × Value)) : (mergeEntries entries).filter (fun e => p e.1) =
      mergeEntries (entries.filter fun e => p e.1) := by
  induction entries using List.reverseRecOn with
  | nil => rfl
  | append_singleton entries e ih =>
    rw [mergeEntries_concat, filter_setEntry hp, ih, List.filter_append]
    cases he : p e.1
    · simp [he]
    · simp [he, mergeEntries_concat]

end Filter

/-- Entries that all have the same text as key are merged into the last. -/
theorem mergeEntries_of_forall_key {s : String} {entries : List (Value × Value)}
    (h : ∀ e ∈ entries, e.1 = text s) : mergeEntries entries = entries.getLast?.toList := by
  induction entries using List.reverseRecOn with
  | nil => rfl
  | append_singleton entries e ih =>
    obtain ⟨hentries, he⟩ := List.forall_mem_append.1 h
    obtain ⟨k, v⟩ := e
    obtain rfl : k = text s := he _ (List.mem_singleton_self _)
    rw [mergeEntries_concat, ih hentries, List.getLast?_concat]
    cases hlast : entries.getLast? with
    | none => rfl
    | some e' =>
      obtain ⟨k', v'⟩ := e'
      obtain rfl : k' = text s := hentries _ (List.mem_of_getLast? hlast)
      simp [setEntry, same]

/-- An entry whose key comes again later can be left out; at most the order of entries changes. -/
theorem perm_mergeEntries {before after : List (Value × Value)} {s : String} {v w : Value}
    (h : (text s, w) ∈ after) : (mergeEntries (before ++ (text s, v) :: after)).Perm
      (mergeEntries (before ++ after)) := by
  -- The entries under the key are merged into the last of them, and those under other keys are not
  -- touched by this.
  have hkind : ∀ {k l}, same k l = true → same k (text s) = same l (text s) := by
    intro k l hkl
    rw [Bool.eq_iff_iff, same_text_iff, same_text_iff]
    constructor
    · rintro rfl
      exact text_same_iff.1 hkl
    · rintro rfl
      exact same_text_iff.1 hkl
  have hother : ∀ {k l}, same k l = true → (!same k (text s)) = !same l (text s) :=
    fun hkl => congrArg _ (hkind hkl)
  have hself : same (text s) (text s) = true := same_text_iff.2 rfl
  have hkeys : ∀ entries : List (Value × Value),
      ∀ e ∈ entries.filter (fun e => same e.1 (text s)), e.1 = text s :=
    fun entries e he => same_text_iff.1 (List.mem_filter.1 he).2
  have hlater : after.filter (fun e => same e.1 (text s)) ≠ [] :=
    List.ne_nil_of_mem (List.mem_filter.2 ⟨h, hself⟩)
  have hmerged : (mergeEntries (before ++ (text s, v) :: after)).filter
      (fun e => same e.1 (text s)) =
        (mergeEntries (before ++ after)).filter fun e => same e.1 (text s) := by
    rw [filter_mergeEntries hkind, filter_mergeEntries hkind,
      mergeEntries_of_forall_key (hkeys _), mergeEntries_of_forall_key (hkeys _),
      List.filter_append, List.filter_append, List.filter_cons, if_pos hself,
      List.getLast?_append_of_ne_nil _ hlater, List.getLast?_append_of_ne_nil _ (by simp),
      List.getLast?_cons_of_ne_nil hlater]
  have hothers : (mergeEntries (before ++ (text s, v) :: after)).filter
      (fun e => !same e.1 (text s)) =
        (mergeEntries (before ++ after)).filter fun e => !same e.1 (text s) := by
    rw [filter_mergeEntries hother, filter_mergeEntries hother, List.filter_append,
      List.filter_append, List.filter_cons, if_neg (by simp [hself])]
  have hsplit := List.filter_append_perm (fun e : Value × Value => same e.1 (text s))
    (mergeEntries (before ++ (text s, v) :: after))
  rw [hmerged, hothers] at hsplit
  exact hsplit.symm.trans (List.filter_append_perm _ _)

/-- The value of an entry stays in its place unless it is replaced. -/
theorem setEntry_value (key value k : Value) (before after : List (Value × Value)) :
    (∃ entries, ∀ v, setEntry key value (before ++ (k, v) :: after) = entries) ∨
      ∃ before' after', ∀ v,
        setEntry key value (before ++ (k, v) :: after) = before' ++ (k, v) :: after' := by
  induction before with
  | nil =>
    by_cases hsame : same k key = true
    · exact .inl ⟨(k, value) :: after, fun v => by rw [List.nil_append, setEntry, if_pos hsame]⟩
    · exact .inr ⟨[], setEntry key value after, fun v => by
        rw [List.nil_append, setEntry, if_neg hsame, List.nil_append]⟩
  | cons e rest ih =>
    obtain ⟨l, x⟩ := e
    by_cases hsame : same l key = true
    · exact .inr ⟨(l, value) :: rest, after, fun v => by
        rw [List.cons_append, setEntry, if_pos hsame, List.cons_append]⟩
    · rcases ih with ⟨entries, h⟩ | ⟨before', after', h⟩
      · exact .inl ⟨(l, x) :: entries, fun v => by
          rw [List.cons_append, setEntry, if_neg hsame, h]⟩
      · exact .inr ⟨(l, x) :: before', after', fun v => by
          rw [List.cons_append, setEntry, if_neg hsame, h, List.cons_append]⟩

/-- The value under a text is in one place of the merged entries, or in none. -/
theorem mergeEntries_value (s : String) (before after : List (Value × Value)) :
    (∃ entries, ∀ v, mergeEntries (before ++ (text s, v) :: after) = entries) ∨
      ∃ before' after', ∀ v,
        mergeEntries (before ++ (text s, v) :: after) = before' ++ (text s, v) :: after' := by
  induction after using List.reverseRecOn with
  | nil =>
    obtain ⟨before', k, after', hk, h⟩ := exists_setEntry_eq (text s) (mergeEntries before)
    obtain rfl : k = text s := hk.elim id same_text_iff.1
    exact .inr ⟨before', after', fun v => by rw [mergeEntries_concat, h]⟩
  | append_singleton after e ih =>
    have hlast : ∀ v, mergeEntries (before ++ (text s, v) :: (after ++ [e])) =
        setEntry e.1 e.2 (mergeEntries (before ++ (text s, v) :: after)) := by
      intro v
      rw [← mergeEntries_concat, List.append_assoc, List.cons_append]
    rcases ih with ⟨entries, h⟩ | ⟨before', after', h⟩
    · exact .inl ⟨setEntry e.1 e.2 entries, fun v => by rw [hlast, h]⟩
    · simp only [hlast, h]
      exact setEntry_value e.1 e.2 (text s) before' after'

/-! ## Lower-casing keys -/

/-- An entry with its keys in lower case. -/
def lowerEntry (e : Value × Value) : Value × Value := (e.1.lowerKey, e.2.lowerKeys)

theorem lowerEntries_eq (entries : List (Value × Value)) :
    lowerEntries entries = entries.map lowerEntry := by
  induction entries with
  | nil => rfl
  | cons e rest ih =>
    rw [lowerEntries, ih]
    rfl

theorem lowerKeys_mapping (entries : List (Value × Value)) :
    (mapping entries).lowerKeys = mapping (mergeEntries (entries.map lowerEntry)) := by
  rw [lowerKeys, lowerEntries_eq]
  rfl

/-! ## Keys that are spelled differently -/

/-- The second value is the first with texts among the keys of its mappings in another case of ASCII
letters, as deep as mappings reach. -/
inductive Respelled : Value → Value → Prop
  | refl (v : Value) : Respelled v v
  | trans {u v w : Value} (h : Respelled u v) (h' : Respelled v w) : Respelled u w
  | key {before after : List (Value × Value)} {s t : String} {v : Value}
      (h : Text.sameIgnoringAsciiCase s t = true) :
      Respelled (mapping (before ++ (text s, v) :: after))
        (mapping (before ++ (text t, v) :: after))
  | value {before after : List (Value × Value)} {k v w : Value} (h : Respelled v w) :
      Respelled (mapping (before ++ (k, v) :: after)) (mapping (before ++ (k, w) :: after))

/-- Values that differ in the case of letters in keys have the same form with keys in lower case. -/
theorem Respelled.lowerKeys_eq {v w : Value} (h : Respelled v w) : w.lowerKeys = v.lowerKeys := by
  induction h with
  | refl v => rfl
  | trans _ _ ih ih' => rw [ih', ih]
  | key h =>
    simp only [lowerKeys_mapping, List.map_append, List.map_cons, lowerEntry, lowerKey,
      Text.lower_eq_of_sameIgnoringAsciiCase h]
  | value _ ih =>
    simp only [lowerKeys_mapping, List.map_append, List.map_cons, lowerEntry, ih]

/-! ## Entries that are overridden -/

/-- The second value is the first without an entry of a mapping that is followed by an entry with
the same text as key, whatever the case of its letters, as deep as mappings reach. -/
inductive Overridden : Value → Value → Prop
  | entry {before after : List (Value × Value)} {s t : String} {v w : Value}
      (h : Text.lower s = Text.lower t) (hlater : (text t, w) ∈ after) :
      Overridden (mapping (before ++ (text s, v) :: after)) (mapping (before ++ after))
  | value {before after : List (Value × Value)} {k v w : Value} (h : Overridden v w) :
      Overridden (mapping (before ++ (k, v) :: after)) (mapping (before ++ (k, w) :: after))

/-- Values that differ in the order of the entries of their mappings. -/
inductive Rearranged : Value → Value → Prop
  | refl (v : Value) : Rearranged v v
  | trans {u v w : Value} (h : Rearranged u v) (h' : Rearranged v w) : Rearranged u w
  | order {es fs : List (Value × Value)} (h : es.Perm fs) : Rearranged (mapping es) (mapping fs)
  | value {before after : List (Value × Value)} {k v w : Value} (h : Rearranged v w) :
      Rearranged (mapping (before ++ (k, v) :: after)) (mapping (before ++ (k, w) :: after))

/-- Entries with the same key, of which the values differ in the order of entries. -/
def EntryRearranged (e f : Value × Value) : Prop := f.1 = e.1 ∧ Rearranged e.2 f.2

theorem rearranged_of_forall₂ {es fs : List (Value × Value)}
    (h : List.Forall₂ EntryRearranged es fs) (before : List (Value × Value)) :
    Rearranged (mapping (before ++ es)) (mapping (before ++ fs)) := by
  induction h generalizing before with
  | nil => exact .refl _
  | @cons e f es fs he _ ih =>
    obtain ⟨k, v⟩ := e
    obtain ⟨l, w⟩ := f
    obtain ⟨rfl, hv⟩ : l = k ∧ Rearranged v w := he
    have hrest := ih (before ++ [(l, w)])
    rw [List.append_assoc, List.append_assoc] at hrest
    exact (Rearranged.value hv).trans hrest

theorem forall₂_setEntry {key v w : Value} (hv : Rearranged v w) {es fs : List (Value × Value)}
    (h : List.Forall₂ EntryRearranged es fs) :
    List.Forall₂ EntryRearranged (setEntry key v es) (setEntry key w fs) := by
  induction h with
  | nil => exact .cons ⟨rfl, hv⟩ .nil
  | @cons e f es fs he hrest ih =>
    obtain ⟨k, x⟩ := e
    obtain ⟨l, y⟩ := f
    obtain ⟨rfl, hx⟩ : l = k ∧ Rearranged x y := he
    rw [setEntry, setEntry]
    split
    · exact .cons ⟨rfl, hv⟩ hrest
    · exact .cons ⟨rfl, hx⟩ ih

theorem forall₂_mergeEntries {es fs : List (Value × Value)}
    (h : List.Forall₂ EntryRearranged es fs) :
    List.Forall₂ EntryRearranged (mergeEntries es) (mergeEntries fs) := by
  suffices ∀ {acc acc' : List (Value × Value)}, List.Forall₂ EntryRearranged acc acc' →
      List.Forall₂ EntryRearranged (es.foldl (fun m e => setEntry e.1 e.2 m) acc)
        (fs.foldl (fun m e => setEntry e.1 e.2 m) acc') from this .nil
  induction h with
  | nil => exact id
  | @cons e f _ _ he _ ih =>
    intro acc acc' hacc
    rw [List.foldl_cons, List.foldl_cons, he.1]
    exact ih (forall₂_setEntry he.2 hacc)

/-- With keys in lower case, a value and the one without an overridden entry differ at most in the
order of entries. -/
theorem Overridden.rearranged {v w : Value} (h : Overridden v w) :
    Rearranged v.lowerKeys w.lowerKeys := by
  induction h with
  | @entry before after s t v w h hlater =>
    have hlowered : (text (Text.lower s), w.lowerKeys) ∈ after.map lowerEntry :=
      List.mem_map.2 ⟨(text t, w), hlater, by rw [lowerEntry, lowerKey, h]⟩
    rw [lowerKeys_mapping, lowerKeys_mapping, List.map_append, List.map_append, List.map_cons]
    exact .order (perm_mergeEntries hlowered)
  | @value before after k v w _ ih =>
    have hsame : ∀ es : List (Value × Value), List.Forall₂ EntryRearranged es es :=
      fun es => List.forall₂_same.2 fun e _ => ⟨rfl, .refl e.2⟩
    rw [lowerKeys_mapping, lowerKeys_mapping, List.map_append, List.map_append, List.map_cons,
      List.map_cons]
    refine rearranged_of_forall₂ (forall₂_mergeEntries ?_) []
    exact List.rel_append (hsame _) (.cons ⟨rfl, ih⟩ (hsame _))

/-! ## Reading records -/

/-- The entries whose keys are texts, under these names. -/
def namedEntries (entries : List (Value × Value)) : List (String × Value) :=
  entries.filterMap fun e => e.1.text?.map fun name => (name, e.2)

theorem fields?_mapping (entries : List (Value × Value)) : (mapping entries).fields? =
    if entries.all (fun e => e.1.text?.isSome) then some (namedEntries entries) else none := by
  have hread : (mapping entries).fields? =
      entries.mapM fun e => e.1.text?.map fun name => (name, e.2) := rfl
  rw [hread]
  induction entries with
  | nil => rfl
  | cons e rest ih =>
    rw [List.mapM_cons, ih rfl]
    cases he : e.1.text? with
    | none => simp [he]
    | some name =>
      by_cases hrest : rest.all (fun e => e.1.text?.isSome) = true
      · simp [he, hrest, namedEntries]
      · simp [he, hrest]

/-- The fields with a name are those of the entries whose keys are this text. -/
theorem filter_namedEntries (name : String) (entries : List (Value × Value)) :
    (namedEntries entries).filter (fun f => f.1 == name) =
      (entries.filter fun e => e.1.text? == some name).map fun e => (name, e.2) := by
  induction entries with
  | nil => rfl
  | cons e rest ih =>
    rw [namedEntries, List.filterMap_cons] at *
    cases he : e.1.text? with
    | none => simpa [he] using ih
    | some other =>
      by_cases hname : other = name
      · subst hname
        simpa [he] using ih
      · simpa [he, hname] using ih

end Value

/-! A reader of records finds a field when its name is there once, so that it depends neither on
the order of fields nor on anything but their values. -/

section Fields

open Value

variable {α : Type} {read : Value → Option α} {default : α} {name n : String}
  {fields fields' before after : List (String × Value)} {v w : Value}

/-- Lists with the same items in some order are the same unless they have several. -/
theorem eq_or_two_le_of_perm {β : Type} {l l' : List β} (h : l.Perm l') :
    l' = l ∨ 2 ≤ l.length ∧ 2 ≤ l'.length := by
  have hlength := h.length_eq
  match l, l' with
  | [], [] => exact .inl rfl
  | [a], [b] => exact .inl (List.singleton_perm_singleton.1 h ▸ rfl)
  | a :: b :: rest, a' :: b' :: rest' => exact .inr (by simp)

theorem requiredSetting?_present (h : fields.filter (fun f => f.1 == name) = [(n, v)]) :
    requiredSetting? read fields name = read v := by
  rw [requiredSetting?, h]

theorem settingOr?_missing (h : fields.filter (fun f => f.1 == name) = []) :
    settingOr? read default fields name = some default := by
  rw [settingOr?, setting?, h]

theorem settingOr?_null (h : fields.filter (fun f => f.1 == name) = [(n, .null)]) :
    settingOr? read default fields name = some default := by
  rw [settingOr?, setting?, h]

theorem settingOr?_present (h : fields.filter (fun f => f.1 == name) = [(n, v)])
    (hv : v ≠ .null) : settingOr? read default fields name = read v := by
  rw [settingOr?, setting?, h]
  cases v with
  | null => exact absurd rfl hv
  | _ => rfl

theorem filter_of_ne (h : n ≠ name) :
    (before ++ (n, v) :: after).filter (fun f => f.1 == name) =
      (before ++ after).filter fun f => f.1 == name := by
  rw [List.filter_append, List.filter_append, List.filter_cons, if_neg (by simpa using h)]

/-- A field under another name does not count. -/
theorem requiredSetting?_of_ne (h : n ≠ name) :
    requiredSetting? read (before ++ (n, v) :: after) name =
      requiredSetting? read (before ++ after) name := by
  rw [requiredSetting?, requiredSetting?, filter_of_ne h]

theorem settingOr?_of_ne (h : n ≠ name) :
    settingOr? read default (before ++ (n, v) :: after) name =
      settingOr? read default (before ++ after) name := by
  rw [settingOr?, settingOr?, setting?, setting?, filter_of_ne h]

theorem requiredSetting?_eq_none (h : 2 ≤ (fields.filter fun f => f.1 == name).length) :
    requiredSetting? read fields name = none := by
  unfold requiredSetting?
  generalize fields.filter (fun f => f.1 == name) = found at h ⊢
  match found, h with
  | _ :: _ :: _, _ => rfl

theorem settingOr?_eq_none (h : 2 ≤ (fields.filter fun f => f.1 == name).length) :
    settingOr? read default fields name = none := by
  unfold settingOr? setting?
  generalize fields.filter (fun f => f.1 == name) = found at h ⊢
  match found, h with
  | _ :: _ :: _, _ => simp

theorem exists_of_requiredSetting? {a : α} (h : requiredSetting? read fields name = some a) :
    ∃ n v, fields.filter (fun f => f.1 == name) = [(n, v)] ∧ read v = some a := by
  unfold requiredSetting? at h
  split at h
  · next n v hone => exact ⟨n, v, hone, h⟩
  · cases h

/-- A setting that is read is missing, or null, or the value of a field. -/
theorem settingOr?_cases {a : α} (h : settingOr? read default fields name = some a) :
    (fields.filter (fun f => f.1 == name) = [] ∧ default = a) ∨
      (∃ n, fields.filter (fun f => f.1 == name) = [(n, .null)] ∧ default = a) ∨
      ∃ n v, fields.filter (fun f => f.1 == name) = [(n, v)] ∧ v ≠ .null ∧ read v = some a := by
  match hfound : fields.filter fun f => f.1 == name with
  | [] =>
    rw [settingOr?_missing hfound] at h
    exact .inl ⟨hfound, Option.some.inj h⟩
  | [(n, v)] =>
    by_cases hv : v = .null
    · subst hv
      rw [settingOr?_null hfound] at h
      exact .inr (.inl ⟨n, hfound, Option.some.inj h⟩)
    · rw [settingOr?_present hfound hv] at h
      exact .inr (.inr ⟨n, v, hfound, hv, h⟩)
  | _ :: _ :: _ =>
    rw [settingOr?_eq_none (by simp [hfound])] at h
    cases h

theorem requiredSetting?_perm (h : fields.Perm fields') :
    requiredSetting? read fields' name = requiredSetting? read fields name := by
  rcases eq_or_two_le_of_perm (h.filter fun f => f.1 == name) with heq | ⟨hle, hle'⟩
  · rw [requiredSetting?, requiredSetting?, heq]
  · rw [requiredSetting?_eq_none hle, requiredSetting?_eq_none hle']

theorem settingOr?_perm (h : fields.Perm fields') :
    settingOr? read default fields' name = settingOr? read default fields name := by
  rcases eq_or_two_le_of_perm (h.filter fun f => f.1 == name) with heq | ⟨hle, hle'⟩
  · rw [settingOr?, settingOr?, setting?, setting?, heq]
  · rw [settingOr?_eq_none hle, settingOr?_eq_none hle']

/-- Of fields that differ in one value, those with a name are the same, or they are this one field,
or they are several. -/
theorem filter_value_cases (name n : String) (v w : Value)
    (before after : List (String × Value)) :
    let fields := (before ++ (n, v) :: after).filter fun f => f.1 == name
    let fields' := (before ++ (n, w) :: after).filter fun f => f.1 == name
    fields' = fields ∨ (fields = [(n, v)] ∧ fields' = [(n, w)]) ∨
      (2 ≤ fields.length ∧ 2 ≤ fields'.length) := by
  simp only [List.filter_append, List.filter_cons]
  cases hname : n == name
  · exact .inl rfl
  · generalize before.filter (fun f => f.1 == name) = bs, after.filter (fun f => f.1 == name) = as
    refine .inr ?_
    match bs, as with
    | [], [] => exact .inl ⟨rfl, rfl⟩
    | _ :: _, _ =>
      simp only [List.length_append, List.length_cons, List.cons_append, if_true]
      exact .inr (by omega)
    | [], _ :: _ => exact .inr (by simp)

theorem requiredSetting?_value (h : read w = read v) :
    requiredSetting? read (before ++ (n, w) :: after) name =
      requiredSetting? read (before ++ (n, v) :: after) name := by
  rcases filter_value_cases name n v w before after with heq | ⟨heq, heq'⟩ | ⟨hle, hle'⟩
  · rw [requiredSetting?, requiredSetting?, heq]
  · rw [requiredSetting?_present heq, requiredSetting?_present heq', h]
  · rw [requiredSetting?_eq_none hle, requiredSetting?_eq_none hle']

theorem settingOr?_value (h : read w = read v) (hnull : w = .null ↔ v = .null) :
    settingOr? read default (before ++ (n, w) :: after) name =
      settingOr? read default (before ++ (n, v) :: after) name := by
  rcases filter_value_cases name n v w before after with heq | ⟨heq, heq'⟩ | ⟨hle, hle'⟩
  · rw [settingOr?, settingOr?, setting?, setting?, heq]
  · by_cases hv : v = .null
    · rw [hv, hnull.2 hv]
    · rw [settingOr?_present heq hv, settingOr?_present heq' (mt hnull.1 hv), h]
  · rw [settingOr?_eq_none hle, settingOr?_eq_none hle']

end Fields

end Intake.Yaml
