import Mathlib.Data.List.Basic
import Intake.FileTree

/-!
# Putting trees in their places

What is at a location after another tree, or none, has been put at a location: the other tree at
that location itself (`FileTree.at?_place_self`), the directory with its entry changed around it
(`FileTree.at?_place_append`), and what was there before everywhere else
(`FileTree.at?_place_of_apart`). Seen one by one, files and directories change at most below the
location (`FileTree.nodeAt?_place`).
-/

namespace Intake.FileTree

variable {t : FileTree} {n? : Option FileTree} {loc l rest : Location} {name : String}
  {entries : List (String × FileTree)}

/-! ## Entries -/

theorem lookup_filter_ne (k : String) :
    (entries.filter fun e => e.1 != name).lookup k =
      if k = name then none else entries.lookup k := by
  induction entries with
  | nil => simp
  | cons e entries ih =>
    obtain ⟨key, n⟩ := e
    by_cases hkey : key = name
    · subst hkey
      rw [List.filter_cons_of_neg (by simp), ih, List.lookup_cons]
      by_cases hk : k = key
      · simp [hk]
      · have hne : (k == key) = false := by simpa using hk
        simp [hk, hne]
    · rw [List.filter_cons_of_pos (by simpa using hkey), List.lookup_cons, List.lookup_cons, ih]
      by_cases hk : k = key
      · subst hk; simp [hkey]
      · have hne : (k == key) = false := by simpa using hk
        simp [hne]

theorem lookup_setEntry (k : String) :
    (setEntry name n? entries).lookup k = if k = name then n? else entries.lookup k := by
  unfold setEntry
  cases n? with
  | none => exact lookup_filter_ne k
  | some n =>
    dsimp only
    rw [List.lookup_append, lookup_filter_ne]
    by_cases hk : k = name
    · simp [hk]
    · have hne : (k == name) = false := by simpa using hk
      simp [hk, hne, List.lookup_cons]

theorem lookup_map_of_key (f : FileTree → FileTree) (k : String) :
    (entries.map fun e => if e.1 = name then (e.1, f e.2) else e).lookup k =
      if k = name then (entries.lookup k).map f else entries.lookup k := by
  induction entries with
  | nil => simp
  | cons e entries ih =>
    obtain ⟨key, n⟩ := e
    rw [List.map_cons]
    by_cases hkey : key = name
    · subst hkey
      by_cases hk : k = key
      · simp [hk]
      · have hne : (k == key) = false := by simpa using hk
        simp [hk, hne, List.lookup_cons, ih]
    · by_cases hk : k = key
      · subst hk; simp [hkey]
      · have hne : (k == key) = false := by simpa using hk
        simp only [if_neg hkey, List.lookup_cons, hne, ih]

/-- A new entry comes after the others. -/
theorem setEntry_of_not_mem {n : FileTree} (h : name ∉ entries.map (·.1)) :
    setEntry name (some n) entries = entries ++ [(name, n)] := by
  have hall : ∀ e ∈ entries, (e.1 != name) = true := by
    intro e he
    have hne : e.1 ≠ name := fun heq => h (heq ▸ List.mem_map_of_mem he)
    simpa using hne
  rw [setEntry, List.filter_eq_self.2 hall]

/-! ## Trees -/

theorem at?_append (t : FileTree) (loc rest : Location) :
    t.at? (loc ++ rest) = (t.at? loc).bind fun n => n.at? rest := by
  induction loc generalizing t with
  | nil => simp [at?]
  | cons name loc ih =>
    cases t with
    | file content => simp [at?]
    | dir entries =>
      simp only [List.cons_append, at?, Option.bind_assoc]
      exact Option.bind_congr fun n _ => ih n

/-- What is below a location is found in a directory there. -/
theorem exists_dir_of_at?_append (hrest : rest ≠ []) (h : (t.at? (loc ++ rest)).isSome) :
    ∃ entries, t.at? loc = some (.dir entries) := by
  rw [at?_append] at h
  cases hn : t.at? loc with
  | none => simp [hn] at h
  | some n =>
    cases n with
    | dir entries => exact ⟨entries, rfl⟩
    | file content =>
      obtain ⟨name, rest, rfl⟩ := List.exists_cons_of_ne_nil hrest
      simp [hn, at?] at h

/-- A directory around the location has its entry changed. -/
theorem at?_place_append (hrest : rest ≠ []) :
    (place n? t (loc ++ rest)).at? loc = (t.at? loc).map fun n => place n? n rest := by
  induction loc generalizing t with
  | nil => simp [at?]
  | cons name loc ih =>
    cases t with
    | file content => simp [place, at?]
    | dir entries =>
      obtain ⟨next, others, hothers⟩ : ∃ next others, loc ++ rest = next :: others :=
        List.exists_cons_of_ne_nil (by simp [hrest])
      rw [List.cons_append, hothers, place, at?,
        lookup_map_of_key fun n => place n? n (next :: others), if_pos rfl, at?]
      cases entries.lookup name with
      | none => rfl
      | some n => simpa [hothers] using ih (t := n)

theorem at?_place_self {parent : Location} (h : t.at? parent = some (.dir entries)) :
    (place n? t (parent ++ [name])).at? (parent ++ [name]) = n? := by
  rw [at?_append, at?_place_append (by simp), h]
  simp [place, at?, lookup_setEntry]

/-- Elsewhere everything stays. -/
theorem at?_place_of_apart (h : ¬ loc <+: l) (h' : ¬ l <+: loc) :
    (place n? t loc).at? l = t.at? l := by
  induction loc generalizing t l with
  | nil => exact absurd List.nil_prefix h
  | cons name loc ih =>
    cases t with
    | file content => rw [place]
    | dir entries =>
      cases l with
      | nil => exact absurd List.nil_prefix h'
      | cons k l =>
        cases loc with
        | nil =>
          have hk : k ≠ name := by
            rintro rfl
            exact h (by simp)
          rw [place, at?, at?, lookup_setEntry, if_neg hk]
        | cons next others =>
          rw [place, at?, at?, lookup_map_of_key fun n => place n? n (next :: others)]
          by_cases hk : k = name
          · subst hk
            rw [if_pos rfl]
            cases entries.lookup k with
            | none => rfl
            | some n =>
              simp only [List.cons_prefix_cons, true_and] at h h'
              exact ih h h'
          · rw [if_neg hk]

/-! ## Files and directories by themselves -/

/-- What there is at a location, without what is in it. -/
inductive Node where
  | file (content : ByteArray)
  | dir

/-- A tree without what is in it. -/
def node : FileTree → Node
  | file content => .file content
  | dir _ => .dir

/-- What there is at a location, without what is in it. -/
def nodeAt? (t : FileTree) (loc : Location) : Option Node := (t.at? loc).map node

theorem node_place (hrest : rest ≠ []) : (place n? t rest).node = t.node := by
  cases t with
  | file content =>
    obtain ⟨name, rest, rfl⟩ := List.exists_cons_of_ne_nil hrest
    rfl
  | dir entries =>
    cases rest with
    | nil => exact absurd rfl hrest
    | cons name rest => cases rest <;> rfl

/-- Nothing changes but at the location and below it. -/
theorem nodeAt?_place (h : ¬ loc <+: l) : (place n? t loc).nodeAt? l = t.nodeAt? l := by
  unfold nodeAt?
  by_cases h' : l <+: loc
  · obtain ⟨rest, rfl⟩ := h'
    have hrest : rest ≠ [] := by
      rintro rfl
      exact h (by simp)
    rw [at?_place_append hrest, Option.map_map]
    exact Option.map_congr fun n _ => node_place hrest
  · rw [at?_place_of_apart h h']

/-- At the location and below it there is what has been put there. -/
theorem nodeAt?_place_self {parent : Location} (h : t.nodeAt? parent = some .dir) :
    (place n? t (parent ++ [name])).nodeAt? (parent ++ [name] ++ rest) =
      n?.bind fun n => n.nodeAt? rest := by
  obtain ⟨n, hn, hdir⟩ := Option.map_eq_some_iff.1 h
  cases n with
  | file content => simp [node] at hdir
  | dir entries =>
    rw [nodeAt?, at?_append, at?_place_self hn]
    cases n? <;> rfl

theorem nodeAt?_dir_iff :
    t.nodeAt? loc = some .dir ↔ ∃ entries, t.at? loc = some (.dir entries) := by
  unfold nodeAt?
  cases t.at? loc with
  | none => simp
  | some n => cases n <;> simp [node]

theorem nodeAt?_file_iff {content : ByteArray} :
    t.nodeAt? loc = some (.file content) ↔ t.at? loc = some (.file content) := by
  unfold nodeAt?
  cases t.at? loc with
  | none => simp
  | some n => cases n <;> simp [node]

theorem nodeAt?_eq_none_iff : t.nodeAt? loc = none ↔ t.at? loc = none := by
  simp [nodeAt?]

/-- Around everything that is there, there are directories. -/
theorem nodeAt?_dir_of_append (hrest : rest ≠ []) (h : (t.nodeAt? (loc ++ rest)).isSome) :
    t.nodeAt? loc = some .dir := by
  rw [nodeAt?, Option.isSome_map] at h
  exact nodeAt?_dir_iff.2 (exists_dir_of_at?_append hrest h)

theorem nodeAt?_dropLast (h : t.nodeAt? loc = some .dir) : t.nodeAt? loc.dropLast = some .dir := by
  by_cases hloc : loc = []
  · simpa [hloc] using h
  · have hlast : (t.nodeAt? (loc.dropLast ++ [loc.getLast hloc])).isSome := by
      rw [List.dropLast_append_getLast hloc, h]
      rfl
    exact nodeAt?_dir_of_append (by simp) hlast

end Intake.FileTree
