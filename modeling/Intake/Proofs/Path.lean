import Mathlib.Data.String.Basic
import Intake.FileTree
import Intake.Path

/-!
# Where paths lead

The names of a path are those of its parts: joining appends names (`Path.segments_join`), and the
path around another one has its names but the last, single points apart
(`Path.segments_of_parent?`). Following the names from the root gives a place, whatever is in the
files (`Path.location`), and the places that are passed on the way (`Path.stops`).
-/

namespace Intake

namespace Text

theorem splitOn_eq (sep : Char) (cs : List Char) : splitOn sep cs = cs.splitOn sep := by
  induction cs with
  | nil => simp [splitOn]
  | cons c cs ih =>
    rw [splitOn, List.splitOn_cons_eq_if_modifyHead, ih]
    by_cases hc : c = sep
    · simp [hc]
    · cases hs : cs.splitOn sep with
      | nil => exact absurd hs (List.splitOn_ne_nil sep cs)
      | cons piece pieces => simp [hc]

theorem not_mem_of_mem_splitOn {sep : Char} {cs piece : List Char} (h : piece ∈ splitOn sep cs) :
    sep ∉ piece := by
  induction cs generalizing piece with
  | nil => simp_all [splitOn]
  | cons c cs ih =>
    rw [splitOn] at h
    split at h
    · rcases List.mem_cons.1 h with rfl | h
      · simp
      · exact ih h
    · next hc =>
      cases hs : splitOn sep cs with
      | nil => simp_all [Ne.symm hc]
      | cons first rest =>
        rw [hs] at h ih
        rcases List.mem_cons.1 h with rfl | h
        · simp [Ne.symm hc, ih (List.mem_cons_self)]
        · exact ih (List.mem_cons_of_mem _ h)

/-- Text without separators goes to the last piece. -/
theorem splitOn_append {sep : Char} {t : List Char} (cs : List Char) (ht : sep ∉ t) :
    ∃ pieces last, splitOn sep cs = pieces ++ [last] ∧
      splitOn sep (cs ++ t) = pieces ++ [last ++ t] := by
  induction cs with
  | nil =>
    refine ⟨[], [], rfl, ?_⟩
    rw [splitOn_eq, List.nil_append, List.splitOn_eq_singleton ht]
    rfl
  | cons c cs ih =>
    obtain ⟨pieces, last, hcs, hct⟩ := ih
    rw [List.cons_append, splitOn, splitOn, hcs, hct]
    by_cases hc : c = sep
    · exact ⟨[] :: pieces, last, by simp [hc], by simp [hc]⟩
    · cases pieces with
      | nil => exact ⟨[], c :: last, by simp [hc], by simp [hc]⟩
      | cons piece pieces =>
        exact ⟨(c :: piece) :: pieces, last, by simp [hc], by simp [hc]⟩

/-- Fewer pieces make a shorter text. -/
theorem intercalate_sublist (sep : List Char) {ps qs : List (List Char)} (h : ps.Sublist qs) :
    (sep.intercalate ps).Sublist (sep.intercalate qs) := by
  induction h with
  | slnil => exact .refl _
  | @cons ps qs piece h ih =>
    cases qs with
    | nil =>
      rw [List.sublist_nil.1 h]
      exact List.nil_sublist _
    | cons q qs =>
      rw [List.intercalate_cons_of_ne_nil (by simp)]
      exact ih.trans (List.sublist_append_right _ _)
  | @cons_cons ps qs piece h ih =>
    cases ps with
    | nil =>
      cases qs with
      | nil => exact .refl _
      | cons q qs =>
        rw [List.intercalate_singleton, List.intercalate_cons_of_ne_nil (by simp),
          List.append_assoc]
        exact List.sublist_append_left _ _
    | cons p ps =>
      have hqs : qs ≠ [] := by
        rintro rfl
        simp at h
      rw [List.intercalate_cons_of_ne_nil (by simp), List.intercalate_cons_of_ne_nil hqs]
      exact (List.Sublist.refl _).append ih

end Text

namespace Path

/-! ## The names of a path -/

/-- A text that names one thing in a directory, or a direction. -/
structure IsName (name : String) : Prop where
  ne_empty : name ≠ ""
  no_slash : '/' ∉ name.toList

theorem isName_of_mem_segments {path name : String} (h : name ∈ segments path) : IsName name := by
  simp only [segments, List.mem_filter, List.mem_map, decide_eq_true_eq] at h
  obtain ⟨⟨piece, hpiece, rfl⟩, hne⟩ := h
  exact ⟨hne, by simpa using Text.not_mem_of_mem_splitOn hpiece⟩

@[simp] theorem segments_empty : segments "" = [] := rfl

theorem segments_append_slash (a b : String) :
    segments (a ++ "/" ++ b) = segments a ++ segments b := by
  have hchars : (a ++ "/" ++ b).toList = a.toList ++ '/' :: b.toList := by simp
  simp only [segments, hchars, Text.splitOn_eq, List.splitOn_append_cons_self, List.map_append,
    List.filter_append]

theorem segments_of_isName {name : String} (h : IsName name) : segments name = [name] := by
  simp [segments, Text.splitOn_eq, List.splitOn_eq_singleton h.no_slash, h.ne_empty]

theorem isAbsolute_of_isName {name : String} (h : IsName name) : isAbsolute name = false := by
  unfold isAbsolute
  cases hc : name.toList with
  | nil => rfl
  | cons c cs =>
    have hne : c ≠ '/' := by
      rintro rfl
      exact h.no_slash (by simp [hc])
    simp [hne]

theorem isAbsolute_append {path : String} (h : path ≠ "") (ending : String) :
    isAbsolute (path ++ ending) = isAbsolute path := by
  have hne : path.toList ≠ [] := fun hnil => h (String.toList_injective hnil)
  rw [isAbsolute, isAbsolute, String.toList_append, List.head?_append_of_ne_nil _ hne]

theorem endsWithSlash_iff {path : String} :
    endsWithSlash path = true ↔ ∃ before, path = before ++ "/" := by
  unfold endsWithSlash
  rw [beq_iff_eq]
  constructor
  · intro h
    obtain ⟨before, hbefore⟩ := List.getLast?_eq_some_iff.1 h
    exact ⟨String.ofList before, String.toList_injective (by simp [hbefore])⟩
  · rintro ⟨before, rfl⟩
    simp

/-- The names of something inside a directory come after those of the directory. -/
theorem segments_join {dir path : String} (h : isAbsolute path = false) :
    segments (join dir path) = segments dir ++ segments path := by
  rw [join, if_neg (by simp [h])]
  split
  · next hdir =>
    rcases hdir with rfl | hslash
    · simp
    · obtain ⟨before, rfl⟩ := endsWithSlash_iff.1 hslash
      have hbefore : segments (before ++ "/") = segments before := by
        simpa using segments_append_slash before ""
      rw [segments_append_slash, hbefore]
  · exact segments_append_slash dir path

theorem segments_join_of_isName {dir name : String} (h : IsName name) :
    segments (join dir name) = segments dir ++ [name] := by
  rw [segments_join (isAbsolute_of_isName h), segments_of_isName h]

/-- An ending without slashes belongs to the last name, or is a name after a slash. -/
theorem exists_segments_append (path : String) {ending : String} (h : IsName ending) :
    ∃ names last, segments path = names ++ [last].filter (· ≠ "") ∧
      segments (path ++ ending) = names ++ [last ++ ending] := by
  obtain ⟨pieces, last, hpath, hsplit⟩ := Text.splitOn_append path.toList h.no_slash
  refine ⟨(pieces.map String.ofList).filter (· ≠ ""), String.ofList last, ?_, ?_⟩
  · rw [segments, hpath, List.map_append, List.filter_append, List.map_singleton]
  · have hne : String.ofList last ++ ending ≠ "" := by
      intro hempty
      have hchars : last = [] ∧ ending = "" := by simpa using congrArg String.toList hempty
      exact h.ne_empty hchars.2
    have hlast : String.ofList (last ++ ending.toList) = String.ofList last ++ ending := by simp
    rw [segments, String.toList_append, hsplit, List.map_append, List.filter_append,
      List.map_singleton, hlast]
    simp [hne]

theorem segments_intercalate {names : List String} (h : ∀ name ∈ names, IsName name) :
    segments ("/".intercalate names) = names := by
  induction names with
  | nil => rfl
  | cons name rest ih =>
    obtain ⟨hname, hrest⟩ := List.forall_mem_cons.1 h
    cases rest with
    | nil => rw [String.intercalate_singleton, segments_of_isName hname]
    | cons next rest =>
      rw [String.intercalate_cons_cons, segments_append_slash, segments_of_isName hname, ih hrest]
      rfl

theorem toList_intercalate_sublist {path : String} {names : List String}
    (h : names.Sublist (segments path)) : ("/".intercalate names).toList.Sublist path.toList := by
  have hpieces : (names.map String.toList).Sublist (Text.splitOn '/' path.toList) := by
    have hmap := (h.trans List.filter_sublist).map String.toList
    rwa [List.map_map, List.map_congr_left (g := id) (by simp), List.map_id] at hmap
  have hsublist := Text.intercalate_sublist ['/'] hpieces
  rw [String.toList_intercalate]
  rwa [Text.splitOn_eq, List.intercalate_splitOn] at hsublist

/-! ## The path around another one -/

/-- Names without single points, but for one at the beginning of a relative path. -/
def withoutPoints (absolute : Bool) : List String → List String
  | [] => []
  | first :: rest =>
    if first = "." ∧ absolute then rest.filter (· ≠ ".") else first :: rest.filter (· ≠ ".")

theorem components_eq (path : String) :
    components path = withoutPoints (isAbsolute path) (segments path) := by
  unfold components withoutPoints
  cases segments path <;> simp

theorem withoutPoints_sublist (absolute : Bool) (names : List String) :
    (withoutPoints absolute names).Sublist names := by
  cases names with
  | nil => exact List.Sublist.slnil
  | cons first rest =>
    rw [withoutPoints]
    split
    · exact List.filter_sublist.cons first
    · exact List.filter_sublist.cons_cons first

theorem withoutPoints_append_singleton {absolute : Bool} {names : List String} {last : String}
    (h : last ≠ ".") :
    withoutPoints absolute (names ++ [last]) = withoutPoints absolute names ++ [last] := by
  cases names with
  | nil => simp [withoutPoints, h]
  | cons first rest =>
    simp only [List.cons_append, withoutPoints, List.filter_append]
    split <;> simp [h]

/-- Only the first name of a path without points may be one. -/
theorem eq_singleton_of_getLast?_withoutPoints {absolute : Bool} {names : List String}
    (h : (withoutPoints absolute names).dropLast.getLast? = some ".") :
    (withoutPoints absolute names).dropLast = ["."] := by
  have hrest : ∀ l : List String, "." ∉ (l.filter (· ≠ ".")).dropLast := fun l hmem => by
    simpa using List.of_mem_filter ((List.dropLast_sublist _).subset hmem)
  cases names with
  | nil => simp [withoutPoints] at h
  | cons first rest =>
    rw [withoutPoints] at h ⊢
    split at h
    · exact absurd (List.mem_of_getLast? h) (hrest rest)
    · next hfirst =>
      rw [if_neg hfirst]
      cases hfilter : rest.filter (· ≠ ".") with
      | nil =>
        rw [hfilter] at h
        simp at h
      | cons next others =>
        have hnext := hrest rest
        rw [hfilter] at h hnext
        rw [List.dropLast_cons_of_ne_nil (by simp)] at h ⊢
        cases hothers : (next :: others).dropLast with
        | nil => simpa [hothers] using h
        | cons a as =>
          rw [hothers, List.getLast?_cons_cons] at h
          rw [hothers] at hnext
          exact absurd (List.mem_of_getLast? h) hnext

theorem isName_of_mem_components {path name : String} (h : name ∈ components path) :
    IsName name := by
  rw [components_eq] at h
  exact isName_of_mem_segments ((withoutPoints_sublist _ _).subset h)

/-- The path around another one has its names but the last, without single points. -/
theorem segments_of_parent? {path dir : String} (h : parent? path = some dir) :
    components path ≠ [] ∧ segments dir = (components path).dropLast := by
  unfold parent? at h
  split at h
  · simp at h
  · next names hne =>
    have hnames : ∀ name ∈ (components path).dropLast, IsName name := fun name hname =>
      isName_of_mem_components ((List.dropLast_sublist _).subset hname)
    refine ⟨hne, ?_⟩
    cases h
    split
    · have hslash : "/" ++ "/".intercalate (components path).dropLast =
          "" ++ "/" ++ "/".intercalate (components path).dropLast := by simp
      rw [hslash, segments_append_slash, segments_intercalate hnames]
      rfl
    · rw [String.empty_append, segments_intercalate hnames]

/-- The path around another one has no characters that the other does not have. -/
theorem toList_parent?_sublist {path dir : String} (h : parent? path = some dir) :
    dir.toList.Sublist path.toList := by
  have hnames : (components path).dropLast.Sublist (segments path) := by
    rw [components_eq]
    exact (List.dropLast_sublist _).trans (withoutPoints_sublist _ _)
  unfold parent? at h
  split at h
  · simp at h
  · cases h
    split
    · next habsolute =>
      obtain ⟨rest, hrest⟩ : ∃ rest, path = "" ++ "/" ++ rest := by
        unfold isAbsolute at habsolute
        obtain ⟨cs, hcs⟩ := List.head?_eq_some_iff.1 (beq_iff_eq.1 habsolute)
        exact ⟨String.ofList cs, String.toList_injective (by simp [hcs])⟩
      rw [hrest, segments_append_slash, segments_empty, List.nil_append] at hnames
      have hsublist := toList_intercalate_sublist hnames
      rw [← hrest] at hsublist
      rw [hrest]
      simpa [hrest] using hsublist
    · simpa using toList_intercalate_sublist hnames

theorem utf8ByteSize_parent?_le {path dir : String} (h : parent? path = some dir) :
    dir.utf8ByteSize ≤ path.utf8ByteSize := by
  rw [← String.utf8Len_toList, ← String.utf8Len_toList]
  exact String.utf8Len_le_of_sublist (toList_parent?_sublist h)

/-! ## Places -/

/-- The place that a name leads to from another place. -/
def step (loc : Location) (name : String) : Location :=
  if name = "." then loc else if name = ".." then loc.dropLast else loc ++ [name]

/-- The place that names lead to from another place, whatever is there. -/
def walk (loc : Location) (names : List String) : Location := names.foldl step loc

/-- The places that names lead to from another place, one after the other. -/
def stops (loc : Location) : List String → List Location
  | [] => []
  | name :: rest => step loc name :: stops (step loc name) rest

/-- The place that a path leads to, whatever is there. -/
def location (path : String) : Location := walk [] (segments path)

/-- A name that is no direction. -/
structure IsPlain (name : String) : Prop extends IsName name where
  ne_point : name ≠ "."
  ne_points : name ≠ ".."

theorem isPlain_iff {name : String} :
    IsPlain name ↔ (name ≠ "" ∧ '/' ∉ name.toList) ∧ name ≠ "." ∧ name ≠ ".." :=
  ⟨fun h => ⟨⟨h.ne_empty, h.no_slash⟩, h.ne_point, h.ne_points⟩,
    fun ⟨⟨hempty, hslash⟩, hpoint, hpoints⟩ => ⟨⟨hempty, hslash⟩, hpoint, hpoints⟩⟩

instance (name : String) : Decidable (IsPlain name) := decidable_of_iff _ isPlain_iff.symm

variable {loc l : Location} {names rest : List String}

@[simp] theorem walk_nil : walk loc [] = loc := rfl

@[simp] theorem walk_cons (name : String) : walk loc (name :: rest) = walk (step loc name) rest :=
  rfl

theorem walk_append : walk loc (names ++ rest) = walk (walk loc names) rest :=
  List.foldl_append

theorem stops_append :
    stops loc (names ++ rest) = stops loc names ++ stops (walk loc names) rest := by
  induction names generalizing loc with
  | nil => rfl
  | cons name names ih => simp [stops, ih]

theorem IsPlain.step_eq {name : String} (h : IsPlain name) : step loc name = loc ++ [name] := by
  rw [step, if_neg h.ne_point, if_neg h.ne_points]

theorem walk_of_isPlain (h : ∀ name ∈ names, IsPlain name) : walk loc names = loc ++ names := by
  induction names generalizing loc with
  | nil => simp
  | cons name names ih =>
    obtain ⟨hname, hnames⟩ := List.forall_mem_cons.1 h
    rw [walk_cons, hname.step_eq, ih hnames, List.append_assoc]
    rfl

/-- The places passed by plain names lie between the beginning and the end. -/
theorem prefix_of_mem_stops (h : ∀ name ∈ names, IsPlain name) (hl : l ∈ stops loc names) :
    l <+: loc ++ names ∧ loc.length < l.length := by
  induction names generalizing loc with
  | nil => simp [stops] at hl
  | cons name names ih =>
    obtain ⟨hname, hnames⟩ := List.forall_mem_cons.1 h
    rw [stops, hname.step_eq] at hl
    have happend : loc ++ name :: names = loc ++ [name] ++ names := by simp
    rcases List.mem_cons.1 hl with rfl | hl
    · exact ⟨happend ▸ List.prefix_append _ _, by simp⟩
    · obtain ⟨hbefore, hlength⟩ := ih hnames hl
      refine ⟨happend ▸ hbefore, ?_⟩
      rw [List.length_append] at hlength
      omega

theorem prefix_walk (h : ∀ name ∈ names, name ≠ "..") : loc <+: walk loc names := by
  induction names generalizing loc with
  | nil => exact List.prefix_rfl
  | cons name names ih =>
    obtain ⟨hname, hnames⟩ := List.forall_mem_cons.1 h
    rw [walk_cons]
    refine List.IsPrefix.trans ?_ (ih hnames)
    rw [step, if_neg hname]
    split
    · exact List.prefix_rfl
    · exact List.prefix_append _ _

/-- Without double points, the places that names pass lie before the one they lead to. -/
theorem prefix_walk_of_mem_stops (h : ∀ name ∈ names, name ≠ "..") (hl : l ∈ stops loc names) :
    l <+: walk loc names := by
  induction names generalizing loc with
  | nil => simp [stops] at hl
  | cons name names ih =>
    obtain ⟨-, hnames⟩ := List.forall_mem_cons.1 h
    rcases List.mem_cons.1 hl with rfl | hl
    · exact prefix_walk hnames
    · exact ih hnames hl

theorem stops_filter_subset : stops loc (names.filter (· ≠ ".")) ⊆ stops loc names := by
  induction names generalizing loc with
  | nil => simp
  | cons name names ih =>
    by_cases hname : name = "."
    · have hstep : step loc name = loc := if_pos hname
      rw [List.filter_cons_of_neg (by simpa using hname), stops, hstep]
      exact List.Subset.trans ih (List.subset_cons_self _ _)
    · rw [List.filter_cons_of_pos (by simpa using hname), stops, stops]
      exact List.cons_subset_cons _ ih

theorem mem_stops_filter (h : l ∈ stops loc names) :
    l = loc ∨ l ∈ stops loc (names.filter (· ≠ ".")) := by
  induction names generalizing loc with
  | nil => simp [stops] at h
  | cons name names ih =>
    rw [stops] at h
    by_cases hname : name = "."
    · have hstep : step loc name = loc := if_pos hname
      rw [hstep] at h
      rcases List.mem_cons.1 h with rfl | h
      · exact .inl rfl
      · simpa [hname] using ih h
    · rw [List.filter_cons_of_pos (by simpa using hname), stops]
      refine .inr ?_
      rcases List.mem_cons.1 h with rfl | h
      · simp
      · rcases ih h with rfl | h
        · simp
        · exact List.mem_cons_of_mem _ h

/-- Leaving out single points passes no other places. -/
theorem stops_withoutPoints_subset (absolute : Bool) :
    stops loc (withoutPoints absolute names) ⊆ stops loc names := by
  cases names with
  | nil => simp [withoutPoints]
  | cons first rest =>
    rw [withoutPoints]
    split
    · next hfirst =>
      have hstep : step loc first = loc := if_pos hfirst.1
      rw [stops, hstep]
      exact List.Subset.trans stops_filter_subset (List.subset_cons_self _ _)
    · rw [stops, stops]
      exact List.cons_subset_cons _ stops_filter_subset

/-- Leaving out single points passes all places but the one where the path begins. -/
theorem mem_stops_withoutPoints {absolute : Bool} (h : l ∈ stops loc names) :
    l = loc ∨ l ∈ stops loc (withoutPoints absolute names) := by
  cases names with
  | nil => simp [stops] at h
  | cons first rest =>
    rw [withoutPoints]
    split
    · next hfirst =>
      have hstep : step loc first = loc := if_pos hfirst.1
      rw [stops, hstep] at h
      rcases List.mem_cons.1 h with rfl | h
      · exact .inl rfl
      · exact mem_stops_filter h
    · rw [stops] at h ⊢
      refine .inr ?_
      rcases List.mem_cons.1 h with rfl | h
      · simp
      · rcases mem_stops_filter h with rfl | h
        · simp
        · exact List.mem_cons_of_mem _ h

/-- The path around another one passes no other places. -/
theorem stops_parent?_subset {path dir : String} (h : parent? path = some dir) :
    stops [] (segments dir) ⊆ stops [] (segments path) := by
  obtain ⟨hne, hdir⟩ := segments_of_parent? h
  intro l hl
  refine stops_withoutPoints_subset (isAbsolute path) ?_
  rw [← components_eq, ← List.dropLast_append_getLast hne, stops_append, ← hdir]
  exact List.mem_append_left _ hl

end Path

end Intake
