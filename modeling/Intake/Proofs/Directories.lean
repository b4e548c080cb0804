import Intake.Proofs.FileSystem

/-!
# Making and removing directories

Making a directory with those around it adds empty directories at places that the path passes and
where there was nothing (`FileSystem.makes_makeDirs`), so that everything that was there stays
(`FileSystem.Makes.nodeAt?_eq`); it works unless a file is in the way
(`FileSystem.makeDirs_works`). Removing a directory takes away what is at its place, if the path
leads there (`FileSystem.removeDir_cases`).
-/

namespace Intake

open Intake.Path FileTree

namespace FileSystem

variable {fs fs' : FileSystem} {loc l : Location} {path : String}

/-! ## Making directories -/

theorem isDir_iff : fs.isDir path = true ↔
    IsValid path ∧ fs.Reaches path ∧ fs.nodeAt? (location path) = some .dir := by
  cases fs.arrival path with
  | fault hresolve hnot =>
    exact iff_of_false (by simp [isDir, hresolve]) fun h => hnot ⟨h.1, h.2.1⟩
  | entry hresolve hvalid hreaches hlocation _ =>
    simp [isDir, hresolve, hlocation, hvalid, hreaches, isDir_at?_iff]
  | directory hresolve hvalid hreaches hdir => simp [isDir, hresolve, hvalid, hreaches, hdir]

/-- A directory is made where a path leads, unless there is something already. -/
theorem makeDir_eq_ok_iff : fs.makeDir path = .ok fs' ↔
    IsValid path ∧ fs.Reaches path ∧ fs.nodeAt? (location path) = none ∧
      fs' = fs.place (location path) (some (.dir [])) := by
  cases fs.arrival path with
  | fault hresolve hnot =>
    exact iff_of_false (by simp [makeDir, hresolve]) fun h => hnot ⟨h.1, h.2.1⟩
  | @entry parent name hresolve hvalid hreaches hlocation _ =>
    rw [nodeAt?_eq_none_iff, makeDir, hresolve, hlocation]
    cases hn : fs.at? (parent ++ [name]) with
    | none => simp [hn, hvalid, hreaches, @eq_comm _ fs']
    | some n => simp [hn]
  | directory hresolve _ _ hdir => simp [makeDir, hresolve, hdir]

/-- Directories are made, empty, at some of the places and where nothing was. -/
inductive Makes (places : List Location) : FileSystem → FileSystem → Prop where
  | refl (fs : FileSystem) : Makes places fs fs
  | step {fs fs' : FileSystem} {loc : Location} (hmem : loc ∈ places) (hroom : fs.HasRoom loc)
    (hnone : fs.nodeAt? loc = none) (hrest : Makes places (fs.place loc (some (.dir []))) fs') :
    Makes places fs fs'

namespace Makes

variable {places more : List Location} {fs'' : FileSystem}

theorem one (hmem : loc ∈ places) (hroom : fs.HasRoom loc) (hnone : fs.nodeAt? loc = none) :
    Makes places fs (fs.place loc (some (.dir []))) :=
  .step hmem hroom hnone (.refl _)

theorem trans (h : Makes places fs fs') (h' : Makes places fs' fs'') : Makes places fs fs'' := by
  induction h with
  | refl fs => exact h'
  | step hmem hroom hnone _ ih => exact .step hmem hroom hnone (ih h')

theorem mono (h : Makes places fs fs') (hsubset : places ⊆ more) : Makes more fs fs' := by
  induction h with
  | refl fs => exact .refl fs
  | step hmem hroom hnone _ ih => exact .step (hsubset hmem) hroom hnone ih

/-- What is there stays. -/
theorem nodeAt?_eq {n : Node} (h : Makes places fs fs') (hn : fs.nodeAt? l = some n) :
    fs'.nodeAt? l = some n := by
  induction h with
  | refl fs => exact hn
  | @step fs fs' loc _ _ hnone _ ih =>
    refine ih ?_
    rw [nodeAt?_place, hn]
    rintro ⟨rest, rfl⟩
    rw [nodeAt?_append_of_none hnone rest] at hn
    simp at hn

/-- Nothing is made inside of what is there. -/
theorem nodeAt?_of_isSome (h : Makes places fs fs')
    (hplaces : ∀ p ∈ places, p <+: l → (fs.nodeAt? p).isSome) :
    fs'.nodeAt? l = fs.nodeAt? l := by
  induction h with
  | refl fs => rfl
  | @step fs fs' loc hmem _ hnone _ ih =>
    have hloc : ¬ loc <+: l := by
      intro hbefore
      have hsome := hplaces loc hmem hbefore
      simp [hnone] at hsome
    rw [ih fun p hp hbefore => ?_, nodeAt?_place hloc]
    rw [nodeAt?_place fun habove => hloc (habove.trans hbefore)]
    exact hplaces p hp hbefore

/-- There are no new files. -/
theorem file_of_file {content : ByteArray} (h : Makes places fs fs')
    (hfile : fs'.nodeAt? l = some (.file content)) : fs.nodeAt? l = some (.file content) := by
  induction h with
  | refl fs => exact hfile
  | step _ hroom _ _ ih => exact file_of_file_place hroom (by simp) (ih hfile)

/-- A tree stays as it is when no directory is made inside of it. -/
theorem at?_eq {t : FileTree} (h : Makes places fs fs')
    (hplaces : ∀ p ∈ places, l <+: p → p = l) (ht : fs.at? l = some t) : fs'.at? l = some t := by
  induction h with
  | refl fs => exact ht
  | @step fs fs' loc hmem _ hnone _ ih =>
    refine ih ?_
    have hne : loc ≠ l := by
      rintro rfl
      rw [nodeAt?_eq_none_iff.1 hnone] at ht
      simp at ht
    rw [at?_place_of_apart, ht]
    · rintro ⟨rest, rfl⟩
      have hnode := nodeAt?_append_of_none hnone rest
      rw [nodeAt?_eq_none_iff, ht] at hnode
      simp at hnode
    · exact fun hbefore => hne (hplaces loc hmem hbefore)

/-- Where nothing is, there is an empty directory afterwards, if there is anything. -/
theorem at?_of_none (h : Makes places fs fs') (hplaces : ∀ p ∈ places, l <+: p → p = l)
    (hnone : fs.at? l = none) : fs'.at? l = none ∨ fs'.at? l = some (.dir []) := by
  induction h with
  | refl fs => exact .inl hnone
  | @step fs fs' loc hmem hroom _ hrest ih =>
    by_cases heq : loc = l
    · subst heq
      exact .inr (hrest.at?_eq hplaces (at?_place_self hroom))
    · refine ih ?_
      by_cases hbelow : loc <+: l
      · obtain ⟨rest, rfl⟩ := hbelow
        have hne : rest ≠ [] := fun hnil => heq (by simp [hnil])
        obtain ⟨name, rest, rfl⟩ := List.exists_cons_of_ne_nil hne
        rw [← nodeAt?_eq_none_iff, nodeAt?_place_self hroom]
        rfl
      · rw [at?_place_of_apart hbelow fun hbefore => heq (hplaces loc hmem hbefore), hnone]

end Makes

/-- A path that leads to a directory passes directories only. -/
theorem stops_of_reaches (h : fs.Reaches path) (hdir : fs.nodeAt? (location path) = some .dir) :
    ∀ l ∈ stops [] (segments path), fs.nodeAt? l = some .dir := by
  rcases List.eq_nil_or_concat (segments path) with hnil | ⟨names, last, hnames⟩
  · simp [hnil, stops]
  · rw [List.concat_eq_append] at hnames
    intro l hl
    rw [hnames, stops_append, List.mem_append] at hl
    rcases hl with hl | hl
    · exact h l (by simpa [hnames] using hl)
    · rw [stops, stops, List.mem_singleton] at hl
      rwa [hl, ← location_of_segments hnames]

theorem reaches_of_stops (h : ∀ l ∈ stops [] (segments path), fs.nodeAt? l = some .dir) :
    fs.Reaches path := by
  rcases List.eq_nil_or_concat (segments path) with hnil | ⟨names, last, hnames⟩
  · simp [Reaches, hnil, stops]
  · rw [List.concat_eq_append] at hnames
    intro l hl
    refine h l ?_
    rw [hnames, List.dropLast_concat] at hl
    rw [hnames, stops_append]
    exact List.mem_append_left _ hl

theorem location_mem_stops (h : segments path ≠ []) : location path ∈ stops [] (segments path) := by
  obtain ⟨names, last, hnames⟩ := List.eq_nil_or_concat (segments path) |>.resolve_left h
  rw [List.concat_eq_append] at hnames
  rw [location_of_segments hnames, hnames, stops_append]
  simp [stops]

theorem makeDir_eq_ok (h : fs.makeDir path = .ok fs') :
    Makes (stops [] (segments path)) fs fs' ∧ IsValid path ∧ fs'.Reaches path ∧
      fs'.nodeAt? (location path) = some .dir := by
  obtain ⟨hvalid, hreaches, hnone, rfl⟩ := makeDir_eq_ok_iff.1 h
  have hroom : fs.HasRoom (location path) := by
    rcases hreaches.cases with ⟨-, -, -, -, hroom⟩ | ⟨-, hdir⟩
    · exact hroom
    · simp [hdir] at hnone
  have hne : segments path ≠ [] := by
    intro hnil
    simp [location, hnil] at hnone
  have hmakes : Makes (stops [] (segments path)) fs (fs.place (location path) (some (.dir []))) :=
    .one (location_mem_stops hne) hroom hnone
  refine ⟨hmakes, hvalid, fun l hl => hmakes.nodeAt?_eq (hreaches l hl), ?_⟩
  exact nodeAt?_dir_iff.2 ⟨[], at?_place_self hroom⟩

theorem makeDir_eq_error {e : PathFault} (h : fs.makeDir path = .error e) :
    fs.resolve path = .error e ∨
      e = .blocked ∧ IsValid path ∧ fs.Reaches path ∧ fs.nodeAt? (location path) ≠ none := by
  cases fs.arrival path with
  | fault hresolve _ =>
    simp only [makeDir, hresolve, Except.error.injEq] at h
    exact .inl (h ▸ hresolve)
  | entry hresolve hvalid hreaches _ _ =>
    refine .inr ⟨?_, hvalid, hreaches, fun hnone => ?_⟩
    · simp only [makeDir, hresolve] at h
      split at h
      · exact (Except.error.inj h).symm
      · cases h
    · rw [makeDir_eq_ok_iff.2 ⟨hvalid, hreaches, hnone, rfl⟩] at h
      cases h
  | directory hresolve hvalid hreaches hdir =>
    simp only [makeDir, hresolve] at h
    exact .inr ⟨(Except.error.inj h).symm, hvalid, hreaches, by simp [hdir]⟩

/-- Making a directory unless there is one makes a directory that the path passes, at most, and then
the path leads to a directory. -/
theorem ensureDir?_eq_some (h : fs.ensureDir? path = some fs') :
    Makes (stops [] (segments path)) fs fs' ∧ IsValid path ∧ fs'.Reaches path ∧
      fs'.nodeAt? (location path) = some .dir := by
  rw [ensureDir?] at h
  split at h
  · next hmake =>
    cases h
    exact makeDir_eq_ok hmake
  · split at h
    · next hdir =>
      cases h
      exact ⟨.refl fs, isDir_iff.1 hdir⟩
    · simp at h

/-- Making a directory and those around it makes directories that the path passes; where it works,
the path leads to a directory. -/
theorem makes_makeDirsUpTo {levels : Nat} {worked : Bool}
    (h : makeDirsUpTo levels fs path = (fs', worked)) :
    Makes (stops [] (segments path)) fs fs' ∧ (worked = true → path ≠ "" →
      IsValid path ∧ fs'.Reaches path ∧ fs'.nodeAt? (location path) = some .dir) := by
  induction levels generalizing fs path fs' worked with
  | zero =>
    cases h
    exact ⟨.refl fs, by simp⟩
  | succ levels ih =>
    rw [makeDirsUpTo] at h
    split at h
    · next hempty =>
      cases h
      exact ⟨.refl fs, fun _ hne => absurd hempty hne⟩
    · split at h
      · next hmake =>
        cases h
        obtain ⟨hmakes, hdir⟩ := makeDir_eq_ok hmake
        exact ⟨hmakes, fun _ _ => hdir⟩
      · cases h
        exact ⟨.refl fs, fun hdir _ => isDir_iff.1 hdir⟩
      · split at h
        · cases h
          exact ⟨.refl fs, by simp⟩
        · next parent hparent =>
          split at h
          · next hrec =>
            cases h
            exact ⟨(ih hrec).1.mono (stops_parent?_subset hparent), by simp⟩
          · next around hrec =>
            have haround := (ih hrec).1.mono (stops_parent?_subset hparent)
            cases hensure : around.ensureDir? path with
            | none =>
              rw [hensure] at h
              cases h
              exact ⟨haround, by simp⟩
            | some made =>
              rw [hensure] at h
              cases h
              obtain ⟨hmakes, hdir⟩ := ensureDir?_eq_some hensure
              exact ⟨haround.trans hmakes, fun _ _ => hdir⟩

theorem makes_makeDirs {worked : Bool} (h : fs.makeDirs path = (fs', worked)) :
    Makes (stops [] (segments path)) fs fs' ∧ (worked = true → path ≠ "" →
      IsValid path ∧ fs'.Reaches path ∧ fs'.nodeAt? (location path) = some .dir) :=
  makes_makeDirsUpTo h

theorem stops_dropLast_subset (names : List String) :
    stops [] names.dropLast ⊆ stops [] names := by
  intro l hl
  rcases List.eq_nil_or_concat names with rfl | ⟨names, last, rfl⟩
  · exact hl
  · rw [List.concat_eq_append, List.dropLast_concat] at hl
    rw [List.concat_eq_append, stops_append]
    exact List.mem_append_left _ hl

/-- No file is where a path leads if none is at the places that it passes. -/
theorem nodeAt?_location_ne_file
    (hfiles : ∀ l ∈ stops [] (segments path), ∀ content, fs.nodeAt? l ≠ some (.file content))
    (content : ByteArray) : fs.nodeAt? (location path) ≠ some (.file content) := by
  by_cases hnil : segments path = []
  · simp [location, hnil]
  · exact hfiles _ (location_mem_stops hnil) content

/-- Where something is in the way of making a directory, and no file is, a directory is there. -/
theorem isDir_of_makeDir_eq_error {e : PathFault} (hmake : fs.makeDir path = .error e)
    (hvalid : IsValid path) (hreaches : fs.Reaches path)
    (hfile : ∀ content, fs.nodeAt? (location path) ≠ some (.file content)) :
    fs.isDir path = true := by
  rcases makeDir_eq_error hmake with herror | ⟨-, -, -, hsome⟩
  · exact absurd hreaches (not_reaches_of_resolve_eq_error herror hvalid)
  · obtain ⟨n, hnode⟩ := Option.ne_none_iff_exists'.1 hsome
    cases n with
    | file content => exact absurd hnode (hfile content)
    | dir => exact isDir_iff.2 ⟨hvalid, hreaches, hnode⟩

/-- A path that reaches its last name, where no file is, leads to a directory after an attempt to
make one. -/
theorem exists_ensureDir? (hvalid : IsValid path) (hreaches : fs.Reaches path)
    (hfile : ∀ content, fs.nodeAt? (location path) ≠ some (.file content)) :
    ∃ made, fs.ensureDir? path = some made := by
  rw [ensureDir?]
  cases hmake : fs.makeDir path with
  | ok made => exact ⟨made, rfl⟩
  | error e =>
    exact ⟨fs, if_pos (isDir_of_makeDir_eq_error hmake hvalid hreaches hfile)⟩

/-- No path is blocked where no file is on the way. -/
theorem reaches_of_blocked (hvalid : IsValid path)
    (hfiles : ∀ l ∈ stops [] (segments path), ∀ content, fs.nodeAt? l ≠ some (.file content))
    (hmake : fs.makeDir path = .error .blocked) : fs.Reaches path := by
  rcases makeDir_eq_error hmake with herror | ⟨-, -, hreaches, -⟩
  · obtain ⟨l, hl, content, hcontent⟩ := exists_stop_of_blocked hvalid herror
    exact absurd hcontent (hfiles l (stops_dropLast_subset _ hl) content)
  · exact hreaches

/-- Where something is missing on the way, there is a path around with fewer names. -/
theorem exists_parent_of_missing (hne : path ≠ "")
    (hlast : (segments path).getLast? = some "." → segments path = ["."])
    (h : fs.resolve path = .error .missing) : ∃ parent names last, parent? path = some parent ∧
      segments path = names ++ [last] ∧ last ≠ "." ∧
      segments parent = withoutPoints (isAbsolute path) names := by
  obtain ⟨l, hl, hnone⟩ := exists_stop_of_missing hne h
  obtain ⟨names, last, hnames⟩ : ∃ names last, segments path = names ++ [last] := by
    rcases List.eq_nil_or_concat (segments path) with hnil | ⟨names, last, hnames⟩
    · simp [hnil, stops] at hl
    · exact ⟨names, last, by rw [hnames, List.concat_eq_append]⟩
  have hpoint : last ≠ "." := by
    rintro rfl
    rw [hlast (by simp [hnames])] at hl
    simp [stops] at hl
  have hcomponents : components path = withoutPoints (isAbsolute path) names ++ [last] := by
    rw [components_eq, hnames, withoutPoints_append_singleton hpoint]
  obtain ⟨parent, hparent⟩ : ∃ parent, parent? path = some parent := by
    unfold parent?
    split
    · next hnil => simp [hcomponents] at hnil
    · exact ⟨_, rfl⟩
  refine ⟨parent, names, last, hparent, hnames, hpoint, ?_⟩
  rw [(segments_of_parent? hparent).2, hcomponents, List.dropLast_concat]

/-- A path reaches its last name when the one around it leads to a directory. -/
theorem reaches_of_parent {parent last : String} {names : List String}
    (hnames : segments path = names ++ [last])
    (hparent : segments parent = withoutPoints (isAbsolute path) names)
    (h : ∀ l ∈ stops [] (segments parent), fs.nodeAt? l = some .dir) : fs.Reaches path := by
  intro l hl
  rw [hnames, List.dropLast_concat] at hl
  rcases mem_stops_withoutPoints hl with rfl | hl
  · exact nodeAt?_nil
  · exact h l (hparent ▸ hl)

theorem components_length_le (path : String) :
    (components path).length ≤ (segments path).length := by
  rw [components_eq]
  exact (withoutPoints_sublist _ _).length_le

theorem components_length_lt {parent last : String} {names : List String}
    (hnames : segments path = names ++ [last]) (hpoint : last ≠ ".")
    (hparent : segments parent = withoutPoints (isAbsolute path) names) :
    (components parent).length < (components path).length := by
  have hlength := components_length_le parent
  rw [components_eq path, hnames, withoutPoints_append_singleton hpoint, List.length_append,
    ← hparent, List.length_singleton]
  omega

/-- Making a directory and those around it works unless a file is in the way. The path must not end
with a single point, which cannot be made. -/
theorem makeDirsUpTo_works {levels : Nat} (hlevels : (components path).length < levels)
    (hvalid : path = "" ∨ IsValid path)
    (hfiles : ∀ l ∈ stops [] (segments path), ∀ content, fs.nodeAt? l ≠ some (.file content))
    (hlast : (segments path).getLast? = some "." → segments path = ["."]) :
    (makeDirsUpTo levels fs path).2 = true := by
  induction levels generalizing path fs with
  | zero => simp at hlevels
  | succ levels ih =>
    rw [makeDirsUpTo]
    by_cases hempty : path = ""
    · rw [if_pos hempty]
    replace hvalid := hvalid.resolve_left hempty
    have hfile := nodeAt?_location_ne_file hfiles
    rw [if_neg hempty]
    cases hmake : fs.makeDir path with
    | ok made => rfl
    | error e =>
      cases e with
      | blocked =>
        exact isDir_of_makeDir_eq_error hmake hvalid (reaches_of_blocked hvalid hfiles hmake) hfile
      | missing =>
        obtain ⟨parent, names, last, hparent, hnames, hpoint, hsegments⟩ :=
          exists_parent_of_missing hempty hlast ((makeDir_eq_error hmake).resolve_right (by simp))
        have hshorter : (components parent).length < levels := by
          have hlt := components_length_lt hnames hpoint hsegments
          omega
        have hparentLast : (segments parent).getLast? = some "." → segments parent = ["."] := by
          rw [(segments_of_parent? hparent).2, components_eq]
          exact eq_singleton_of_getLast?_withoutPoints
        have hparentValid : parent = "" ∨ IsValid parent := by
          by_cases hne : parent = ""
          · exact .inl hne
          · exact .inr (hvalid.parent hparent hne)
        obtain ⟨around, worked, hrec⟩ : ∃ around worked,
            makeDirsUpTo levels fs parent = (around, worked) := ⟨_, _, rfl⟩
        have hworked := ih hshorter hparentValid
          (fun l hl => hfiles l (stops_parent?_subset hparent hl)) hparentLast
        rw [hrec] at hworked
        cases hworked
        -- The directories around are there now, so that only the last name is left to make.
        obtain ⟨hmakes, hdir⟩ := makes_makeDirsUpTo hrec
        have hstops : ∀ l ∈ stops [] (segments parent), around.nodeAt? l = some .dir := by
          by_cases hne : parent = ""
          · simp [hne, stops]
          · obtain ⟨-, hreaches, hnode⟩ := hdir rfl hne
            exact stops_of_reaches hreaches hnode
        obtain ⟨made, hmade⟩ := exists_ensureDir? hvalid (reaches_of_parent hnames hsegments hstops)
          fun content hcontent => hfile content (hmakes.file_of_file hcontent)
        simp only [hparent, hrec, hmade]

theorem makeDirs_works (hvalid : IsValid path)
    (hfiles : ∀ l ∈ stops [] (segments path), ∀ content, fs.nodeAt? l ≠ some (.file content))
    (hlast : (segments path).getLast? ≠ some ".") : (fs.makeDirs path).2 = true := by
  exact makeDirsUpTo_works (Nat.lt_succ_of_le (components_length_le path)) (.inr hvalid) hfiles
    fun h => absurd h hlast

/-! ## Removing directories -/

/-- Removing leaves no new files behind. -/
theorem file_of_file_removeDir {content : ByteArray}
    (h : (fs.removeDir path).1.nodeAt? l = some (.file content)) :
    fs.nodeAt? l = some (.file content) := by
  cases fs.arrival path with
  | @fault e hresolve _ => cases e <;> simpa [removeDir, hresolve] using h
  | entry hresolve _ _ hlocation hroom =>
    simp only [removeDir, hresolve] at h
    split at h
    · exact h
    · exact h
    · rw [hlocation] at hroom
      exact file_of_file_place hroom (by simp) h
  | directory hresolve _ _ hdir =>
    simp only [removeDir, hresolve] at h
    split at h
    · cases l <;> simp [empty, nodeAt?, FileTree.nodeAt?, root, FileTree.at?, node] at h
    · next hne =>
      have hroom : fs.HasRoom (location path) :=
        ⟨by simpa using hne, FileTree.nodeAt?_dropLast hdir⟩
      exact file_of_file_place hroom (by simp) h

/-- What removing does with a path whose last name is no direction: either nothing, or it takes away
the directory that the path leads to. -/
theorem removeDir_cases {worked : Bool} (hplain : EndsPlain path)
    (h : fs.removeDir path = (fs', worked)) :
    (fs' = fs ∧ (worked = true →
      fs.resolve path = .error .missing ∨ fs.at? (location path) = none)) ∨
    (worked = true ∧ IsValid path ∧ fs.Reaches path ∧ fs.HasRoom (location path) ∧
      fs.nodeAt? (location path) = some .dir ∧ fs' = fs.place (location path) none) := by
  unfold removeDir at h
  cases hresolve : fs.resolve path with
  | error e =>
    rw [hresolve] at h
    cases e <;> cases h <;> simp
  | ok t =>
    obtain ⟨hvalid, hreaches, rfl⟩ := resolve_eq_ok_iff.1 hresolve
    obtain ⟨parent, name, htarget, hlocation⟩ := hplain.target_eq
    rw [hresolve, htarget] at h
    rw [hlocation]
    dsimp only at h
    cases hn : fs.at? (parent ++ [name]) with
    | none =>
      rw [hn] at h
      cases h
      exact .inl ⟨rfl, fun _ => .inr rfl⟩
    | some n =>
      rw [hn] at h
      cases n with
      | file content =>
        cases h
        exact .inl ⟨rfl, by simp⟩
      | dir entries =>
        cases h
        have hdir := nodeAt?_dir_iff.2 ⟨entries, hn⟩
        have hroom : fs.HasRoom (parent ++ [name]) := ⟨by simp, FileTree.nodeAt?_dropLast hdir⟩
        exact .inr ⟨rfl, hvalid, hreaches, hroom, hdir, rfl⟩

theorem removeDir_eq (hplain : EndsPlain path) (hvalid : IsValid path) (hreaches : fs.Reaches path)
    (hdir : fs.nodeAt? (location path) = some .dir) :
    fs.HasRoom (location path) ∧ fs.removeDir path = (fs.place (location path) none, true) := by
  obtain ⟨entries, hentries⟩ := nodeAt?_dir_iff.1 hdir
  obtain ⟨parent, name, htarget, hlocation⟩ := hplain.target_eq
  rw [hlocation] at hdir hentries ⊢
  refine ⟨⟨by simp, FileTree.nodeAt?_dropLast hdir⟩, ?_⟩
  simp only [removeDir, resolve_eq_ok_iff.2 ⟨hvalid, hreaches, rfl⟩, htarget, hentries]

end FileSystem

end Intake
