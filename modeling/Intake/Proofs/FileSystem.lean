import Intake.FileSystem
import Intake.Proofs.FileTree
import Intake.Proofs.Path

/-!
# What the operations on files do

A path leads to the place that its names say, provided that it is valid and that there are
directories on the way (`FileSystem.resolve_eq_ok_iff`). An operation that works changes the tree at
that place: writing puts a file there (`FileSystem.writeFile?_eq_some`), removing takes away what is
there (`FileSystem.removeDir_cases`), and making directories adds empty ones at places that the path
passes and where there was nothing (`FileSystem.makes_makeDirs`). It succeeds unless a file is in
the way (`FileSystem.makeDirs_works`).
-/

namespace Intake

open Intake.Path FileTree

/-! ## Targets of paths -/

/-- A name that says where to go, and not what is there. -/
def Path.IsDirection (name : String) : Prop := name = "." ∨ name = ".."

instance (name : String) : Decidable (IsDirection name) :=
  inferInstanceAs (Decidable (name = "." ∨ name = ".."))

/-- What names lead to from a place. -/
def Path.targetFrom (withSlash : Bool) (loc : Location) : List String → Target
  | [] => .directory loc
  | [name] =>
    if IsDirection name then .directory (step loc name) else .entry loc name withSlash
  | name :: next :: rest => targetFrom withSlash (step loc name) (next :: rest)

/-- What a path leads to. -/
def Path.target (path : String) : Target := targetFrom (endsWithSlash path) [] (segments path)

/-- A path that may lead somewhere. -/
structure Path.IsValid (path : String) : Prop where
  ne_empty : path ≠ ""
  size : path.utf8ByteSize < FileSystem.maxPathSize
  no_null : '\x00' ∉ path.toList
  names : ∀ name ∈ segments path,
    IsDirection name ∨ name.utf8ByteSize ≤ FileSystem.maxNameSize

theorem Path.IsPlain.not_isDirection {name : String} (h : IsPlain name) : ¬ IsDirection name :=
  not_or.2 ⟨h.ne_point, h.ne_points⟩

/-- A path whose last name is no direction. -/
def Path.EndsPlain (path : String) : Prop :=
  ∃ names last, segments path = names ++ [last] ∧ IsPlain last

/-- The place of a target. -/
def Target.location : Target → Location
  | .directory loc => loc
  | .entry parent name _ => parent ++ [name]

namespace Path

variable {s : Bool} {loc : Location} {names : List String} {last : String}

theorem targetFrom_append_singleton : targetFrom s loc (names ++ [last]) =
    if IsDirection last then .directory (step (walk loc names) last)
    else .entry (walk loc names) last s := by
  induction names generalizing loc with
  | nil => rfl
  | cons name names ih =>
    obtain ⟨next, rest, hrest⟩ : ∃ next rest, names ++ [last] = next :: rest :=
      List.exists_cons_of_ne_nil (by simp)
    rw [List.cons_append, hrest, targetFrom, ← hrest, ih]
    rfl

theorem step_of_not_isDirection (h : ¬ IsDirection last) : step loc last = loc ++ [last] := by
  rw [IsDirection, not_or] at h
  rw [step, if_neg h.1, if_neg h.2]

theorem location_targetFrom : (targetFrom s loc names).location = walk loc names := by
  rcases List.eq_nil_or_concat names with rfl | ⟨names, last, rfl⟩
  · rfl
  · rw [List.concat_eq_append, targetFrom_append_singleton, walk_append]
    split
    · rfl
    · next h => rw [Target.location, walk_cons, step_of_not_isDirection h, walk_nil]

theorem location_of_segments {path : String} (h : segments path = names ++ [last]) :
    location path = step (walk [] names) last := by
  rw [location, h, walk_append]
  rfl

theorem EndsPlain.target_eq {path : String} (h : EndsPlain path) : ∃ parent name,
    target path = .entry parent name (endsWithSlash path) ∧ location path = parent ++ [name] := by
  obtain ⟨names, last, hnames, hlast⟩ := h
  refine ⟨walk [] names, last, ?_, ?_⟩
  · rw [target, hnames, targetFrom_append_singleton, if_neg hlast.not_isDirection]
  · rw [location_of_segments hnames, hlast.step_eq]

theorem EndsPlain.ne_empty {path : String} (h : EndsPlain path) : path ≠ "" := by
  rintro rfl
  obtain ⟨names, last, hnames, -⟩ := h
  simp at hnames

theorem location_target (path : String) : (target path).location = location path :=
  location_targetFrom

theorem IsValid.parent {path dir : String} (h : IsValid path) (hdir : parent? path = some dir)
    (hne : dir ≠ "") : IsValid dir where
  ne_empty := hne
  size := Nat.lt_of_le_of_lt (utf8ByteSize_parent?_le hdir) h.size
  no_null hnull := h.no_null ((toList_parent?_sublist hdir).subset hnull)
  names name hname := by
    rw [(segments_of_parent? hdir).2, components_eq] at hname
    exact h.names name ((withoutPoints_sublist _ _).subset ((List.dropLast_sublist _).subset hname))

end Path

namespace FileSystem

variable {fs fs' : FileSystem} {loc l : Location} {n? : Option FileTree} {path : String}

/-! ## Looking and placing -/

/-- What there is at a location, without what is in it. -/
def nodeAt? (fs : FileSystem) (loc : Location) : Option Node := fs.root.nodeAt? loc

/-- A location in a directory that is there. -/
structure HasRoom (fs : FileSystem) (loc : Location) : Prop where
  ne_nil : loc ≠ []
  parent : fs.nodeAt? loc.dropLast = some .dir

theorem root_place : (fs.place loc n?).root = FileTree.place n? fs.root loc := by
  unfold place root
  cases loc with
  | nil => rfl
  | cons name loc => cases loc <;> rfl

@[simp] theorem nodeAt?_nil : fs.nodeAt? [] = some .dir := rfl

theorem nodeAt?_dir_iff :
    fs.nodeAt? loc = some .dir ↔ ∃ entries, fs.at? loc = some (.dir entries) :=
  FileTree.nodeAt?_dir_iff

theorem nodeAt?_file_iff {content : ByteArray} :
    fs.nodeAt? loc = some (.file content) ↔ fs.at? loc = some (.file content) :=
  FileTree.nodeAt?_file_iff

theorem nodeAt?_eq_none_iff : fs.nodeAt? loc = none ↔ fs.at? loc = none :=
  FileTree.nodeAt?_eq_none_iff

theorem isDir_at?_iff : (fs.at? loc).any FileTree.isDir = true ↔ fs.nodeAt? loc = some .dir := by
  rw [nodeAt?_dir_iff]
  cases fs.at? loc with
  | none => simp
  | some n => cases n <;> simp [FileTree.isDir]

theorem HasRoom.concat {parent : Location} (name : String) (h : fs.nodeAt? parent = some .dir) :
    fs.HasRoom (parent ++ [name]) :=
  ⟨by simp, by rwa [List.dropLast_concat]⟩

theorem at?_place_self (h : fs.HasRoom loc) : (fs.place loc n?).at? loc = n? := by
  obtain ⟨entries, hparent⟩ := nodeAt?_dir_iff.1 h.parent
  rw [at?, root_place, ← List.dropLast_append_getLast h.ne_nil]
  exact FileTree.at?_place_self hparent

theorem at?_place_of_apart (h : ¬ loc <+: l) (h' : ¬ l <+: loc) :
    (fs.place loc n?).at? l = fs.at? l := by
  rw [at?, root_place]
  exact FileTree.at?_place_of_apart h h'

/-- The directory around the location has its entry changed. -/
theorem at?_place_parent {entries : List (String × FileTree)} {name : String}
    (h : fs.at? loc = some (.dir entries)) :
    (fs.place (loc ++ [name]) n?).at? loc = some (.dir (setEntry name n? entries)) := by
  rw [at?, root_place, FileTree.at?_place_append (by simp)]
  exact congrArg (Option.map _) h

theorem nodeAt?_place (h : ¬ loc <+: l) : (fs.place loc n?).nodeAt? l = fs.nodeAt? l := by
  rw [nodeAt?, root_place]
  exact FileTree.nodeAt?_place h

theorem nodeAt?_place_self (h : fs.HasRoom loc) (rest : Location) :
    (fs.place loc n?).nodeAt? (loc ++ rest) = n?.bind fun n => n.nodeAt? rest := by
  rw [nodeAt?, root_place, ← List.dropLast_append_getLast h.ne_nil]
  exact FileTree.nodeAt?_place_self h.parent

/-- What is below a location is in a directory there. -/
theorem nodeAt?_dir_of_below (h : l <+: loc) (hne : l ≠ loc) (hloc : (fs.nodeAt? loc).isSome) :
    fs.nodeAt? l = some .dir := by
  obtain ⟨rest, rfl⟩ := h
  exact FileTree.nodeAt?_dir_of_append (by simpa using hne) hloc

theorem nodeAt?_append_of_none (h : fs.nodeAt? loc = none) (rest : Location) :
    fs.nodeAt? (loc ++ rest) = none := by
  rw [nodeAt?_eq_none_iff] at h ⊢
  have happend := FileTree.at?_append fs.root loc rest
  rw [at?] at h ⊢
  rw [happend, h]
  rfl

/-- Putting a directory or nothing in a place makes no new files there. -/
theorem file_of_file_place {content : ByteArray} (h : fs.HasRoom loc)
    (hn? : n? = none ∨ n? = some (.dir []))
    (hfile : (fs.place loc n?).nodeAt? l = some (.file content)) :
    fs.nodeAt? l = some (.file content) := by
  by_cases hbelow : loc <+: l
  · obtain ⟨rest, rfl⟩ := hbelow
    rw [nodeAt?_place_self h] at hfile
    rcases hn? with rfl | rfl
    · simp at hfile
    · cases rest <;> simp [FileTree.nodeAt?, FileTree.at?, node] at hfile
  · rwa [nodeAt?_place hbelow] at hfile

/-! ## Following paths -/

/-- There are directories all the way to the last name of a path. -/
def Reaches (fs : FileSystem) (path : String) : Prop :=
  ∀ l ∈ stops [] (segments path).dropLast, fs.nodeAt? l = some .dir

theorem nodeAt?_step {name : String} (h : fs.nodeAt? loc = some .dir) (hname : IsDirection name) :
    fs.nodeAt? (step loc name) = some .dir := by
  rcases hname with rfl | rfl
  · exact h
  · exact FileTree.nodeAt?_dropLast h

theorem follow_cons_direction {s : Bool} {name : String} {rest : List String}
    (h : IsDirection name) : fs.follow s loc (name :: rest) = fs.follow s (step loc name) rest := by
  rcases h with rfl | rfl <;> simp [follow, step]

theorem follow_cons_plain {s : Bool} {name next : String} {rest : List String}
    (h : ¬ IsDirection name) (hsize : name.utf8ByteSize ≤ maxNameSize) :
    fs.follow s loc (name :: next :: rest) =
      match fs.nodeAt? (step loc name) with
      | some .dir => fs.follow s (step loc name) (next :: rest)
      | some (.file _) => .error .blocked
      | none => .error .missing := by
  have hsize : ¬ maxNameSize < name.utf8ByteSize := Nat.not_lt.2 hsize
  rw [step_of_not_isDirection h]
  rw [IsDirection, not_or] at h
  rw [follow, if_neg h.1, if_neg h.2, if_neg hsize, if_neg (by simp), nodeAt?, FileTree.nodeAt?]
  change _ = match (fs.at? (loc ++ [name])).map node with
    | some .dir => _ | some (.file _) => _ | none => _
  cases fs.at? (loc ++ [name]) with
  | none => rfl
  | some n => cases n <;> rfl

/-- Names are followed to their end exactly when none of them is too long and there are directories
on the way. -/
theorem follow_eq_ok_iff {s : Bool} {names : List String} {t : Target}
    (hloc : fs.nodeAt? loc = some .dir) : fs.follow s loc names = .ok t ↔
      (∀ name ∈ names, IsDirection name ∨ name.utf8ByteSize ≤ maxNameSize) ∧
      (∀ l ∈ stops loc names.dropLast, fs.nodeAt? l = some .dir) ∧ t = targetFrom s loc names := by
  induction names generalizing loc with
  | nil => simp [follow, targetFrom, stops, eq_comm]
  | cons name rest ih =>
    cases rest with
    | nil =>
      by_cases hname : IsDirection name
      · rw [follow_cons_direction hname]
        simp [follow, targetFrom, hname, stops, eq_comm]
      · have hpoints := hname
        rw [IsDirection, not_or] at hpoints
        by_cases hsize : name.utf8ByteSize ≤ maxNameSize
        · simp [follow, targetFrom, hname, hpoints, stops, Nat.not_lt.2 hsize, hsize, eq_comm]
        · simp [follow, hname, hpoints, Nat.not_le.1 hsize, hsize]
    | cons next rest =>
      rw [List.forall_mem_cons, List.dropLast_cons_of_ne_nil (by simp), stops,
        List.forall_mem_cons, targetFrom]
      by_cases hname : IsDirection name
      · have hstep := nodeAt?_step hloc hname
        rw [follow_cons_direction hname, ih hstep]
        simp [hname, hstep]
      · by_cases hsize : name.utf8ByteSize ≤ maxNameSize
        · rw [follow_cons_plain hname hsize]
          cases hnode : fs.nodeAt? (step loc name) with
          | none => simp [hnode]
          | some n =>
            cases n with
            | file content => simp [hnode]
            | dir => simpa [hsize, hnode] using ih hnode
        · have hpoints := hname
          rw [IsDirection, not_or] at hpoints
          simp [follow, hname, hpoints, Nat.not_le.1 hsize, hsize]

/-- Where names are not followed to their end, something else than a directory is on the way, unless
a name is too long. -/
theorem exists_stop_of_follow_eq_error {s : Bool} {names : List String} {e : PathFault}
    (hvalid : e = .blocked → ∀ name ∈ names, IsDirection name ∨ name.utf8ByteSize ≤ maxNameSize)
    (h : fs.follow s loc names = .error e) : ∃ l ∈ stops loc names.dropLast,
      (e = .missing ∧ fs.nodeAt? l = none) ∨
      (e = .blocked ∧ ∃ content, fs.nodeAt? l = some (.file content)) := by
  induction names generalizing loc with
  | nil => simp [follow] at h
  | cons name rest ih =>
    have hrest := fun he => (List.forall_mem_cons.1 (hvalid he)).2
    by_cases hdirection : IsDirection name
    · rw [follow_cons_direction hdirection] at h
      obtain ⟨l, hl, hcase⟩ := ih hrest h
      cases rest with
      | nil => simp [stops] at hl
      | cons next rest => exact ⟨l, List.mem_cons_of_mem _ hl, hcase⟩
    · have hpoints := hdirection
      rw [IsDirection, not_or] at hpoints
      by_cases hsize : name.utf8ByteSize ≤ maxNameSize
      · cases rest with
        | nil => simp [follow, hpoints, Nat.not_lt.2 hsize] at h
        | cons next rest =>
          rw [follow_cons_plain hdirection hsize] at h
          rw [List.dropLast_cons_of_ne_nil (by simp), stops]
          split at h
          · obtain ⟨l, hl, hcase⟩ := ih hrest h
            exact ⟨l, List.mem_cons_of_mem _ hl, hcase⟩
          · next content hnode =>
            cases h
            exact ⟨_, List.mem_cons_self, .inr ⟨rfl, content, hnode⟩⟩
          · next hnode =>
            cases h
            exact ⟨_, List.mem_cons_self, .inl ⟨rfl, hnode⟩⟩
      · simp only [follow, hpoints, Nat.not_le.1 hsize, if_true, if_false] at h
        cases h
        exact absurd (((List.forall_mem_cons.1 (hvalid rfl)).1).resolve_left hdirection) hsize

theorem resolve_of_isValid (h : IsValid path) :
    fs.resolve path = fs.follow (endsWithSlash path) [] (segments path) := by
  have hsize : ¬ maxPathSize ≤ path.utf8ByteSize := Nat.not_le.2 h.size
  rw [resolve, if_neg h.ne_empty, if_neg (by simp [hsize, h.no_null])]

/-- A path leads to its target exactly when it is valid and there are directories on the way. -/
theorem resolve_eq_ok_iff {t : Target} :
    fs.resolve path = .ok t ↔ IsValid path ∧ fs.Reaches path ∧ t = target path := by
  constructor
  · intro h
    have hresolve := h
    unfold resolve at h
    split at h
    · simp at h
    · next hempty =>
      split at h
      · simp at h
      · next hsize =>
        simp only [Bool.or_eq_true, decide_eq_true_eq, not_or, Nat.not_le, List.contains_iff_mem]
          at hsize
        obtain ⟨hnames, hstops, ht⟩ := (follow_eq_ok_iff nodeAt?_nil).1 h
        exact ⟨⟨hempty, hsize.1, hsize.2, hnames⟩, hstops, ht⟩
  · rintro ⟨hvalid, hstops, rfl⟩
    rw [resolve_of_isValid hvalid, follow_eq_ok_iff nodeAt?_nil]
    exact ⟨hvalid.names, hstops, rfl⟩

theorem not_reaches_of_resolve_eq_error {e : PathFault} (h : fs.resolve path = .error e)
    (hvalid : IsValid path) : ¬ fs.Reaches path := by
  intro hreaches
  rw [resolve_eq_ok_iff.2 ⟨hvalid, hreaches, rfl⟩] at h
  simp at h

/-- Where something is missing, it is a directory on the way. -/
theorem exists_stop_of_missing (hne : path ≠ "") (h : fs.resolve path = .error .missing) :
    ∃ l ∈ stops [] (segments path).dropLast, fs.nodeAt? l = none := by
  rw [resolve, if_neg hne] at h
  split at h
  · simp at h
  · obtain ⟨l, hl, ⟨-, hnone⟩ | ⟨hblocked, -⟩⟩ := exists_stop_of_follow_eq_error (by simp) h
    · exact ⟨l, hl, hnone⟩
    · simp at hblocked

/-- Where a valid path is blocked, it is by a file on the way. -/
theorem exists_stop_of_blocked (hvalid : IsValid path) (h : fs.resolve path = .error .blocked) :
    ∃ l ∈ stops [] (segments path).dropLast, ∃ content, fs.nodeAt? l = some (.file content) := by
  rw [resolve_of_isValid hvalid] at h
  obtain ⟨l, hl, ⟨hmissing, -⟩ | ⟨-, hfile⟩⟩ :=
    exists_stop_of_follow_eq_error (fun _ => hvalid.names) h
  · simp at hmissing
  · exact ⟨l, hl, hfile⟩

/-- The last directory on the way to a path. -/
theorem nodeAt?_walk_of_stops {names : List String} (hloc : fs.nodeAt? loc = some .dir)
    (h : ∀ l ∈ stops loc names, fs.nodeAt? l = some .dir) :
    fs.nodeAt? (walk loc names) = some .dir := by
  induction names generalizing loc with
  | nil => exact hloc
  | cons name names ih =>
    rw [stops, List.forall_mem_cons] at h
    exact ih h.1 h.2

/-- A path leads to a name in a directory, or to a directory itself. -/
theorem Reaches.cases (h : fs.Reaches path) :
    (∃ parent name, target path = .entry parent name (endsWithSlash path) ∧
      location path = parent ++ [name] ∧ fs.HasRoom (location path)) ∨
    (target path = .directory (location path) ∧ fs.nodeAt? (location path) = some .dir) := by
  rcases List.eq_nil_or_concat (segments path) with hnil | ⟨names, last, hnames⟩
  · refine .inr ⟨?_, ?_⟩ <;> simp [target, targetFrom, location, hnil]
  · rw [List.concat_eq_append] at hnames
    have hparent : fs.nodeAt? (walk [] names) = some .dir :=
      nodeAt?_walk_of_stops nodeAt?_nil (by simpa [Reaches, hnames] using h)
    have hlocation := location_of_segments hnames
    by_cases hlast : IsDirection last
    · refine .inr ⟨?_, ?_⟩
      · rw [target, hnames, targetFrom_append_singleton, if_pos hlast, hlocation]
      · rw [hlocation]
        exact nodeAt?_step hparent hlast
    · rw [step_of_not_isDirection hlast] at hlocation
      refine .inl ⟨walk [] names, last, ?_, hlocation, ?_⟩
      · rw [target, hnames, targetFrom_append_singleton, if_neg hlast]
      · rw [hlocation]
        exact .concat last hparent

/-- Without double points there are directories all the way to something that is there. -/
theorem reaches_of_isSome (hplain : EndsPlain path) (h : ∀ name ∈ segments path, name ≠ "..")
    (hsome : (fs.nodeAt? (location path)).isSome) : fs.Reaches path := by
  intro l hl
  obtain ⟨names, last, hnames, hlast⟩ := hplain
  have hlocation : location path = walk [] names ++ [last] := by
    rw [location_of_segments hnames, hlast.step_eq]
  rw [hnames, List.dropLast_concat] at hl
  have hbefore : l <+: walk [] names :=
    prefix_walk_of_mem_stops (fun name hname => h name (by simp [hnames, hname])) hl
  rw [hlocation] at hsome
  refine nodeAt?_dir_of_below (hbefore.trans (List.prefix_append _ _)) ?_ hsome
  rintro rfl
  have hlength := hbefore.length_le
  simp at hlength

/-- What following a path comes to: a fault, a name in a directory, or a directory itself. -/
inductive Arrival (fs : FileSystem) (path : String) : Prop
  | fault {e : PathFault} (hresolve : fs.resolve path = .error e)
    (hnot : ¬ (IsValid path ∧ fs.Reaches path)) : Arrival fs path
  | entry {parent : Location} {name : String}
    (hresolve : fs.resolve path = .ok (.entry parent name (endsWithSlash path)))
    (hvalid : IsValid path) (hreaches : fs.Reaches path)
    (hlocation : location path = parent ++ [name]) (hroom : fs.HasRoom (location path)) :
    Arrival fs path
  | directory (hresolve : fs.resolve path = .ok (.directory (location path)))
    (hvalid : IsValid path) (hreaches : fs.Reaches path)
    (hdir : fs.nodeAt? (location path) = some .dir) : Arrival fs path

/-- Operations on what is at a path follow the path first, with one of these outcomes. -/
theorem arrival (fs : FileSystem) (path : String) : fs.Arrival path := by
  cases hresolve : fs.resolve path with
  | error e =>
    exact .fault hresolve fun h => not_reaches_of_resolve_eq_error hresolve h.1 h.2
  | ok t =>
    obtain ⟨hvalid, hreaches, rfl⟩ := resolve_eq_ok_iff.1 hresolve
    rcases hreaches.cases with ⟨parent, name, htarget, hlocation, hroom⟩ | ⟨htarget, hdir⟩
    · rw [htarget] at hresolve
      exact .entry hresolve hvalid hreaches hlocation hroom
    · rw [htarget] at hresolve
      exact .directory hresolve hvalid hreaches hdir

/-! ## Reading and writing files -/

/-- A file is read where a path without a slash at its end leads to one. -/
theorem readFile_eq_bytes_iff {content : ByteArray} : fs.readFile path = .bytes content ↔
    IsValid path ∧ fs.Reaches path ∧ endsWithSlash path = false ∧
      fs.nodeAt? (location path) = some (.file content) := by
  cases fs.arrival path with
  | fault hresolve hnot =>
    exact iff_of_false (by simp [readFile, hresolve]) fun h => hnot ⟨h.1, h.2.1⟩
  | @entry parent name hresolve hvalid hreaches hlocation _ =>
    rw [readFile, hresolve, nodeAt?_file_iff, hlocation]
    cases hn : fs.at? (parent ++ [name]) with
    | none => simp [hn]
    | some n =>
      cases n with
      | dir entries => simp [hn]
      | file c => cases endsWithSlash path <;> simp [hvalid, hreaches, hn]
  | directory hresolve _ _ hdir => simp [readFile, hresolve, hdir]

/-- A file is written where a path without a slash at its end leads, unless to a directory. -/
theorem writeFile?_eq_some_iff {content : ByteArray} : fs.writeFile? path content = some fs' ↔
    IsValid path ∧ fs.Reaches path ∧ endsWithSlash path = false ∧
      fs.nodeAt? (location path) ≠ some .dir ∧
      fs' = fs.place (location path) (some (.file content)) := by
  cases fs.arrival path with
  | fault hresolve hnot =>
    exact iff_of_false (by simp [writeFile?, hresolve]) fun h => hnot ⟨h.1, h.2.1⟩
  | entry hresolve hvalid hreaches hlocation _ =>
    rw [ne_eq, ← isDir_at?_iff, writeFile?, hresolve, hlocation]
    cases endsWithSlash path with
    | false => simp [hvalid, hreaches, @eq_comm _ fs']
    | true => simp
  | directory hresolve _ _ hdir => simp [writeFile?, hresolve, hdir]

theorem writeFile?_isSome (content : ByteArray) (hvalid : IsValid path)
    (hslash : endsWithSlash path = false) (hreaches : fs.Reaches path)
    (hdir : fs.nodeAt? (location path) ≠ some .dir) : (fs.writeFile? path content).isSome := by
  rw [writeFile?_eq_some_iff.2 ⟨hvalid, hreaches, hslash, hdir, rfl⟩]
  rfl

/-- Files are written in directories that are there. -/
theorem hasRoom_of_writeFile?_eq_some {content : ByteArray}
    (h : fs.writeFile? path content = some fs') : fs.HasRoom (location path) := by
  obtain ⟨-, hreaches, -, hdir, -⟩ := writeFile?_eq_some_iff.1 h
  rcases hreaches.cases with ⟨-, -, -, -, hroom⟩ | ⟨-, hdir'⟩
  · exact hroom
  · exact absurd hdir' hdir

/-- Writing a file changes nothing but that file. -/
theorem nodeAt?_writeFile? {content : ByteArray} {n : Node}
    (h : fs.writeFile? path content = some fs') (hn : fs.nodeAt? l = some n)
    (hne : location path ≠ l ∨ n = .dir) : fs'.nodeAt? l = some n := by
  obtain ⟨-, -, -, hdir, rfl⟩ := writeFile?_eq_some_iff.1 h
  rw [nodeAt?_place, hn]
  intro hbelow
  by_cases heq : location path = l
  · subst heq
    rw [hne.resolve_left (by simp)] at hn
    exact hdir hn
  · exact hdir (nodeAt?_dir_of_below hbelow heq (by simp [hn]))

/-- A file that has been written is read. -/
theorem readFile_writeFile? {content : ByteArray} (h : fs.writeFile? path content = some fs') :
    fs'.readFile path = .bytes content := by
  have hroom := hasRoom_of_writeFile?_eq_some h
  obtain ⟨hvalid, hreaches, hslash, -, hplace⟩ := writeFile?_eq_some_iff.1 h
  refine readFile_eq_bytes_iff.2 ⟨hvalid, fun l hl => ?_, hslash, ?_⟩
  · exact nodeAt?_writeFile? h (hreaches l hl) (.inr rfl)
  · rw [hplace, nodeAt?_file_iff]
    exact at?_place_self hroom

end FileSystem

end Intake
