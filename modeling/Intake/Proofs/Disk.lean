import Intake.Proofs.Directories
import Intake.Proofs.Run

/-!
# Runs on disks

A file is cut short where the disk has no room for all of it (`Disk.writeFile_cases`), and the run
ends there. What each operation on files keeps is kept by all that is made of them, whatever comes
of it (`Action.Keeps`, `Action.keeps_compileMapping`). A disk that has room for every file is a tree
of files: a run on it comes to the same (`Action.Follows`, `Action.follows_compileMapping`).
-/

namespace Intake

open FileStore

variable {σ α β : Type} {path flow out dir : String} {content : ByteArray} {config : Config}
  {workbook : Option String} {m : Mapping} {kind : SourceKind} {tables : List Table}

/-! ## Writing to disks -/

/-- A file that cannot be opened is left alone. One that is opened is cut short, or it is written
whole. -/
theorem Disk.writeFile_cases (d : Disk) (path : String) (content : ByteArray) :
    d.writeFile path content = (d, false) ∨
    (∃ size files, size < content.size ∧
      d.files.writeFile? path (content.extract 0 size) = some files ∧
      d.writeFile path content = ({ d with files, opened := d.opened ++ [path] }, false)) ∨
    ∃ files, d.files.writeFile? path content = some files ∧
      d.writeFile path content = ({ d with files, opened := d.opened ++ [path] }, true) := by
  unfold writeFile FileSystem.writeUpTo?
  cases hroom : d.room[d.opened.length]?.filter (· < content.size) with
  | none =>
    cases hwrite : d.files.writeFile? path content with
    | none => exact .inl rfl
    | some files => exact .inr (.inr ⟨files, rfl, rfl⟩)
  | some size =>
    obtain ⟨-, hsize⟩ := Option.filter_eq_some_iff.1 hroom
    cases hwrite : d.files.writeFile? path (content.extract 0 size) with
    | none => exact .inl (by simp [hwrite])
    | some files =>
      refine .inr (.inl ⟨size, files, of_decide_eq_true hsize, hwrite, ?_⟩)
      simp [hwrite]

namespace Action

@[simp] theorem on_readFile_disk (d : Disk) :
    (readFile path : Action OnDisk FileContent).on d = (.ok (d.files.readFile path), d) := rfl

@[simp] theorem on_writeFile_disk (d : Disk) : (writeFile path content : Action OnDisk Bool).on d =
    (.ok (d.writeFile path content).2, (d.writeFile path content).1) := rfl

@[simp] theorem on_makeDirs_disk (d : Disk) : (makeDirs path : Action OnDisk Bool).on d =
    (.ok (d.files.makeDirs path).2, { d with files := (d.files.makeDirs path).1 }) := rfl

@[simp] theorem on_removeDir_disk (d : Disk) : (removeDir path : Action OnDisk Bool).on d =
    (.ok (d.files.removeDir path).2, { d with files := (d.files.removeDir path).1 }) := rfl

/-! ## What runs keep -/

/-- A property of the state that an action keeps, whatever comes of it. -/
def Keeps (p : σ → Prop) (action : Action (StateM σ) α) : Prop := ∀ s, p s → p (action.on s).2

section Keeps

variable {p : σ → Prop}

theorem keeps_pure (a : α) : Keeps p (pure a : Action (StateM σ) α) := fun _ hp => hp

theorem keeps_orFail (r : Except Failure α) : Keeps p (orFail r : Action (StateM σ) α) :=
  fun _ hp => hp

theorem keeps_requires (worked : Bool) (failure : Failure) :
    Keeps p (requires worked failure : Action (StateM σ) Unit) := by
  intro s hp
  rwa [on_requires]

theorem Keeps.bind {action : Action (StateM σ) α} {next : α → Action (StateM σ) β}
    (h : Keeps p action) (hnext : ∀ a, Keeps p (next a)) : Keeps p (action >>= next) := by
  intro s hp
  have haction := h s hp
  rw [on_bind]
  rcases hrun : action.on s with ⟨r, s'⟩
  rw [hrun] at haction
  cases r with
  | ok a => exact hnext a s' haction
  | error e => exact haction

variable [FileStore (StateM σ)]

theorem keeps_checkMapping (hread : ∀ path, Keeps p (readFile path : Action (StateM σ) _)) :
    Keeps p (checkMapping path flow config : Action (StateM σ) Mapping) := by
  refine .bind (.bind (hread path) fun content => ?_) fun sheets => keeps_orFail _
  cases content with
  | bytes content => exact keeps_orFail _
  | directory => exact keeps_orFail (.error _)
  | nothing => exact keeps_orFail (.error _)

theorem keeps_writeSources (hwrite : ∀ t ∈ tables,
      Keeps p (writeFile (t.documentPath kind dir) (t.sourceText kind) : Action (StateM σ) _)) :
    Keeps p (writeSources kind dir tables : Action (StateM σ) _) := by
  induction tables with
  | nil => exact keeps_pure []
  | cons t rest ih =>
    obtain ⟨hfirst, hrest⟩ := List.forall_mem_cons.1 hwrite
    refine .bind hfirst fun worked => .bind (keeps_requires _ _) fun _ => .bind (ih hrest) ?_
    exact fun paths => keeps_pure _

theorem keeps_generateSources
    (hremove : Keeps p (removeDir (sourcesDir out kind flow) : Action (StateM σ) _))
    (hmake : ∀ path, Keeps p (makeDirs path : Action (StateM σ) _))
    (hwrite : ∀ t ∈ m.tables, Keeps p (writeFile (t.documentPath kind (sourcesDir out kind flow))
      (t.sourceText kind) : Action (StateM σ) _)) :
    Keeps p (generateSources m kind flow out : Action (StateM σ) _) :=
  .bind (keeps_orFail _) fun _ => .bind hremove fun _ => .bind (keeps_requires _ _) fun _ =>
    .bind (hmake _) fun _ => .bind (keeps_requires _ _) fun _ => keeps_writeSources hwrite

theorem keeps_writeMetadata (hmake : ∀ path, Keeps p (makeDirs path : Action (StateM σ) _))
    (hwrite : Keeps p (writeFile (metadataPath out flow) m.document.toUTF8 :
      Action (StateM σ) _)) :
    Keeps p (writeMetadata m flow out : Action (StateM σ) _) := by
  have hrest : Keeps p (do
      requires (← writeFile (metadataPath out flow) m.document.toUTF8)
        (.metadataUnwritten (metadataPath out flow))
      return metadataPath out flow : Action (StateM σ) String) :=
    .bind hwrite fun _ => .bind (keeps_requires _ _) fun _ => keeps_pure _
  delta writeMetadata
  dsimp only
  cases Path.parent? (metadataPath out flow) with
  | none => exact hrest
  | some dir => exact .bind (hmake dir) fun _ => .bind (keeps_requires _ _) fun _ => hrest

/-- What reading files keeps, and clearing and making directories and writing any of the documents,
is kept by compiling. -/
theorem keeps_compileMapping (hread : ∀ path, Keeps p (readFile path : Action (StateM σ) _))
    (hremove : ∀ kind,
      Keeps p (removeDir (sourcesDir out kind (normalFlow flow)) : Action (StateM σ) _))
    (hmake : ∀ path, Keeps p (makeDirs path : Action (StateM σ) _))
    (hsource : ∀ (kind : SourceKind) (t : Table), Keeps p (writeFile
      (t.documentPath kind (sourcesDir out kind (normalFlow flow))) (t.sourceText kind) :
        Action (StateM σ) _))
    (hmetadata : ∀ m : Mapping, Keeps p (writeFile (metadataPath out (normalFlow flow))
      m.document.toUTF8 : Action (StateM σ) _)) :
    Keeps p (compileMapping workbook flow out config : Action (StateM σ) Compilation) := by
  refine .bind (keeps_checkMapping hread) fun m => ?_
  have hsources : ∀ kind, Keeps p (generateSources m kind (normalFlow flow) out) := fun kind =>
    keeps_generateSources (hremove kind) hmake fun t _ => hsource kind t
  refine .bind (hsources .batch) fun _ => .bind (hsources .datalake) fun _ => ?_
  exact .bind (keeps_writeMetadata hmake (hmetadata m)) fun _ => keeps_pure _

end Keeps

/-- What is kept by opening a file and writing any bytes to it is kept by writing it. -/
theorem keeps_writeFile_disk {p : Disk → Prop}
    (h : ∀ (d : Disk) written files, p d → d.files.writeFile? path written = some files →
      p { d with files, opened := d.opened ++ [path] }) :
    Keeps p (writeFile path content : Action OnDisk Bool) := by
  intro d hp
  rw [on_writeFile_disk]
  rcases d.writeFile_cases path content with
    hclosed | ⟨size, files, -, hwrite, hcut⟩ | ⟨files, hwrite, hwhole⟩
  · rwa [hclosed]
  · rw [hcut]
    exact h d _ files hp hwrite
  · rw [hwhole]
    exact h d _ files hp hwrite

/-! ## Disks with room for every file -/

/-- An action on a disk that comes to the same as one on its files, if there is room for all that is
written. -/
def Follows (action : Action OnFiles α) (action' : Action OnDisk α) : Prop :=
  ∀ fs opened, ∃ opened', action'.on ⟨fs, [], opened⟩ =
    ((action.on fs).1, ⟨(action.on fs).2, [], opened'⟩)

theorem follows_orFail (r : Except Failure α) : Follows (orFail r) (orFail r) :=
  fun _ opened => ⟨opened, rfl⟩

theorem follows_pure (a : α) : Follows (pure a) (pure a) := follows_orFail (.ok a)

theorem follows_requires (worked : Bool) (failure : Failure) :
    Follows (requires worked failure) (requires worked failure) :=
  fun _ opened => ⟨opened, by rw [on_requires, on_requires]⟩

theorem Follows.bind {action : Action OnFiles α} {action' : Action OnDisk α}
    {next : α → Action OnFiles β} {next' : α → Action OnDisk β} (h : Follows action action')
    (hnext : ∀ a, Follows (next a) (next' a)) : Follows (action >>= next) (action' >>= next') := by
  intro fs opened
  obtain ⟨opened', hrun⟩ := h fs opened
  rw [on_bind, on_bind, hrun]
  rcases action.on fs with ⟨r, fs'⟩
  cases r with
  | ok a => exact hnext a fs' opened'
  | error e => exact ⟨opened', rfl⟩

theorem follows_removeDir (path : String) : Follows (removeDir path) (removeDir path) :=
  fun _ opened => ⟨opened, rfl⟩

theorem follows_makeDirs (path : String) : Follows (makeDirs path) (makeDirs path) :=
  fun _ opened => ⟨opened, rfl⟩

theorem follows_writeFile (path : String) (content : ByteArray) :
    Follows (writeFile path content) (writeFile path content) := by
  intro fs opened
  rw [on_writeFile, on_writeFile_disk, Disk.writeFile, List.getElem?_nil, FileSystem.writeUpTo?,
    Option.filter_none]
  cases fs.writeFile? path content with
  | none => exact ⟨opened, rfl⟩
  | some files => exact ⟨opened ++ [path], rfl⟩

theorem follows_writeSources (kind : SourceKind) (dir : String) (tables : List Table) :
    Follows (writeSources kind dir tables) (writeSources kind dir tables) := by
  induction tables with
  | nil => exact follows_pure []
  | cons t rest ih =>
    refine .bind (follows_writeFile _ _) fun _ => .bind (follows_requires _ _) fun _ => ?_
    exact .bind ih fun _ => follows_pure _

theorem follows_generateSources (m : Mapping) (kind : SourceKind) (flow out : String) :
    Follows (generateSources m kind flow out) (generateSources m kind flow out) :=
  .bind (follows_orFail _) fun _ => .bind (follows_removeDir _) fun _ =>
    .bind (follows_requires _ _) fun _ => .bind (follows_makeDirs _) fun _ =>
    .bind (follows_requires _ _) fun _ => follows_writeSources kind _ m.tables

theorem follows_writeMetadata (m : Mapping) (flow out : String) :
    Follows (writeMetadata m flow out) (writeMetadata m flow out) := by
  delta writeMetadata
  dsimp only
  cases Path.parent? (metadataPath out flow) with
  | none =>
    exact .bind (follows_writeFile _ _) fun _ => .bind (follows_requires _ _) fun _ =>
      follows_pure _
  | some dir =>
    exact .bind (follows_makeDirs dir) fun _ => .bind (follows_requires _ _) fun _ =>
      .bind (follows_writeFile _ _) fun _ => .bind (follows_requires _ _) fun _ => follows_pure _

theorem follows_writeDocuments (m : Mapping) (flow out : String) :
    Follows (writeDocuments m flow out) (writeDocuments m flow out) :=
  .bind (follows_generateSources m .batch flow out) fun _ =>
    .bind (follows_generateSources m .datalake flow out) fun _ =>
    .bind (follows_writeMetadata m flow out) fun _ => follows_pure _

/-- With room for every file, a workbook is compiled on a disk as it is on a tree of files. -/
theorem follows_compileMapping (workbook : Option String) (flow out : String) (config : Config) :
    Follows (compileMapping workbook flow out config)
      (compileMapping workbook flow out config) := by
  intro fs opened
  rw [on_compileMapping, on_compileMapping_of_readFile (on_readFile_disk ⟨fs, [], opened⟩)]
  dsimp only
  cases mappingIn _ flow config _ with
  | ok m => exact follows_writeDocuments m (normalFlow flow) out fs opened
  | error e => exact ⟨opened, rfl⟩

end Action

/-! ## A workbook with one table -/

theorem on_compileMapping_parcels_disk (entries : List (String × FileTree)) (room : List Nat)
    (flow out : String) (config : Config) : (compileMapping (some "parcels.xlsx") flow out config :
      Action OnDisk Compilation).on ⟨parcelsFiles entries, room, []⟩ =
      match (Mapping.build [parcelsSheet] flow config).mapError Failure.rejected with
      | .ok m => (Action.writeDocuments m (normalFlow flow) out : Action OnDisk Compilation).on
        ⟨parcelsFiles entries, room, []⟩
      | .error e => (.error e, ⟨parcelsFiles entries, room, []⟩) :=
  on_compileMapping_parcels_of_readFile
    (by rw [Action.on_readFile_disk, readFile_parcelsFiles]) flow out config

end Intake
