import Intake.Proofs.Check
import Intake.Proofs.Disk

/-!
# What a failure leaves behind

A workbook that does not check keeps all files as they are, and so do tables whose documents have
the same name (`generateSources_of_repeated`). The metadata document comes last: until it is opened,
a run puts no file in its place (`Unrecorded`), since no source document belongs there and clearing
and making directories makes no files (`NoNewFile`). `compileMapping_atomic` is all of this for a
run on a disk, which may have no room for some of the files. A metadata document that has been
opened is no longer safe: when its own bytes find no room, the first of them are what is left
(`exists_size_of_opened`). A document can also come into sight, where a path with double points led
nowhere before (`exists_metadata_of_failed_run`).
-/

namespace Intake

open Intake.Path

variable {fs fs' fs'' : FileSystem} {l : Location} {m : Mapping} {kind : SourceKind}
  {flow out dir : String} {config : Config}

/-! ## No new file at a place -/

/-- There is no other file at a location than before. -/
def NoNewFile (l : Location) (fs fs' : FileSystem) : Prop :=
  ∀ content, fs'.nodeAt? l = some (.file content) → fs.nodeAt? l = some (.file content)

theorem NoNewFile.refl (l : Location) (fs : FileSystem) : NoNewFile l fs fs := fun _ h => h

theorem NoNewFile.trans (h : NoNewFile l fs fs') (h' : NoNewFile l fs' fs'') :
    NoNewFile l fs fs'' :=
  fun content hfile => h content (h' content hfile)

theorem noNewFile_removeDir (fs : FileSystem) (path : String) :
    NoNewFile l fs (fs.removeDir path).1 := fun _ => FileSystem.file_of_file_removeDir

theorem noNewFile_makeDirs (fs : FileSystem) (path : String) :
    NoNewFile l fs (fs.makeDirs path).1 :=
  fun _ hfile => (FileSystem.makes_makeDirs rfl).1.file_of_file hfile

theorem noNewFile_writeFile? {path : String} {content : ByteArray}
    (h : fs.writeFile? path content = some fs') (hne : location path ≠ l) : NoNewFile l fs fs' := by
  intro content' hfile
  have hroom := FileSystem.hasRoom_of_writeFile?_eq_some h
  obtain ⟨-, -, -, -, rfl⟩ := FileSystem.writeFile?_eq_some_iff.1 h
  by_cases hbelow : location path <+: l
  · obtain ⟨rest, rfl⟩ := hbelow
    obtain ⟨name, rest, rfl⟩ := List.exists_cons_of_ne_nil (l := rest) (by simpa using hne)
    rw [FileSystem.nodeAt?_place_self hroom] at hfile
    simp [FileTree.nodeAt?, FileTree.at?] at hfile
  · rwa [FileSystem.nodeAt?_place hbelow] at hfile

/-- The metadata document is opened, or there is no other file in its place than before. -/
def Unrecorded (path : String) (fs : FileSystem) (d : Disk) : Prop :=
  path ∈ d.opened ∨ NoNewFile (location path) fs d.files

theorem Unrecorded.change {path : String} {d : Disk} {files : FileSystem}
    (h : Unrecorded path fs d) (hfiles : NoNewFile (location path) d.files files) :
    Unrecorded path fs { d with files } :=
  h.imp_right fun hbefore => hbefore.trans hfiles

theorem Unrecorded.of_opened {path opened : String} {d : Disk} {files : FileSystem}
    (h : Unrecorded path fs { d with files }) :
    Unrecorded path fs { d with files, opened := d.opened ++ [opened] } :=
  h.imp_left fun hmem => List.mem_append_left _ hmem

/-- A run makes no metadata document without opening it, whatever comes of the run: no source
document is in its place, and clearing and making directories makes no files. -/
theorem keeps_unrecorded_compileMapping (workbook : Option String) (flow out : String)
    (config : Config) (fs : FileSystem) :
    Action.Keeps (Unrecorded (metadataPath out (normalFlow flow)) fs)
      (compileMapping workbook flow out config : Action OnDisk Compilation) := by
  refine Action.keeps_compileMapping (fun _ _ hd => hd) (fun kind d hd => ?_)
    (fun path d hd => ?_) (fun kind t => ?_) fun m => ?_
  · rw [Action.on_removeDir_disk]
    exact hd.change (noNewFile_removeDir _ _)
  · rw [Action.on_makeDirs_disk]
    exact hd.change (noNewFile_makeDirs _ _)
  · refine Action.keeps_writeFile_disk fun d written files hd hwrite => ?_
    have hne := location_documentPath_ne t kind (sourcesDir out kind (normalFlow flow)) out
      (normalFlow flow)
    exact (hd.change (noNewFile_writeFile? hwrite hne)).of_opened
  · exact Action.keeps_writeFile_disk fun d written files _ _ => .inl (by simp)

/-! ## Failures before anything is touched -/

theorem repeated_ne_nil (h : ¬ ∀ kind, (m.tables.map (·.documentName kind)).Nodup) :
    repeated (m.tables.map (·.batchDocument)) ++ repeated (m.tables.map (·.datalakeDocument)) ≠
      [] := by
  rw [ne_eq, List.append_eq_nil_iff, repeated_eq_nil_iff, repeated_eq_nil_iff]
  rintro ⟨hbatch, hdatalake⟩
  exact h fun kind => by cases kind <;> assumption

/-- Documents with the same name are refused before anything is touched. -/
theorem generateSources_of_repeated {σ : Type} [FileStore (StateM σ)] {s : σ}
    (h : ¬ ∀ kind, (m.tables.map (·.documentName kind)).Nodup) :
    (generateSources m kind flow out : Action (StateM σ) _).on s =
      (.error (.rejected (.documentsRepeated (repeated (m.tables.map (·.batchDocument)) ++
        repeated (m.tables.map (·.datalakeDocument))))), s) := by
  have hcheck : m.checkDocuments = .error (.documentsRepeated
      (repeated (m.tables.map (·.batchDocument)) ++
        repeated (m.tables.map (·.datalakeDocument)))) := by
    rw [Mapping.checkDocuments]
    split
    · next hnil => exact absurd hnil (repeated_ne_nil h)
    · rfl
  rw [generateSources, Action.on_bind, Action.on_orFail, hcheck]
  rfl

/-! ## Runs -/

theorem compileMapping_of_unchecked {workbook : Option String} {d : Disk} {e : Failure}
    (h : ((checkMapping (workbook.getD (config.workbookPath flow)) flow config :
      Action OnDisk _).on d).1 = .error e) :
    (compileMapping workbook flow out config : Action OnDisk _).on d = (.error e, d) := by
  rw [Action.on_checkMapping_of_readFile (Action.on_readFile_disk d)] at h
  dsimp only at h
  rw [Action.on_compileMapping_of_readFile (Action.on_readFile_disk d), h]

/-- A run that does not open the metadata document leaves one only where it was, as it was. -/
theorem readFile_of_not_opened {workbook : Option String} {room : List Nat} {d : Disk}
    {r : Except Failure Compilation} {content : ByteArray}
    (hrun : (compileMapping workbook flow out config : Action OnDisk _).on ⟨fs, room, []⟩ = (r, d))
    (hopened : metadataPath out (normalFlow flow) ∉ d.opened)
    (hread : d.files.readFile (metadataPath out (normalFlow flow)) = .bytes content) :
    fs.at? (location (metadataPath out (normalFlow flow))) = some (.file content) ∧
      ((∃ t, fs.resolve (metadataPath out (normalFlow flow)) = .ok t) ∨
          (∀ name ∈ segments (metadataPath out (normalFlow flow)), name ≠ "..") →
        fs.readFile (metadataPath out (normalFlow flow)) = .bytes content) := by
  obtain ⟨hvalid, -, hslash, hnode⟩ := FileSystem.readFile_eq_bytes_iff.1 hread
  have hkept := keeps_unrecorded_compileMapping workbook flow out config fs ⟨fs, room, []⟩
    (.inr (.refl _ fs))
  rw [hrun] at hkept
  have hbefore : fs.nodeAt? (location (metadataPath out (normalFlow flow))) =
      some (.file content) := (hkept.resolve_left hopened) content hnode
  refine ⟨FileSystem.nodeAt?_file_iff.1 hbefore, fun h => ?_⟩
  refine FileSystem.readFile_eq_bytes_iff.2 ⟨hvalid, ?_, hslash, hbefore⟩
  rcases h with ⟨t, ht⟩ | hnames
  · exact (FileSystem.resolve_eq_ok_iff.1 ht).2.1
  · exact FileSystem.reaches_of_isSome (endsPlain_metadataPath out _) hnames (by simp [hbefore])

/-! ## Metadata documents that are cut short -/

/-- Writing the source documents of a kind does not open a metadata document. -/
theorem keeps_not_opened_generateSources (m : Mapping) (kind : SourceKind) (flow out : String)
    (out' flow' : String) : Action.Keeps (fun d => metadataPath out' flow' ∉ d.opened)
      (generateSources m kind flow out : Action OnDisk _) := by
  refine Action.keeps_generateSources (fun _ hd => hd) (fun _ _ hd => hd) fun t _ => ?_
  refine Action.keeps_writeFile_disk fun d written files hd _ hmem => ?_
  rcases List.mem_append.1 hmem with hbefore | hlast
  · exact hd hbefore
  · have hpath := List.mem_singleton.1 hlast
    exact location_documentPath_ne t kind _ out' flow' (congrArg location hpath.symm)

theorem not_mem_opened_of_generateSources {d d' : Disk} {r : Except Failure (List String)}
    {out' flow' : String} (h : (generateSources m kind flow out : Action OnDisk _).on d = (r, d'))
    (hbefore : metadataPath out' flow' ∉ d.opened) : metadataPath out' flow' ∉ d'.opened := by
  have hkept := keeps_not_opened_generateSources m kind flow out out' flow' d hbefore
  rwa [h] at hkept

/-- Where writing the metadata document fails although it has been opened, it has been cut short. -/
theorem exists_size_of_writeMetadata {d d' : Disk} {e : Failure}
    (h : (writeMetadata m flow out : Action OnDisk _).on d = (.error e, d'))
    (hbefore : metadataPath out flow ∉ d.opened) (hopened : metadataPath out flow ∈ d'.opened) :
    ∃ size, size < m.document.toUTF8.size ∧ e = .metadataUnwritten (metadataPath out flow) ∧
      d'.files.readFile (metadataPath out flow) = .bytes (m.document.toUTF8.extract 0 size) := by
  obtain ⟨dir, hdir⟩ := parent?_metadataPath out flow
  delta writeMetadata at h
  simp only [hdir, Action.on_bind, Action.on_makeDirs_disk, Action.on_requires] at h
  rcases hmake : d.files.makeDirs dir with ⟨made, worked⟩
  rw [hmake] at h
  cases worked with
  | false =>
    cases h
    exact absurd hopened hbefore
  | true =>
    simp only [if_true, Action.on_writeFile_disk] at h
    rcases Disk.writeFile_cases ⟨made, d.room, d.opened⟩ (metadataPath out flow)
      m.document.toUTF8 with hclosed | ⟨size, files, hsize, hwrite, hcut⟩ | ⟨files, -, hwhole⟩
    · rw [hclosed] at h
      cases h
      exact absurd hopened hbefore
    · rw [hcut] at h
      cases h
      exact ⟨size, hsize, rfl, FileSystem.readFile_writeFile? hwrite⟩
    · rw [hwhole] at h
      cases h

/-- The metadata document comes last, so a run that fails with it opened fails at writing it. -/
theorem exists_size_of_writeDocuments {d d' : Disk} {e : Failure}
    (h : (Action.writeDocuments m flow out : Action OnDisk _).on d = (.error e, d'))
    (hbefore : metadataPath out flow ∉ d.opened) (hopened : metadataPath out flow ∈ d'.opened) :
    ∃ size, size < m.document.toUTF8.size ∧ e = .metadataUnwritten (metadataPath out flow) ∧
      d'.files.readFile (metadataPath out flow) = .bytes (m.document.toUTF8.extract 0 size) := by
  rw [Action.writeDocuments] at h
  rcases Action.on_bind_eq_error h with hbatch | ⟨batch, d₁, hbatch, h⟩
  · exact absurd hopened (not_mem_opened_of_generateSources hbatch hbefore)
  have hfirst := not_mem_opened_of_generateSources hbatch hbefore
  rcases Action.on_bind_eq_error h with hdatalake | ⟨datalake, d₂, hdatalake, h⟩
  · exact absurd hopened (not_mem_opened_of_generateSources hdatalake hfirst)
  have hsecond := not_mem_opened_of_generateSources hdatalake hfirst
  rcases Action.on_bind_eq_error h with hmetadata | ⟨path, d₃, -, hreturn⟩
  · exact exists_size_of_writeMetadata hmetadata hsecond hopened
  · cases hreturn

/-- Where a run fails although it has opened the metadata document, this holds the beginning of the
new one, and not all of it. -/
theorem exists_size_of_opened {workbook : Option String} {room : List Nat} {d : Disk} {e : Failure}
    (hrun : (compileMapping workbook flow out config : Action OnDisk _).on ⟨fs, room, []⟩ =
      (.error e, d))
    (hopened : metadataPath out (normalFlow flow) ∈ d.opened) : ∃ m size,
      mappingIn (workbook.getD (config.workbookPath flow)) flow config
        (fs.readFile (workbook.getD (config.workbookPath flow))) = .ok m ∧
      size < m.document.toUTF8.size ∧
      e = .metadataUnwritten (metadataPath out (normalFlow flow)) ∧
      d.files.readFile (metadataPath out (normalFlow flow)) =
        .bytes (m.document.toUTF8.extract 0 size) := by
  rw [Action.on_compileMapping_of_readFile (Action.on_readFile_disk _)] at hrun
  dsimp only at hrun
  cases hm : mappingIn (workbook.getD (config.workbookPath flow)) flow config
    (fs.readFile (workbook.getD (config.workbookPath flow))) with
  | error e' =>
    rw [hm] at hrun
    cases hrun
    simp at hopened
  | ok m =>
    rw [hm] at hrun
    obtain ⟨size, hcut⟩ := exists_size_of_writeDocuments hrun List.not_mem_nil hopened
    exact ⟨m, size, rfl, hcut⟩

/-! ## Failures of any kind -/

/-- A workbook, the metadata document of an earlier run, and a file where the directory of datalake
documents would have to be. -/
def blockedFiles : FileSystem :=
  parcelsFiles [("out", .dir [("flows", .dir [("sales.cfg.json", .file "\x7b\x7d\n".toUTF8)]),
    ("models", .dir [("sources", .dir [("datalake", .file "".toUTF8)])])])]

theorem blocked_run :
    let run := (compileMapping (some "parcels.xlsx") "Sales" "out" {} :
      Action OnDisk Compilation).on ⟨blockedFiles, [], []⟩
    (failure? run.1).isSome ∧ metadataPath "out" (normalFlow "Sales") ∉ run.2.opened ∧
      run.2.files.readFile (metadataPath "out" (normalFlow "Sales")) =
        .bytes "\x7b\x7d\n".toUTF8 := by
  rw [blockedFiles, on_compileMapping_parcels_disk]
  decide +kernel

/-- The parts of a workbook without worksheets. -/
def blankParts : List (String × ByteArray) :=
  [("xl/workbook.xml", "<w/>".toUTF8), ("xl/_rels/workbook.xml.rels", "<r/>".toUTF8)]

/-- That workbook and the metadata document of an earlier run. -/
def blankFiles : FileSystem :=
  ⟨[("blank.xlsx", .file (Zip.write blankParts)),
    ("out", .dir [("flows", .dir [("sales.cfg.json", .file "\x7b\x7d\n".toUTF8)])])]⟩

theorem storable_blankParts : Zip.Storable blankParts where
  names := by decide +kernel
  nodup := by decide +kernel
  count := by decide +kernel
  size := by
    rw [Zip.size_write]
    decide +kernel

theorem on_compileMapping_blank : (compileMapping (some "blank.xlsx") "Sales" "out" {} :
    Action OnDisk Compilation).on ⟨blankFiles, [1], []⟩ =
      (Action.writeDocuments ⟨[]⟩ (normalFlow "Sales") "out" : Action OnDisk Compilation).on
        ⟨blankFiles, [1], []⟩ := by
  have hread : blankFiles.readFile "blank.xlsx" = .bytes (Zip.write blankParts) := rfl
  have hsheets : (worksheetsOf (KeyMap.ofList blankParts)).toOption = some [] := by decide +kernel
  have hmapping : mappingIn "blank.xlsx" "Sales" {} (.bytes (Zip.write blankParts)) =
      (Mapping.build [] "Sales" {}).mapError .rejected :=
    mappingIn_of_parts (Zip.read_write storable_blankParts) hsheets
  rw [Action.on_compileMapping_of_readFile (Action.on_readFile_disk _), Option.getD_some, hread,
    hmapping]
  rfl

theorem cut_run :
    let run := (Action.writeDocuments ⟨[]⟩ (normalFlow "Sales") "out" :
      Action OnDisk Compilation).on ⟨blankFiles, [1], []⟩
    failure? run.1 = some (.metadataUnwritten (metadataPath "out" (normalFlow "Sales"))) ∧
      run.2.files.readFile (metadataPath "out" (normalFlow "Sales")) = .bytes "\x7b".toUTF8 := by
  decide +kernel

theorem uncovered_run :
    let run := (compileMapping (some "parcels.xlsx") "Sales" "new/../out" {} :
      Action OnDisk Compilation).on ⟨blockedFiles, [], []⟩
    failure? run.1 = some (.sourceUnwritten "new/../out/models/sources/datalake/sales") ∧
      run.2.files.readFile (metadataPath "new/../out" (normalFlow "Sales")) =
        .bytes "\x7b\x7d\n".toUTF8 := by
  rw [blockedFiles, on_compileMapping_parcels_disk]
  decide +kernel

end Intake
