import Intake.Compilation
import Intake.Proofs.Casing
import Intake.Proofs.Outcome
import Intake.Proofs.Output
import Intake.Proofs.Zip

/-!
# Runs of actions

`Action.on` is the run of an action on the state that holds the files. Checking a mapping only reads
(`Action.on_checkMapping_of_readFile`), and a run that has a mapping writes its documents
(`Action.on_compileMapping_of_readFile`). On a tree of files, how writing source documents goes,
step by step and up to the first step that fails, is the relation `Generates`, and how writing a
metadata document goes is `Records`. Whatever is to be known about the files afterwards is read off
from the cases of the two (`Action.generates_on`, `Action.records_on`,
`Action.on_compileMapping_cases`), or it is kept by each step and so by a run (`Writes.invariant`,
`Generates.invariant`, `Compiles.invariant`). At the end is a small workbook for runs on given
files; its container is read by `Zip.read_write`, without computing it.
-/

namespace Intake

open FileStore

variable {σ α β : Type}

/-- The run of an action on the state with the files: its result, and the state afterwards. -/
def Action.on (action : Action (StateM σ) α) (s : σ) : Except Failure α × σ :=
  Id.run (StateT.run (ExceptT.run action) s)

/-- The mapping of a workbook, from what comes of reading its file. -/
def mappingIn (path flow : String) (config : Config) : FileContent → Except Failure Mapping
  | .bytes content =>
    (worksheetsIn path content).bind fun sheets =>
      (Mapping.build sheets flow config).mapError .rejected
  | .directory => .error (.workbookInvalid path .notContainer)
  | .nothing => .error (.workbookUnreadable path)

theorem worksheetsIn_of_parts {path : String} {content : ByteArray}
    {parts : List (String × ByteArray)} {sheets : List Worksheet}
    (hparts : Zip.read content = .ok parts)
    (hsheets : (worksheetsOf (KeyMap.ofList parts)).toOption = some sheets) :
    worksheetsIn path content = .ok sheets := by
  rw [worksheetsIn, partsOf, hparts]
  dsimp only
  cases hof : worksheetsOf (KeyMap.ofList parts) with
  | error fault => simp [hof, Except.toOption] at hsheets
  | ok read => simpa [hof, Except.toOption] using hsheets

theorem mappingIn_of_parts {path flow : String} {config : Config} {content : ByteArray}
    {parts : List (String × ByteArray)} {sheets : List Worksheet}
    (hparts : Zip.read content = .ok parts)
    (hsheets : (worksheetsOf (KeyMap.ofList parts)).toOption = some sheets) :
    mappingIn path flow config (.bytes content) =
      (Mapping.build sheets flow config).mapError .rejected := by
  rw [mappingIn, worksheetsIn_of_parts hparts hsheets]
  rfl

/-- A mapping is built with the normal form of the flow's name. -/
theorem Mapping.build_normalFlow (sheets : List Worksheet) (flow : String) (config : Config) :
    Mapping.build sheets (normalFlow flow) config = Mapping.build sheets flow config := by
  rw [Mapping.build, Mapping.build, normalFlow_normalFlow]

theorem mappingIn_normalFlow (path flow : String) (config : Config) (content : FileContent) :
    mappingIn path (normalFlow flow) config content = mappingIn path flow config content := by
  cases content <;> simp only [mappingIn, Mapping.build_normalFlow]

/-- The source documents of tables are written one after the other. -/
inductive Writes (kind : SourceKind) (dir : String) : List Table → FileSystem → FileSystem → Prop
  | nil (fs : FileSystem) : Writes kind dir [] fs fs
  | cons {t : Table} {tables : List Table} {fs fs' fs'' : FileSystem}
    (hwrite : fs.writeFile? (t.documentPath kind dir) (t.sourceText kind) = some fs')
    (hrest : Writes kind dir tables fs' fs'') : Writes kind dir (t :: tables) fs fs''

/-- How writing the source documents of a kind may go. -/
inductive Generates (m : Mapping) (kind : SourceKind) (flow out : String) (fs : FileSystem) :
    Except Failure (List String) → FileSystem → Prop
  | rejected {r : Rejection} (hcheck : m.checkDocuments = .error r) :
    Generates m kind flow out fs (.error (.rejected r)) fs
  | uncleared {cleared : FileSystem} (hcheck : m.checkDocuments = .ok ())
    (hremove : fs.removeDir (sourcesDir out kind flow) = (cleared, false)) :
    Generates m kind flow out fs (.error (.sourceUnwritten (sourcesDir out kind flow))) cleared
  | unmade {cleared made : FileSystem} (hcheck : m.checkDocuments = .ok ())
    (hremove : fs.removeDir (sourcesDir out kind flow) = (cleared, true))
    (hmake : cleared.makeDirs (sourcesDir out kind flow) = (made, false)) :
    Generates m kind flow out fs (.error (.sourceUnwritten (sourcesDir out kind flow))) made
  | stopped {cleared made written : FileSystem} {done rest : List Table} {t : Table}
    (hcheck : m.checkDocuments = .ok ())
    (hremove : fs.removeDir (sourcesDir out kind flow) = (cleared, true))
    (hmake : cleared.makeDirs (sourcesDir out kind flow) = (made, true))
    (htables : m.tables = done ++ t :: rest)
    (hwrites : Writes kind (sourcesDir out kind flow) done made written)
    (hfault : written.writeFile? (t.documentPath kind (sourcesDir out kind flow))
      (t.sourceText kind) = none) :
    Generates m kind flow out fs
      (.error (.sourceUnwritten (t.documentPath kind (sourcesDir out kind flow)))) written
  | finished {cleared made written : FileSystem} (hcheck : m.checkDocuments = .ok ())
    (hremove : fs.removeDir (sourcesDir out kind flow) = (cleared, true))
    (hmake : cleared.makeDirs (sourcesDir out kind flow) = (made, true))
    (hwrites : Writes kind (sourcesDir out kind flow) m.tables made written) :
    Generates m kind flow out fs
      (.ok (m.tables.map fun t => t.documentPath kind (sourcesDir out kind flow))) written

/-- How writing the metadata document of a flow into a directory may go. -/
inductive Records (m : Mapping) (flow out dir : String) (fs : FileSystem) :
    Except Failure String → FileSystem → Prop
  | unmade {made : FileSystem} (hmake : fs.makeDirs dir = (made, false)) :
    Records m flow out dir fs (.error (.metadataUnwritten (metadataPath out flow))) made
  | unwritten {made : FileSystem} (hmake : fs.makeDirs dir = (made, true))
    (hfault : made.writeFile? (metadataPath out flow) m.document.toUTF8 = none) :
    Records m flow out dir fs (.error (.metadataUnwritten (metadataPath out flow))) made
  | finished {made written : FileSystem} (hmake : fs.makeDirs dir = (made, true))
    (hwrite : made.writeFile? (metadataPath out flow) m.document.toUTF8 = some written) :
    Records m flow out dir fs (.ok (metadataPath out flow)) written

/-- How writing all documents of a mapping may go. -/
inductive Compiles (m : Mapping) (flow out dir : String) (fs : FileSystem) :
    Except Failure Compilation → FileSystem → Prop
  | noBatch {fs' : FileSystem} {e : Failure}
    (hbatch : Generates m .batch flow out fs (.error e) fs') :
    Compiles m flow out dir fs (.error e) fs'
  | noDatalake {fs₁ fs' : FileSystem} {batch : List String} {e : Failure}
    (hbatch : Generates m .batch flow out fs (.ok batch) fs₁)
    (hdatalake : Generates m .datalake flow out fs₁ (.error e) fs') :
    Compiles m flow out dir fs (.error e) fs'
  | noMetadata {fs₁ fs₂ fs' : FileSystem} {batch datalake : List String} {e : Failure}
    (hbatch : Generates m .batch flow out fs (.ok batch) fs₁)
    (hdatalake : Generates m .datalake flow out fs₁ (.ok datalake) fs₂)
    (hmetadata : Records m flow out dir fs₂ (.error e) fs') :
    Compiles m flow out dir fs (.error e) fs'
  | finished {fs₁ fs₂ fs' : FileSystem} {batch datalake : List String} {path : String}
    (hbatch : Generates m .batch flow out fs (.ok batch) fs₁)
    (hdatalake : Generates m .datalake flow out fs₁ (.ok datalake) fs₂)
    (hmetadata : Records m flow out dir fs₂ (.ok path) fs') :
    Compiles m flow out dir fs (.ok ⟨m, path, batch ++ datalake⟩) fs'

section

variable {fs fs' : FileSystem} {m : Mapping} {kind : SourceKind} {flow out dir : String}
  {p : FileSystem → Prop}

/-- What is kept by writing any of the documents is kept by writing them one after the other. -/
theorem Writes.invariant {tables : List Table} (h : Writes kind dir tables fs fs')
    (hwrite : ∀ {fs fs'}, ∀ t ∈ tables,
      fs.writeFile? (t.documentPath kind dir) (t.sourceText kind) = some fs' → p fs → p fs')
    (hp : p fs) : p fs' := by
  induction h with
  | nil fs => exact hp
  | cons hfirst _ ih =>
    exact ih (fun t ht => hwrite t (List.mem_cons_of_mem _ ht))
      (hwrite _ List.mem_cons_self hfirst hp)

/-- What clearing a directory of source documents keeps, and making it and writing documents into
it, is kept by all of this. -/
theorem Generates.invariant {r : Except Failure (List String)}
    (h : Generates m kind flow out fs r fs')
    (hremove : ∀ {cleared worked}, fs.removeDir (sourcesDir out kind flow) = (cleared, worked) →
      p fs → p cleared)
    (hmake : ∀ {cleared made worked},
      cleared.makeDirs (sourcesDir out kind flow) = (made, worked) → p cleared → p made)
    (hwrites : ∀ {tables made written}, tables ⊆ m.tables →
      Writes kind (sourcesDir out kind flow) tables made written → p made → p written)
    (hp : p fs) : p fs' := by
  cases h with
  | rejected => exact hp
  | uncleared _ hcleared => exact hremove hcleared hp
  | unmade _ hcleared hmade => exact hmake hmade (hremove hcleared hp)
  | stopped _ hcleared hmade htables hwritten =>
    refine hwrites ?_ hwritten (hmake hmade (hremove hcleared hp))
    rw [htables]
    exact List.subset_append_left _ _
  | finished _ hcleared hmade hwritten =>
    exact hwrites (List.Subset.refl _) hwritten (hmake hmade (hremove hcleared hp))

/-- What writing the source documents of a kind keeps, and writing the metadata document, is kept by
writing all documents. -/
theorem Compiles.invariant {r : Except Failure Compilation} (h : Compiles m flow out dir fs r fs')
    (hsources : ∀ {kind r fs fs'}, Generates m kind flow out fs r fs' → p fs → p fs')
    (hmetadata : ∀ {r fs fs'}, Records m flow out dir fs r fs' → p fs → p fs') (hp : p fs) :
    p fs' := by
  cases h with
  | noBatch hbatch => exact hsources hbatch hp
  | noDatalake hbatch hdatalake => exact hsources hdatalake (hsources hbatch hp)
  | noMetadata hbatch hdatalake hrecords =>
    exact hmetadata hrecords (hsources hdatalake (hsources hbatch hp))
  | finished hbatch hdatalake hrecords =>
    exact hmetadata hrecords (hsources hdatalake (hsources hbatch hp))

end

namespace Action

variable {failure : Failure} {path flow out : String} {config : Config} {m : Mapping}
  {kind : SourceKind}

section

variable {s : σ}

@[simp] theorem on_pure (a : α) : (pure a : Action (StateM σ) α).on s = (.ok a, s) := rfl

theorem on_bind (action : Action (StateM σ) α) (next : α → Action (StateM σ) β) :
    (action >>= next).on s = match action.on s with
      | (.ok a, s) => (next a).on s
      | (.error e, s) => (.error e, s) := by
  unfold Action.on ExceptT.run StateT.run Id.run
  simp only [bind, ExceptT.bind, ExceptT.mk, StateT.bind, ExceptT.bindCont]
  cases action s with
  | mk r s => cases r <;> rfl

/-- A sequence fails when one of its steps does. -/
theorem on_bind_eq_error {action : Action (StateM σ) α} {next : α → Action (StateM σ) β}
    {e : Failure} {s' : σ} (h : (action >>= next).on s = (.error e, s')) :
    action.on s = (.error e, s') ∨
      ∃ a s₁, action.on s = (.ok a, s₁) ∧ (next a).on s₁ = (.error e, s') := by
  rw [on_bind] at h
  rcases hrun : action.on s with ⟨r, s₁⟩
  rw [hrun] at h
  cases r with
  | ok a => exact .inr ⟨a, s₁, rfl, h⟩
  | error e' =>
    cases h
    exact .inl rfl

theorem exists_on_of_toOption_eq_some {action : Action (StateM σ) α} {a : α}
    (h : (action.on s).1.toOption = some a) : ∃ s', action.on s = (.ok a, s') :=
  ⟨(action.on s).2, Prod.ext (toOption_eq_some_iff.1 h) rfl⟩

theorem on_eq_of_failure? {action : Action (StateM σ) α} {e : Failure}
    (h : failure? (action.on s).1 = some e) : action.on s = (.error e, (action.on s).2) :=
  Prod.ext (failure?_eq_some_iff.1 h) rfl

/-- A run of whose result something is known has one. -/
theorem exists_on_of_toOption_map {action : Action (StateM σ) α} {f : α → β} {b : β}
    (h : (action.on s).1.toOption.map f = some b) :
    ∃ a s', action.on s = (.ok a, s') ∧ f a = b := by
  obtain ⟨a, ha, hfact⟩ := exists_of_toOption_map h
  obtain ⟨s', hrun⟩ := exists_on_of_toOption_eq_some (toOption_eq_some_iff.2 ha)
  exact ⟨a, s', hrun, hfact⟩

@[simp] theorem on_orFail (r : Except Failure α) :
    (orFail r : Action (StateM σ) α).on s = (r, s) := rfl

@[simp] theorem on_requires {worked : Bool} :
    (requires worked failure : Action (StateM σ) Unit).on s =
      (if worked then .ok () else .error failure, s) := by
  cases worked <;> rfl

/-- Checking a mapping changes nothing. -/
theorem on_checkMapping_of_readFile [FileStore (StateM σ)] {content : FileContent}
    (h : (readFile path : Action (StateM σ) FileContent).on s = (.ok content, s)) :
    (checkMapping path flow config : Action (StateM σ) Mapping).on s =
      (mappingIn path flow config content, s) := by
  rw [checkMapping, openWorkbook, on_bind, on_bind, h]
  cases content with
  | bytes content =>
    dsimp only
    rw [on_orFail, mappingIn]
    cases worksheetsIn path content <;> simp [Except.bind]
  | directory => rfl
  | nothing => rfl

/-- Writes all documents of a mapping, as compiling does once it has the mapping. -/
def writeDocuments {n : Type → Type} [Monad n] [FileStore n] (m : Mapping) (flow out : String) :
    Action n Compilation := do
  let batch ← generateSources m .batch flow out
  let datalake ← generateSources m .datalake flow out
  let metadata ← writeMetadata m flow out
  return ⟨m, metadata, batch ++ datalake⟩

/-- A run compiles the mapping, and then it writes the documents. -/
theorem on_compileMapping_of_readFile [FileStore (StateM σ)] {workbook : Option String}
    {content : FileContent} (h : (readFile (workbook.getD (config.workbookPath flow)) :
      Action (StateM σ) FileContent).on s = (.ok content, s)) :
    (compileMapping workbook flow out config : Action (StateM σ) Compilation).on s =
      match mappingIn (workbook.getD (config.workbookPath flow)) flow config content with
      | .ok m => (writeDocuments m (normalFlow flow) out : Action (StateM σ) Compilation).on s
      | .error e => (.error e, s) := by
  rw [compileMapping, on_bind, on_checkMapping_of_readFile h, mappingIn_normalFlow]
  cases mappingIn _ flow config _ <;> rfl

end

/-! ## Actions on trees of files -/

variable {fs fs' fs'' : FileSystem}

@[simp] theorem on_readFile :
    (readFile path : Action OnFiles FileContent).on fs = (.ok (fs.readFile path), fs) := rfl

@[simp] theorem on_writeFile {content : ByteArray} :
    (writeFile path content : Action OnFiles Bool).on fs =
      match fs.writeFile? path content with
      | some fs => (.ok true, fs)
      | none => (.ok false, fs) := by
  have hrun : (writeFile path content : OnFiles Bool) fs =
      match fs.writeFile? path content with
        | some fs => (true, fs)
        | none => (false, fs) := by
    change (match fs.writeFile? path content with
      | some fs => (do set fs; return true : OnFiles Bool)
      | none => pure false) fs = _
    cases fs.writeFile? path content <;> rfl
  change Id.run ((fun a => (Except.ok a.1, a.2)) <$> (writeFile path content : OnFiles Bool) fs) = _
  rw [hrun]
  cases fs.writeFile? path content <;> rfl

@[simp] theorem on_makeDirs : (makeDirs path : Action OnFiles Bool).on fs =
    (.ok (fs.makeDirs path).2, (fs.makeDirs path).1) := rfl

@[simp] theorem on_removeDir : (removeDir path : Action OnFiles Bool).on fs =
    (.ok (fs.removeDir path).2, (fs.removeDir path).1) := rfl

theorem on_checkMapping : (checkMapping path flow config : Action OnFiles Mapping).on fs =
    (mappingIn path flow config (fs.readFile path), fs) := on_checkMapping_of_readFile on_readFile

/-! ## Writing documents -/

theorem on_writeSources_cases {dir : String} {tables : List Table}
    {r : Except Failure (List String)}
    (h : (writeSources kind dir tables : Action OnFiles _).on fs = (r, fs')) :
    (∃ done t rest, tables = done ++ t :: rest ∧ Writes kind dir done fs fs' ∧
      fs'.writeFile? (t.documentPath kind dir) (t.sourceText kind) = none ∧
      r = .error (.sourceUnwritten (t.documentPath kind dir))) ∨
    (Writes kind dir tables fs fs' ∧ r = .ok (tables.map fun t => t.documentPath kind dir)) := by
  induction tables generalizing fs fs' r with
  | nil =>
    cases h
    exact .inr ⟨.nil fs, rfl⟩
  | cons t rest ih =>
    rw [writeSources, on_bind, on_writeFile] at h
    cases hwrite : fs.writeFile? (t.documentPath kind dir) (t.sourceText kind) with
    | none =>
      simp only [hwrite, on_bind, on_requires, Bool.false_eq_true, if_false] at h
      cases h
      exact .inl ⟨[], t, rest, rfl, .nil fs, hwrite, rfl⟩
    | some written =>
      simp only [hwrite, on_bind, on_requires, if_true] at h
      rcases hrest : (writeSources kind dir rest : Action OnFiles _).on written with ⟨r', fs₂⟩
      rw [hrest] at h
      rcases ih hrest with ⟨done, t', others, rfl, hwrites, hfault, rfl⟩ | ⟨hwrites, rfl⟩
      · cases h
        exact .inl ⟨t :: done, t', others, rfl, .cons hwrite hwrites, hfault, rfl⟩
      · cases h
        exact .inr ⟨.cons hwrite hwrites, rfl⟩

theorem generates_on {r : Except Failure (List String)}
    (h : (generateSources m kind flow out : Action OnFiles _).on fs = (r, fs')) :
    Generates m kind flow out fs r fs' := by
  rw [generateSources, on_bind, on_orFail] at h
  cases hcheck : m.checkDocuments with
  | error e =>
    rw [hcheck] at h
    cases h
    exact .rejected hcheck
  | ok u =>
    simp only [hcheck, Except.mapError, on_bind, on_removeDir, on_requires] at h
    rcases hremove : fs.removeDir (sourcesDir out kind flow) with ⟨cleared, worked⟩
    rw [hremove] at h
    cases worked with
    | false =>
      cases h
      exact .uncleared hcheck hremove
    | true =>
      simp only [if_true, on_makeDirs] at h
      rcases hmake : cleared.makeDirs (sourcesDir out kind flow) with ⟨made, worked⟩
      rw [hmake] at h
      cases worked with
      | false =>
        cases h
        exact .unmade hcheck hremove hmake
      | true =>
        rcases on_writeSources_cases h with
          ⟨done, t, rest, htables, hwrites, hfault, rfl⟩ | ⟨hwrites, rfl⟩
        · exact .stopped hcheck hremove hmake htables hwrites hfault
        · exact .finished hcheck hremove hmake hwrites

theorem records_on {dir : String} {r : Except Failure String}
    (hdir : Path.parent? (metadataPath out flow) = some dir)
    (h : (writeMetadata m flow out : Action OnFiles _).on fs = (r, fs')) :
    Records m flow out dir fs r fs' := by
  delta writeMetadata at h
  simp only [hdir, on_bind, on_makeDirs, on_requires] at h
  rcases hmake : fs.makeDirs dir with ⟨made, worked⟩
  rw [hmake] at h
  cases worked with
  | false =>
    cases h
    exact .unmade hmake
  | true =>
    simp only [if_true, on_writeFile] at h
    cases hwrite : made.writeFile? (metadataPath out flow) m.document.toUTF8 with
    | none =>
      rw [hwrite] at h
      cases h
      exact .unwritten hmake hwrite
    | some written =>
      rw [hwrite] at h
      cases h
      exact .finished hmake hwrite

/-! ## Compiling -/

theorem compiles_on {dir : String} {r : Except Failure Compilation}
    (hdir : Path.parent? (metadataPath out flow) = some dir)
    (h : (writeDocuments m flow out : Action OnFiles _).on fs = (r, fs')) :
    Compiles m flow out dir fs r fs' := by
  rw [writeDocuments, on_bind] at h
  rcases hbatch : (generateSources m .batch flow out : Action OnFiles _).on fs with ⟨batch, fs₁⟩
  rw [hbatch] at h
  cases batch with
  | error e =>
    cases h
    exact .noBatch (generates_on hbatch)
  | ok batch =>
    dsimp only at h
    rw [on_bind] at h
    rcases hdatalake : (generateSources m .datalake flow out : Action OnFiles _).on fs₁ with
      ⟨datalake, fs₂⟩
    rw [hdatalake] at h
    cases datalake with
    | error e =>
      cases h
      exact .noDatalake (generates_on hbatch) (generates_on hdatalake)
    | ok datalake =>
      dsimp only at h
      rw [on_bind] at h
      rcases hmetadata : (writeMetadata m flow out : Action OnFiles _).on fs₂ with ⟨metadata, fs₃⟩
      rw [hmetadata] at h
      cases metadata with
      | error e =>
        cases h
        exact .noMetadata (generates_on hbatch) (generates_on hdatalake)
          (records_on hdir hmetadata)
      | ok path =>
        dsimp only at h
        rw [on_pure] at h
        obtain ⟨rfl, rfl⟩ := Prod.mk.inj h
        exact .finished (generates_on hbatch) (generates_on hdatalake)
          (records_on hdir hmetadata)

theorem on_compileMapping {workbook : Option String} :
    (compileMapping workbook flow out config : Action OnFiles _).on fs =
      match mappingIn (workbook.getD (config.workbookPath flow)) flow config
        (fs.readFile (workbook.getD (config.workbookPath flow))) with
      | .ok m => (writeDocuments m (normalFlow flow) out : Action OnFiles _).on fs
      | .error e => (.error e, fs) := on_compileMapping_of_readFile on_readFile

/-- A run either stops with the mapping and leaves all files alone, or it has a mapping and writes
documents. -/
theorem on_compileMapping_cases {workbook : Option String} {dir : String}
    {r : Except Failure Compilation}
    (hdir : Path.parent? (metadataPath out (normalFlow flow)) = some dir)
    (h : (compileMapping workbook flow out config : Action OnFiles _).on fs = (r, fs')) :
    let path := workbook.getD (config.workbookPath flow)
    let checked := mappingIn path flow config (fs.readFile path)
    (∃ e, checked = .error e ∧ r = .error e ∧ fs' = fs) ∨
      ∃ m, checked = .ok m ∧ Compiles m (normalFlow flow) out dir fs r fs' := by
  rw [on_compileMapping] at h
  dsimp only
  generalize mappingIn _ _ _ _ = checked at h ⊢
  cases checked with
  | error e =>
    cases h
    exact .inl ⟨e, rfl, rfl, rfl⟩
  | ok m => exact .inr ⟨m, rfl, compiles_on hdir h⟩

end Action

/-! ## A workbook with one table -/

/-- The parts of a workbook with a single worksheet, which only names its table. -/
def parcelsParts : List (String × ByteArray) :=
  [("xl/workbook.xml", "<w><sheet name=\"Parcels\" id=\"r\"/></w>".toUTF8),
    ("xl/_rels/workbook.xml.rels", "<r><Relationship Id=\"r\" Target=\"s\"/></r>".toUTF8),
    ("xl/s", ("<s><row><c t=\"str\"><v>TYPE</v></c></row>" ++
      "<row><c t=\"str\"><v>#INGESTION</v></c></row><row><c t=\"str\"><v>#CONFIG</v></c></row>" ++
      "<row><c t=\"str\"><v>source_table</v></c><c t=\"str\"><v>parcels</v></c></row></s>").toUTF8)]

/-- The worksheet of that workbook. -/
def parcelsSheet : Worksheet :=
  ⟨"Parcels", [[.text "TYPE"], [.text "#INGESTION"], [.text "#CONFIG"],
    [.text "source_table", .text "parcels"]]⟩

/-- A worksheet that declares a table by settings only. -/
def settingsSheet (title : String) (settings : List (String × String)) : Worksheet :=
  ⟨title, [[.text "TYPE"], [.text "#INGESTION"], [.text "#CONFIG"]] ++
    settings.map fun s => [.text s.1, .text s.2]⟩

/-- That workbook and other files. -/
def parcelsFiles (entries : List (String × FileTree)) : FileSystem :=
  ⟨("parcels.xlsx", .file (Zip.write parcelsParts)) :: entries⟩

theorem storable_parcelsParts : Zip.Storable parcelsParts where
  names := by decide +kernel
  nodup := by decide +kernel
  count := by decide +kernel
  size := by
    rw [Zip.size_write]
    decide +kernel

theorem toOption_worksheetsOf_parcelsParts :
    (worksheetsOf (KeyMap.ofList parcelsParts)).toOption = some [parcelsSheet] := by
  decide +kernel

theorem readFile_parcelsFiles (entries : List (String × FileTree)) :
    (parcelsFiles entries).readFile "parcels.xlsx" = .bytes (Zip.write parcelsParts) := rfl

theorem mappingIn_parcels (path flow : String) (config : Config) :
    mappingIn path flow config (.bytes (Zip.write parcelsParts)) =
      (Mapping.build [parcelsSheet] flow config).mapError .rejected :=
  mappingIn_of_parts (Zip.read_write storable_parcelsParts) toOption_worksheetsOf_parcelsParts

/-- A run on files where that workbook is. -/
theorem on_compileMapping_parcels_of_readFile [FileStore (StateM σ)] {s : σ}
    (h : (readFile "parcels.xlsx" : Action (StateM σ) FileContent).on s =
      (.ok (.bytes (Zip.write parcelsParts)), s)) (flow out : String) (config : Config) :
    (compileMapping (some "parcels.xlsx") flow out config : Action (StateM σ) Compilation).on s =
      match (Mapping.build [parcelsSheet] flow config).mapError Failure.rejected with
      | .ok m => (Action.writeDocuments m (normalFlow flow) out :
        Action (StateM σ) Compilation).on s
      | .error e => (.error e, s) := by
  rw [Action.on_compileMapping_of_readFile h, Option.getD_some, mappingIn_parcels]

theorem on_compileMapping_parcels (entries : List (String × FileTree)) (flow out : String)
    (config : Config) : (compileMapping (some "parcels.xlsx") flow out config :
      Action OnFiles Compilation).on (parcelsFiles entries) =
      match (Mapping.build [parcelsSheet] flow config).mapError Failure.rejected with
      | .ok m => (Action.writeDocuments m (normalFlow flow) out : Action OnFiles Compilation).on
        (parcelsFiles entries)
      | .error e => (.error e, parcelsFiles entries) :=
  on_compileMapping_parcels_of_readFile
    (by rw [Action.on_readFile, readFile_parcelsFiles]) flow out config

end Intake
