import Intake.Proofs.Generation
import Intake.Proofs.Legible

/-!
# Compiling again

Once the documents of a mapping are in place, writing them again works: the directories are there to
be removed and made, and what could be written once can be written again
(`exists_compilation_of_compiles`). The workbook of the first run is still there, or there is one of
the documents in its place, which is no workbook (`eq_of_mappingIn_readFile`). So a second run,
whether it succeeds or not, leaves all documents as they are (`compileMapping_writes_exactly`).
-/

namespace Intake

open Intake.Path

variable {fs fs' made : FileSystem} {m : Mapping} {kind : SourceKind} {flow out dir : String}

/-! ## Paths that files can be written to -/

/-- A path that a file can be written to where there is a way. -/
def Path.IsWritable (path : String) : Prop := IsValid path ∧ endsWithSlash path = false

/-- Nothing about the names keeps the documents of a mapping from being written. -/
structure Mapping.Writable (m : Mapping) (flow out dir : String) : Prop where
  checked : m.checkDocuments = .ok ()
  sources : ∀ kind, ∀ t ∈ m.tables, IsWritable (t.documentPath kind (sourcesDir out kind flow))
  directory : IsValid dir

theorem isWritable_of_writes {tables : List Table} (h : Writes kind dir tables fs fs') :
    ∀ t ∈ tables, IsWritable (t.documentPath kind dir) := by
  induction h with
  | nil fs => simp
  | cons hwrite _ ih =>
    obtain ⟨hvalid, -, hslash, -⟩ := FileSystem.writeFile?_eq_some_iff.1 hwrite
    exact List.forall_mem_cons.2 ⟨⟨hvalid, hslash⟩, ih⟩

/-- The directory of a metadata document has a plain name. -/
theorem endsPlain_of_parent? (hflow : IsInner flow) (hlower : Text.lower flow = flow)
    (hdir : parent? (metadataPath out flow) = some dir) : EndsPlain dir ∧
      stops [] (segments dir) ⊆ stops [] (segments (metadataPath out flow)).dropLast := by
  obtain ⟨names, last, -, hsegments, hplain⟩ := exists_segments_metadataPath out hflow hlower
  obtain ⟨before, name, hbefore⟩ :=
    (List.eq_nil_or_concat ("flows" :: names)).resolve_left (by simp)
  rw [List.concat_eq_append] at hbefore
  have hname : IsPlain name := by
    refine hplain name ?_
    rw [← List.cons_append, hbefore]
    simp
  have hlast : IsPlain (last ++ ".cfg.json") := hplain _ (by simp)
  have hpath : segments (metadataPath out flow) =
      segments out ++ before ++ [name] ++ [last ++ ".cfg.json"] := by
    rw [hsegments, ← List.cons_append, hbefore]
    simp
  have hparent : segments dir =
      withoutPoints (isAbsolute (metadataPath out flow)) (segments out ++ before ++ [name]) := by
    rw [(segments_of_parent? hdir).2, components_eq, hpath,
      withoutPoints_append_singleton hlast.ne_point, List.dropLast_concat]
  constructor
  · refine ⟨withoutPoints (isAbsolute (metadataPath out flow)) (segments out ++ before), name, ?_,
      hname⟩
    rw [hparent, withoutPoints_append_singleton hname.ne_point]
  · rw [hparent, hpath, List.dropLast_concat]
    exact stops_withoutPoints_subset _

theorem writable_of_compiles {c : Compilation} (h : Compiles m flow out dir fs (.ok c) fs')
    (hflow : IsInner flow) (hlower : Text.lower flow = flow)
    (hdir : parent? (metadataPath out flow) = some dir) : m.Writable flow out dir := by
  cases h with
  | finished hbatch hdatalake hrecords =>
    cases hbatch with
    | finished hcheck _ _ hwrites =>
      cases hdatalake with
      | finished _ _ _ hwrites' =>
        cases hrecords with
        | finished hmake _ =>
          refine ⟨hcheck, fun kind => ?_, ?_⟩
          · cases kind
            exacts [isWritable_of_writes hwrites, isWritable_of_writes hwrites']
          · obtain ⟨hplain, -⟩ := endsPlain_of_parent? hflow hlower hdir
            exact ((FileSystem.makes_makeDirs hmake).2 rfl hplain.ne_empty).1

/-! ## Writing again -/

/-- In a directory of documents there are only these documents. -/
theorem exists_table_of_at? {tables : List Table} {loc rest : Location} {n : FileTree}
    (hdir : fs.at? loc = some (.dir (sourceEntries kind tables))) (hrest : rest ≠ [])
    (hn : fs.at? (loc ++ rest) = some n) : ∃ t ∈ tables, n = .file (t.sourceText kind) := by
  obtain ⟨name, rest, rfl⟩ := List.exists_cons_of_ne_nil hrest
  rw [FileSystem.at?] at hdir hn
  rw [FileTree.at?_append, hdir, Option.bind_some, FileTree.at?, Option.bind_eq_some_iff] at hn
  obtain ⟨x, hlookup, hx⟩ := hn
  have hmem : (name, x) ∈ sourceEntries kind tables := by
    obtain ⟨before, after, heq, -⟩ := List.lookup_eq_some_iff.1 hlookup
    simp [heq]
  obtain ⟨t, ht, heq⟩ := List.mem_map.1 hmem
  obtain ⟨-, rfl⟩ := Prod.mk.inj heq
  cases rest with
  | nil => exact ⟨t, ht, (Option.some.inj hx).symm⟩
  | cons next rest => simp [FileTree.at?] at hx

/-- A document that has a valid path can be written into a directory of documents. -/
theorem writeFile?_documentPath_isSome {t : Table} {tables : List Table} (content : ByteArray)
    (hname : '/' ∉ (t.documentName kind).toList) (hwritable : IsWritable (t.documentPath kind dir))
    (hstops : ∀ l ∈ stops [] (segments dir), fs.nodeAt? l = some .dir)
    (hdir : fs.at? (location dir) = some (.dir (sourceEntries kind tables))) :
    (fs.writeFile? (t.documentPath kind dir) content).isSome := by
  refine FileSystem.writeFile?_isSome content hwritable.1 hwritable.2 (fun l hl => ?_) ?_
  · rw [segments_documentPath hname, List.dropLast_concat] at hl
    exact hstops l hl
  · rw [location_documentPath hname, ne_eq, FileSystem.nodeAt?_dir_iff]
    rintro ⟨entries, hentries⟩
    obtain ⟨t', -, hfile⟩ := exists_table_of_at? hdir (by simp) hentries
    simp at hfile

/-- Source documents that are in place can be written again. -/
theorem exists_paths_of_generates {r : Except Failure (List String)}
    {entries : List (String × FileTree)} (h : Generates m kind flow out fs r fs')
    (hwritable : m.Writable flow out dir) (hflow : IsInner flow)
    (hdocuments : m.HasPlainDocuments kind)
    (houtside : StaysOutside out (location (sourcesDir out kind flow)))
    (ht : fs.tree? (sourcesDir out kind flow) = some (.dir entries)) : ∃ paths, r = .ok paths := by
  have hplain : EndsPlain (sourcesDir out kind flow) := endsPlain_sourcesDir hflow
  obtain ⟨hvalid, hreaches, htree⟩ := FileSystem.tree?_eq_some_iff.1 ht
  have hdir := FileSystem.nodeAt?_dir_iff.2 ⟨_, htree⟩
  obtain ⟨hroom, hremoved⟩ := FileSystem.removeDir_eq hplain hvalid hreaches hdir
  cases h with
  | rejected hcheck => simp [hwritable.checked] at hcheck
  | uncleared _ hremove => simp [hremoved] at hremove
  | unmade _ hremove hmake =>
    rw [hremoved] at hremove
    cases hremove
    have hworked := FileSystem.makeDirs_removeDir_works hplain hvalid hreaches hroom hdir hmake
    simp at hworked
  | @stopped cleared made written done rest t hcheck hremove hmake htables hwrites hfault =>
    have hvisible : fs.Shows (sourcesDir out kind flow) := fun hmissing =>
      absurd hreaches (FileSystem.not_reaches_of_resolve_eq_error hmissing hvalid)
    obtain ⟨-, hreaches', hempty⟩ := at?_made hflow hremove hmake houtside hvisible
    have hdone : ∀ t ∈ done, '/' ∉ (t.documentName kind).toList := fun t ht =>
      hdocuments t (by simp [htables, ht])
    have hnodup : (([] ++ sourceEntries kind done).map Prod.fst).Nodup := by
      have hall := nodup_sourceEntries (nodup_of_checkDocuments hcheck kind)
      rw [htables, sourceEntries, List.map_append, List.map_append] at hall
      exact (List.nodup_append.1 hall).1
    have hwritten := at?_of_writes hwrites hdone hnodup hempty
    have hstops := FileSystem.stops_of_reaches hreaches' (FileSystem.nodeAt?_dir_iff.2 ⟨_, hempty⟩)
    have hsome := writeFile?_documentPath_isSome (t.sourceText kind)
      (hdocuments t (by simp [htables])) (hwritable.sources kind t (by simp [htables]))
      (fun l hl => nodeAt?_dir_of_writes hwrites (hstops l hl)) hwritten
    rw [hfault] at hsome
    simp at hsome
  | finished => exact ⟨_, rfl⟩

/-- A metadata document that is in place can be written again. -/
theorem exists_path_of_records {r : Except Failure String} {content : ByteArray}
    (h : Records m flow out dir fs r fs') (hwritable : m.Writable flow out dir)
    (hflow : IsInner flow) (hlower : Text.lower flow = flow)
    (hdir : parent? (metadataPath out flow) = some dir)
    (hread : fs.readFile (metadataPath out flow) = .bytes content) : ∃ path, r = .ok path := by
  obtain ⟨hvalid, hreaches, hslash, hfile⟩ := FileSystem.readFile_eq_bytes_iff.1 hread
  obtain ⟨⟨names, last, hnames, hlast⟩, hstops⟩ := endsPlain_of_parent? hflow hlower hdir
  cases h with
  | unmade hmake =>
    have hfiles : ∀ l ∈ stops [] (segments dir), ∀ content,
        fs.nodeAt? l ≠ some (.file content) := by
      intro l hl content
      simp [hreaches l (hstops hl)]
    have hworks := FileSystem.makeDirs_works hwritable.directory hfiles
      (by simpa [hnames] using hlast.ne_point)
    simp [hmake] at hworks
  | unwritten hmake hfault =>
    have hmakes := (FileSystem.makes_makeDirs hmake).1
    have hsome := FileSystem.writeFile?_isSome m.document.toUTF8 hvalid hslash
      (fun l hl => hmakes.nodeAt?_eq (hreaches l hl)) (by simp [hmakes.nodeAt?_eq hfile])
    rw [hfault] at hsome
    simp at hsome
  | finished => exact ⟨_, rfl⟩

/-- The metadata document stays while source documents are written. -/
theorem readFile_metadata_of_generates {r : Except Failure (List String)} {content : ByteArray}
    (h : Generates m kind flow out fs r fs') (hflow : IsInner flow)
    (hlower : Text.lower flow = flow) (hdocuments : m.HasPlainDocuments kind)
    (hread : fs.readFile (metadataPath out flow) = .bytes content) :
    fs'.readFile (metadataPath out flow) = .bytes content := by
  obtain ⟨names, last, -, hsegments, hplain⟩ := exists_segments_metadataPath out hflow hlower
  have hbelow := (metadataPath_apart out kind hflow hflow hlower).1
  refine readFile_of_stays hsegments hplain (by simp) (stops_of_generates h hflow)
    (fun l hbefore _ hdir => ?_) (fun hfile => ?_) hread
  · exact nodeAt?_of_generates h hflow hdocuments hdir fun hl => absurd (hl.trans hbefore) hbelow
  · exact nodeAt?_of_generates h hflow hdocuments hfile fun hl => absurd hl hbelow

/-- A run of the mapping whose documents are in place succeeds. -/
theorem exists_compilation_of_compiles {r : Except Failure Compilation}
    (h : Compiles m flow out dir fs r fs') (hplace : m.InPlace flow out fs)
    (hwritable : m.Writable flow out dir) (hflow : IsInner flow) (hlower : Text.lower flow = flow)
    (hdir : parent? (metadataPath out flow) = some dir)
    (hdocuments : ∀ kind, m.HasPlainDocuments kind) (haccessible : Accessible fs out flow) :
    ∃ c, r = .ok c := by
  have hne : SourceKind.batch ≠ .datalake := by decide
  cases h with
  | noBatch hbatch =>
    obtain ⟨paths, hpaths⟩ := exists_paths_of_generates hbatch hwritable hflow (hdocuments _)
      (haccessible.outside _) (hplace.sources _)
    simp at hpaths
  | noDatalake hbatch hdatalake =>
    have htree := tree?_of_generates hbatch hne hflow (hdocuments _) (haccessible.outside _)
      (hplace.sources .datalake)
    obtain ⟨paths, hpaths⟩ := exists_paths_of_generates hdatalake hwritable hflow (hdocuments _)
      (haccessible.outside _) htree
    simp at hpaths
  | noMetadata hbatch hdatalake hrecords =>
    have hread := readFile_metadata_of_generates hbatch hflow hlower (hdocuments _) hplace.metadata
    have hread' := readFile_metadata_of_generates hdatalake hflow hlower (hdocuments _) hread
    obtain ⟨path, hpath⟩ := exists_path_of_records hrecords hwritable hflow hlower hdir hread'
    simp at hpath
  | finished => exact ⟨_, rfl⟩

/-! ## The workbook of a second run -/

variable {config : Config} {workbook : String}

theorem exists_content_of_mappingIn
    (h : mappingIn workbook flow config (fs.readFile workbook) = .ok m) :
    ∃ content, fs.readFile workbook = .bytes content ∧
      fs.nodeAt? (location workbook) = some (.file content) := by
  cases hread : fs.readFile workbook with
  | bytes content => exact ⟨content, rfl, (FileSystem.readFile_eq_bytes_iff.1 hread).2.2.2⟩
  | directory =>
    rw [hread] at h
    cases h
  | nothing =>
    rw [hread] at h
    cases h

/-- There is no mapping in a legible text. -/
theorem mappingIn_of_legible {s : String} (h : Legible s.toList) :
    mappingIn workbook flow config (.bytes s.toUTF8) ≠ .ok m := by
  rw [mappingIn, worksheetsIn_of_legible h]
  simp [Except.bind]

/-- In the place of a workbook that is read again there are no documents. -/
theorem eq_of_mappingIn_readFile {m' : Mapping} {c : Compilation} {name : String}
    (h : Compiles m flow out dir fs (.ok c) fs') (hplace : m.InPlace flow out fs')
    (hflow : IsInner flow) (hdocuments : ∀ kind, m.HasPlainDocuments kind)
    (hm : mappingIn workbook name config (fs.readFile workbook) = .ok m)
    (hm' : mappingIn workbook name config (fs'.readFile workbook) = .ok m') : m' = m := by
  obtain ⟨content, hread, hfile⟩ := exists_content_of_mappingIn hm
  obtain ⟨content', hread', hfile'⟩ := exists_content_of_mappingIn hm'
  rw [hread] at hm
  rw [hread'] at hm'
  have hsources : ∀ kind, ¬ location (sourcesDir out kind flow) <+: location workbook := by
    rintro kind ⟨rest, hrest⟩
    obtain ⟨-, -, htree⟩ := FileSystem.tree?_eq_some_iff.1 (hplace.sources kind)
    rw [← hrest, FileSystem.nodeAt?_file_iff] at hfile'
    have hne : rest ≠ [] := by
      rintro rfl
      rw [List.append_nil, htree, Mapping.sourceTree] at hfile'
      simp at hfile'
    obtain ⟨t, -, ht⟩ := exists_table_of_at? htree hne hfile'
    obtain rfl := FileTree.file.inj ht
    exact mappingIn_of_legible (Yaml.Tree.legible_write _) hm'
  have hmetadata : location (metadataPath out flow) ≠ location workbook := by
    intro heq
    obtain ⟨-, -, -, hdocument⟩ := FileSystem.readFile_eq_bytes_iff.1 hplace.metadata
    rw [heq, hfile'] at hdocument
    obtain rfl := FileTree.Node.file.inj (Option.some.inj hdocument)
    exact mappingIn_of_legible m.legible_document hm'
  have hstays := nodeAt?_of_compiles h hflow hdocuments hfile
    (fun kind hbelow => absurd hbelow (hsources kind)) (.inl hmetadata)
  rw [hfile'] at hstays
  obtain rfl := FileTree.Node.file.inj (Option.some.inj hstays)
  rw [hm] at hm'
  exact (Except.ok.inj hm').symm

/-! ## Runs -/

theorem Accessible.of_inPlace (h : Accessible fs out flow) (hplace : m.InPlace flow out fs') :
    Accessible fs' out flow where
  outside := h.outside
  visible hmissing := by
    have htree := hplace.sources .batch
    simp [FileSystem.tree?, hmissing] at htree

/-- Compiling the flow again with the same workbook and configuration leaves the documents in
place. -/
theorem inPlace_of_compileMapping_again {workbook : Option String} {fs'' : FileSystem}
    {c : Compilation} {r : Except Failure Compilation} (hflow : IsInner (normalFlow flow))
    (hdir : parent? (metadataPath out (normalFlow flow)) = some dir)
    (hdocuments : ∀ kind, m.HasPlainDocuments kind)
    (haccessible : Accessible fs out (normalFlow flow))
    (hm : mappingIn (workbook.getD (config.workbookPath flow)) flow config
      (fs.readFile (workbook.getD (config.workbookPath flow))) = .ok m)
    (hcompiles : Compiles m (normalFlow flow) out dir fs (.ok c) fs')
    (hplace : m.InPlace (normalFlow flow) out fs')
    (hrun : (compileMapping workbook flow out config : Action OnFiles Compilation).on fs' =
      (r, fs'')) : m.InPlace (normalFlow flow) out fs'' := by
  have hlower := lower_normalFlow flow
  rcases Action.on_compileMapping_cases hdir hrun with ⟨-, -, -, rfl⟩ | ⟨m', hm', hcompiles'⟩
  · exact hplace
  · obtain rfl := eq_of_mappingIn_readFile hcompiles hplace hflow hdocuments hm hm'
    have haccessible' := haccessible.of_inPlace hplace
    have hwritable := writable_of_compiles hcompiles hflow hlower hdir
    obtain ⟨c', rfl⟩ := exists_compilation_of_compiles hcompiles' hplace hwritable hflow hlower hdir
      hdocuments haccessible'
    exact (inPlace_of_compiles hcompiles' hdir hflow hlower hdocuments haccessible').1

/-- A workbook, and an old document with a directory beside it where new documents go. -/
def staleFiles : FileSystem :=
  parcelsFiles [("out", .dir [("models", .dir [("sources", .dir [("batch", .dir [("sales", .dir
    [("orders.yml", .file "name: orders\n".toUTF8), ("drafts", .dir [])])])])])])]

/-- The names of the tables of a compilation, and whether their documents have plain names. -/
def compiledNames (r : Except Failure Compilation) : Option (List String × Bool) :=
  r.toOption.map fun c => (c.mapping.names, decide (∀ kind, c.mapping.HasPlainDocuments kind))

theorem exists_of_compiledNames {action : Action OnFiles Compilation} {names : List String}
    (h : compiledNames (action.on fs).1 = some (names, true)) : ∃ c fs',
      action.on fs = (.ok c, fs') ∧ c.mapping.names = names ∧
        ∀ kind, c.mapping.HasPlainDocuments kind := by
  obtain ⟨c, fs', hrun, hfacts⟩ := Action.exists_on_of_toOption_map h
  rw [Prod.mk.injEq, decide_eq_true_eq] at hfacts
  exact ⟨c, fs', hrun, hfacts.1, hfacts.2⟩

/-- A workbook, and the directories of documents that are still to be written. -/
def emptyFiles : FileSystem :=
  parcelsFiles [("flows", .dir []), ("models", .dir [("sources", .dir
    [("batch", .dir [("f", .dir [])]), ("datalake", .dir [("f", .dir [])])])])]

theorem compiledNames_emptyFiles :
    let run := (compileMapping (some "parcels.xlsx") "f" "models/sources/batch/f/x/../../../../.."
      {} : Action OnFiles Compilation).on emptyFiles
    (compiledNames run.1, (run.2.at? ["models", "sources", "batch", "f", "x"]).any FileTree.isDir) =
      (some (["f_parcels"], true), true) := by
  rw [emptyFiles, on_compileMapping_parcels]
  decide +kernel

end Intake
