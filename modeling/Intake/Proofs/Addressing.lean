import Intake.Proofs.Loading
import Intake.Proofs.Rerun

/-!
# Which files a name of a flow leads to

A run brings the name of its flow into its normal form and writes the documents under that. Later
actions do not: the place of the metadata document is made with the name in lower case, and the
directories of source documents with the name as it is. So another spelling of the flow leads to the
metadata document only where lower-casing gives the normal form
(`location_metadataPath_eq_iff`), and to the source documents only where it is the normal form
(`location_sourcesDir_eq_iff`).

Where the spelling leads to the documents, what has been written is read, and what is written again
is the same: the directories on the way are there (`FileSystem.Makes.nodeAt?_of_isSome`), a file
with the same content is the same file (`FileSystem.sameFiles_of_writeFile?`), and a directory of
source documents that is removed and written again has the same tree
(`sameFiles_of_generates`). The main statement is `compileMapping_addresses`.
-/

namespace Intake

open FileStore Intake.Path

/-- Trees with the same things at every location. -/
def FileSystem.SameFiles (fs fs' : FileSystem) : Prop := ∀ l, fs'.nodeAt? l = fs.nodeAt? l

variable {fs fs' fs'' : FileSystem} {m : Mapping} {kind : SourceKind} {flow out dir path : String}
  {loc l : Location} {t : FileTree}

/-! ## Writing what is there -/

namespace FileSystem

theorem nodeAt?_append_of_at? (h : fs.at? loc = some t) (rest : Location) :
    fs.nodeAt? (loc ++ rest) = t.nodeAt? rest := by
  rw [at?] at h
  rw [nodeAt?, FileTree.nodeAt?, FileTree.at?_append, h]
  rfl

/-- A file that is written with the content it has is the same file. -/
theorem sameFiles_of_writeFile? {content : ByteArray} (h : fs.writeFile? path content = some fs')
    (hfile : fs.nodeAt? (location path) = some (.file content)) : fs.SameFiles fs' := by
  intro l
  have hroom := hasRoom_of_writeFile?_eq_some h
  obtain ⟨-, -, -, -, rfl⟩ := writeFile?_eq_some_iff.1 h
  by_cases hbelow : location path <+: l
  · obtain ⟨rest, rfl⟩ := hbelow
    rw [nodeAt?_place_self hroom, nodeAt?_append_of_at? (nodeAt?_file_iff.1 hfile)]
    rfl
  · exact nodeAt?_place hbelow

end FileSystem

/-- Writing a metadata document that is in place changes nothing. -/
theorem sameFiles_of_records {written : String} (h : Records m flow out dir fs (.ok written) fs')
    (hflow : IsInner flow) (hlower : Text.lower flow = flow)
    (hdir : parent? (metadataPath out flow) = some dir)
    (hread : fs.readFile (metadataPath out flow) = .bytes m.document.toUTF8) :
    fs.SameFiles fs' := by
  obtain ⟨-, hreaches, -, hfile⟩ := FileSystem.readFile_eq_bytes_iff.1 hread
  obtain ⟨-, hstops⟩ := endsPlain_of_parent? hflow hlower hdir
  cases h with
  | @finished made _ hmake hwrite =>
    have hmakes := (FileSystem.makes_makeDirs hmake).1
    have hmade : fs.SameFiles made := fun l =>
      hmakes.nodeAt?_of_isSome fun p hp _ => by simp [hreaches p (hstops hp)]
    intro l
    rw [FileSystem.sameFiles_of_writeFile? hwrite (by rw [hmade, hfile]) l, hmade]

theorem nodeAt?_of_writes_outside {tables : List Table} (h : Writes kind dir tables fs fs')
    (hdocuments : ∀ t ∈ tables, '/' ∉ (t.documentName kind).toList)
    (hl : ¬ location dir <+: l) : fs'.nodeAt? l = fs.nodeAt? l := by
  refine h.invariant (p := fun g => g.nodeAt? l = fs.nodeAt? l) (fun t ht hwrite hg => ?_) rfl
  obtain ⟨-, -, -, -, rfl⟩ := FileSystem.writeFile?_eq_some_iff.1 hwrite
  rw [location_documentPath (hdocuments t ht), FileSystem.nodeAt?_place, hg]
  exact fun hbelow => hl ((List.prefix_append _ _).trans hbelow)

/-- Writing source documents where there are some makes nothing outside of their directory. -/
theorem nodeAt?_of_generates_outside {r : Except Failure (List String)}
    (h : Generates m kind flow out fs r fs') (hflow : IsInner flow)
    (hdocuments : m.HasPlainDocuments kind)
    (hstops : ∀ p ∈ stops [] (segments (sourcesDir out kind flow)), fs.nodeAt? p = some .dir) :
    ∀ l, ¬ location (sourcesDir out kind flow) <+: l → fs'.nodeAt? l = fs.nodeAt? l := by
  refine h.invariant
    (p := fun g => ∀ l, ¬ location (sourcesDir out kind flow) <+: l → g.nodeAt? l = fs.nodeAt? l)
    (fun hremove _ l hl => ?_) (fun hmake hg l hl => ?_) (fun htables hwrites hg l hl => ?_)
    fun _ _ => rfl
  · rcases FileSystem.removeDir_cases (endsPlain_sourcesDir hflow) hremove with
      ⟨rfl, -⟩ | ⟨-, -, -, -, -, rfl⟩
    · rfl
    · exact FileSystem.nodeAt?_place hl
  · rw [(FileSystem.makes_makeDirs hmake).1.nodeAt?_of_isSome fun p hp hbefore => ?_, hg l hl]
    rw [hg p fun hbelow => hl (hbelow.trans hbefore), hstops p hp]
    rfl
  · rw [nodeAt?_of_writes_outside hwrites (fun t ht => hdocuments t (htables ht)) hl, hg l hl]

/-- Source documents that are in place are written again, and nothing changes. -/
theorem sameFiles_of_generates {r : Except Failure (List String)}
    (h : Generates m kind flow out fs r fs') (hwritable : m.Writable flow out dir)
    (hflow : IsInner flow) (hdocuments : m.HasPlainDocuments kind)
    (haccessible : Accessible fs out flow)
    (htree : fs.tree? (sourcesDir out kind flow) = some (m.sourceTree kind)) :
    r = .ok (m.sourcePaths kind out flow) ∧ fs.SameFiles fs' := by
  obtain ⟨paths, rfl⟩ := exists_paths_of_generates h hwritable hflow hdocuments
    (haccessible.outside kind) htree
  have htree' := sourceTree_of_generates h hflow hdocuments (haccessible.outside kind)
    fun hmissing => by simp [FileSystem.tree?, hmissing] at htree
  refine ⟨by rw [eq_sourcePaths_of_generates h], fun l => ?_⟩
  by_cases hbelow : location (sourcesDir out kind flow) <+: l
  · obtain ⟨rest, rfl⟩ := hbelow
    obtain ⟨-, -, hat⟩ := FileSystem.tree?_eq_some_iff.1 htree
    obtain ⟨-, -, hat'⟩ := FileSystem.tree?_eq_some_iff.1 htree'
    rw [FileSystem.nodeAt?_append_of_at? hat, FileSystem.nodeAt?_append_of_at? hat']
  · exact nodeAt?_of_generates_outside h hflow hdocuments (FileSystem.stops_of_tree? htree) l hbelow

/-! ## Spellings of a flow -/

theorem Text.mem_trim_iff {s : String} {c : Char} (hc : Text.isBlank c = false) :
    c ∈ (Text.trim s).toList ↔ c ∈ s.toList := by
  obtain ⟨as, bs, hs, has, hbs⟩ := Text.exists_eq_append_stripEnds Text.isBlank s.toList
  have hnot : c ∉ as ∧ c ∉ bs :=
    ⟨fun h => by simp [has c h] at hc, fun h => by simp [hbs c h] at hc⟩
  rw [hs, Text.toList_trim]
  simp [hnot]

/-- A name of a flow with a plain normal form is plain, and so is it in lower case. -/
theorem isPlain_of_isPlain_normalFlow (h : IsPlain (normalFlow flow)) :
    IsPlain flow ∧ '/' ∉ (Text.lower flow).toList := by
  have hslash : '/' ∉ flow.toList := by
    have hnormal := h.no_slash
    rwa [normalFlow, Text.mem_lower_iff (by decide), Text.mem_trim_iff (by decide)] at hnormal
  have hnot : ∀ name ∈ ["", ".", ".."], ¬ IsPlain (normalFlow name) := by decide +kernel
  have hne : ∀ name ∈ ["", ".", ".."], flow ≠ name := by
    rintro name hname rfl
    exact hnot flow hname h
  refine ⟨⟨⟨hne "" (by simp), hslash⟩, hne "." (by simp), hne ".." (by simp)⟩, ?_⟩
  rwa [Text.mem_lower_iff (by decide)]

theorem location_metadataPath (out : String) (h : '/' ∉ (Text.lower flow).toList) :
    location (metadataPath out flow) =
      location out ++ ["flows", Text.lower flow ++ ".cfg.json"] := by
  have hflows : IsPlain "flows" := by decide +kernel
  have hname : IsName (Text.lower flow ++ ".cfg.json") := isName_cfgJson.append h
  refine location_eq_append ?_ ?_
  · rw [metadataPath, segments_join_of_isName hname, segments_join_of_isName hflows.toIsName]
    simp
  · simpa using ⟨hflows, hname.isPlain (by decide)⟩

/-- The metadata document is found under a spelling of a flow exactly when lower-casing gives the
normal form. -/
theorem location_metadataPath_eq_iff (out : String) (h : IsPlain (normalFlow flow)) :
    location (metadataPath out flow) = location (metadataPath out (normalFlow flow)) ↔
      Text.lower flow = normalFlow flow := by
  have hnormal : '/' ∉ (Text.lower (normalFlow flow)).toList := by
    rw [lower_normalFlow]
    exact h.no_slash
  rw [location_metadataPath out (isPlain_of_isPlain_normalFlow h).2,
    location_metadataPath out hnormal, lower_normalFlow, ← String.toList_inj]
  simp [← String.toList_inj]

/-- The directories of source documents are found only under the normal form of a flow. -/
theorem location_sourcesDir_eq_iff (out : String) (kind : SourceKind)
    (h : IsPlain (normalFlow flow)) :
    location (sourcesDir out kind flow) = location (sourcesDir out kind (normalFlow flow)) ↔
      flow = normalFlow flow := by
  have hflow := (isPlain_of_isPlain_normalFlow h).1
  rw [location_sourcesDir hflow.isInner, location_sourcesDir h.isInner,
    segments_of_isName hflow.toIsName, segments_of_isName h.toIsName]
  simp

theorem writeMetadata_lower (m : Mapping) (flow out : String) :
    (writeMetadata m (Text.lower flow) out : Action OnFiles String) = writeMetadata m flow out := by
  unfold writeMetadata
  rw [metadataPath_lower]

theorem storable_of_mappingIn {path : String} {config : Config} {content : FileContent}
    (h : mappingIn path flow config content = .ok m) : m.Storable := by
  cases content with
  | bytes content =>
    obtain ⟨sheets, -, hbuild⟩ := bind_eq_ok_iff.1 h
    exact Mapping.storable_of_build (mapError_eq_ok_iff.1 hbuild)
  | directory => cases h
  | nothing => cases h

/-- A run that succeeds ends with writing the metadata document. -/
theorem metadata_of_compiles {c : Compilation} (h : Compiles m flow out dir fs (.ok c) fs') :
    c.mapping = m ∧ c.metadataPath = metadataPath out flow ∧
      fs'.readFile (metadataPath out flow) = .bytes m.document.toUTF8 := by
  cases h with
  | finished _ _ hrecords =>
    obtain ⟨hwritten, hread⟩ := readFile_of_records hrecords
    exact ⟨rfl, hwritten, hread⟩

/-- Which files the spellings of a flow lead to after a run that succeeds. Its metadata document is
found when lower-casing the spelling gives the normal form of the flow, and its source documents
only under the normal form itself.

Where the metadata document is found, loading it gives the mapping of the run, provided that its
numbers read back, and writing it again succeeds and changes nothing. Where the source documents are
found too, the same holds of them if their names have no slashes and the output directory is
accessible. -/
theorem compileMapping_addresses {workbook : Option String} {config : Config} {c : Compilation}
    (hflow : IsPlain (normalFlow flow))
    (hrun : (compileMapping workbook flow out config : Action OnFiles Compilation).on fs =
      (.ok c, fs')) :
    (location (metadataPath out flow) = location c.metadataPath ↔
      Text.lower flow = normalFlow flow) ∧
    (∀ kind, location (sourcesDir out kind flow) =
      location (sourcesDir out kind (normalFlow flow)) ↔ flow = normalFlow flow) ∧
    (Text.lower flow = normalFlow flow →
      (c.mapping.FloatsReadBack →
        (loadMapping out flow [] : Action OnFiles Mapping).on fs' = (.ok c.mapping, fs')) ∧
      ∃ fs'', (writeMetadata c.mapping flow out : Action OnFiles String).on fs' =
        (.ok c.metadataPath, fs'') ∧ fs'.SameFiles fs'') ∧
    (flow = normalFlow flow → (∀ kind, c.mapping.HasPlainDocuments kind) →
      Accessible fs out flow →
      c.sourcePaths = c.mapping.sourcePaths .batch out flow ++
        c.mapping.sourcePaths .datalake out flow ∧
      ∀ kind, ∃ fs'', (generateSources c.mapping kind flow out : Action OnFiles _).on fs' =
        (.ok (c.mapping.sourcePaths kind out flow), fs'') ∧ fs'.SameFiles fs'') := by
  have hinner := hflow.isInner
  have hlower := lower_normalFlow flow
  obtain ⟨dir, hdir⟩ := parent?_metadataPath out (normalFlow flow)
  rcases Action.on_compileMapping_cases hdir hrun with ⟨e, -, he, -⟩ | ⟨m, hm, hcompiles⟩
  · cases he
  have hwritable := writable_of_compiles hcompiles hinner hlower hdir
  obtain ⟨hmapping, hpath, hread⟩ := metadata_of_compiles hcompiles
  rw [hmapping, hpath]
  refine ⟨location_metadataPath_eq_iff out hflow, fun kind => location_sourcesDir_eq_iff out kind
    hflow, fun hsame => ⟨fun hfloats => ?_, ?_⟩, fun hsame hdocuments haccessible => ?_⟩
  · rw [← hsame, metadataPath_lower] at hread
    exact on_loadMapping_of_stored [] (storable_of_mappingIn hm) hfloats hread
  · rw [← writeMetadata_lower, hsame]
    rcases hwrite : (writeMetadata m (normalFlow flow) out : Action OnFiles String).on fs' with
      ⟨r, fs''⟩
    have hrecords := Action.records_on hdir hwrite
    obtain ⟨written, rfl⟩ := exists_path_of_records hrecords hwritable hinner hlower hdir hread
    rw [(readFile_of_records hrecords).1]
    exact ⟨fs'', rfl, sameFiles_of_records hrecords hinner hlower hdir hread⟩
  · rw [← hsame] at hinner hlower hdir hcompiles hwritable
    obtain ⟨hplace, -, -, hpaths⟩ :=
      inPlace_of_compiles hcompiles hdir hinner hlower hdocuments haccessible
    refine ⟨hpaths, fun kind => ?_⟩
    rcases hgenerate : (generateSources m kind flow out : Action OnFiles _).on fs' with ⟨r, fs''⟩
    obtain ⟨rfl, hfiles⟩ := sameFiles_of_generates (Action.generates_on hgenerate) hwritable hinner
      (hdocuments kind) (haccessible.of_inPlace hplace) (hplace.sources kind)
    exact ⟨fs'', rfl, hfiles⟩

/-- A workbook and no other files. -/
def newFiles : FileSystem := parcelsFiles []

theorem compileMapping_addresses_parcels : ∃ c fs',
    (compileMapping (some "parcels.xlsx") "sales" "out" {} : Action OnFiles Compilation).on
      newFiles = (.ok c, fs') ∧
    c.mapping.names = ["sales_parcels"] ∧
    (loadMapping "out" "sales" [] : Action OnFiles Mapping).on fs' = (.ok c.mapping, fs') ∧
    (∃ fs'', (writeMetadata c.mapping "sales" "out" : Action OnFiles String).on fs' =
      (.ok c.metadataPath, fs'') ∧ fs'.SameFiles fs'') ∧
    ∀ kind, ∃ fs'', (generateSources c.mapping kind "sales" "out" : Action OnFiles _).on fs' =
      (.ok (c.mapping.sourcePaths kind "out" "sales"), fs'') ∧ fs'.SameFiles fs'' := by
  have hok : ((compileMapping (some "parcels.xlsx") "sales" "out" {} :
      Action OnFiles Compilation).on newFiles).1.toOption.map (fun c => (c.mapping.names,
        decide (c.mapping.FloatsReadBack ∧ ∀ kind, c.mapping.HasPlainDocuments kind))) =
      some (["sales_parcels"], true) := by
    rw [newFiles, on_compileMapping_parcels]
    decide +kernel
  obtain ⟨c, fs', hrun, hfacts⟩ := Action.exists_on_of_toOption_map hok
  obtain ⟨hnames, hfacts⟩ := Prod.mk.inj hfacts
  obtain ⟨hfloats, hdocuments⟩ := of_decide_eq_true hfacts
  have hflow : IsPlain (normalFlow "sales") := by decide +kernel
  have hsame : "sales" = normalFlow "sales" := by decide +kernel
  have hlower : Text.lower "sales" = normalFlow "sales" := by decide +kernel
  have hinner : IsInner "sales" := by
    rw [hsame]
    exact hflow.isInner
  have hout : ∀ name ∈ segments "out", name ≠ ".." := by decide +kernel
  obtain ⟨-, -, hmetadata, hsources⟩ := compileMapping_addresses hflow hrun
  exact ⟨c, fs', hrun, hnames, (hmetadata hlower).1 hfloats, (hmetadata hlower).2,
    (hsources hsame hdocuments (accessible_of_forall_ne hinner hout)).2⟩

/-- With a blank in front of it, a flow is compiled as the flow without the blank, but its metadata
document is not found, and its source documents go to another directory. -/
theorem spellings_apart : ∃ c fs' fs'',
    (compileMapping (some "parcels.xlsx") " Sales" "out" {} : Action OnFiles Compilation).on
      newFiles = (.ok c, fs') ∧
    IsPlain (normalFlow " Sales") ∧ c.mapping.FloatsReadBack ∧
    c.metadataPath = "out/flows/sales.cfg.json" ∧
    c.sourcePaths = ["out/models/sources/batch/sales/__sales_parcels.yml",
      "out/models/sources/datalake/sales/__sales_parcels.yml"] ∧
    (loadMapping "out" " Sales" [] : Action OnFiles Mapping).on fs' =
      (.error (.metadataUnreadable "out/flows/ sales.cfg.json"), fs') ∧
    (generateSources c.mapping .batch " Sales" "out" : Action OnFiles _).on fs' =
      (.ok ["out/models/sources/batch/ Sales/__sales_parcels.yml"], fs'') := by
  have hok : let run := (compileMapping (some "parcels.xlsx") " Sales" "out" {} :
        Action OnFiles Compilation).on newFiles
      run.1.toOption.map (fun c => (decide c.mapping.FloatsReadBack, c.metadataPath, c.sourcePaths,
        ((generateSources c.mapping .batch " Sales" "out" : Action OnFiles _).on
          run.2).1.toOption)) =
        some (true, "out/flows/sales.cfg.json",
          ["out/models/sources/batch/sales/__sales_parcels.yml",
            "out/models/sources/datalake/sales/__sales_parcels.yml"],
          some ["out/models/sources/batch/ Sales/__sales_parcels.yml"]) ∧
      ((loadMapping "out" " Sales" [] : Action OnFiles Mapping).on run.2).1 =
        .error (.metadataUnreadable "out/flows/ sales.cfg.json") := by
    rw [newFiles, on_compileMapping_parcels]
    decide +kernel
  obtain ⟨hfacts, hload⟩ := hok
  obtain ⟨c, fs', hrun, hfacts⟩ := Action.exists_on_of_toOption_map hfacts
  rw [hrun] at hload hfacts
  obtain ⟨hfloats, hfacts⟩ := Prod.mk.inj hfacts
  obtain ⟨hmetadata, hfacts⟩ := Prod.mk.inj hfacts
  obtain ⟨hsources, hgenerated⟩ := Prod.mk.inj hfacts
  obtain ⟨fs'', hgenerate⟩ := Action.exists_on_of_toOption_eq_some hgenerated
  refine ⟨c, fs', fs'', hrun, by decide +kernel, of_decide_eq_true hfloats, hmetadata, hsources,
    ?_, hgenerate⟩
  rw [Action.on_loadMapping] at hload ⊢
  rw [← hload]

end Intake
