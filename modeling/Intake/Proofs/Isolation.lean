import Intake.Proofs.Directories
import Intake.Proofs.Run

/-!
# What compiling a flow leaves alone

Writing the documents of a flow changes nothing but what is in its directories of source documents
and its metadata document (`nodeAt?_of_compiles`), provided that the flow has plain names and no
document has a slash in its name. The way to everything else stays open: a directory that is taken
away with the documents in it, although the path of the output directory passes it, is made again
(`stops_of_generates`). So the documents of another flow that is not inside of it are read as
before, whether the run succeeds or not (`readFile_of_compileMapping`).
-/

namespace Intake

open Intake.Path

variable {fs fs' : FileSystem} {l : Location} {m : Mapping} {kind : SourceKind}
  {flow out dir path : String} {n : FileTree.Node}

/-! ## Single operations -/

namespace FileSystem

/-- Removing a directory changes nothing outside of it. -/
theorem nodeAt?_removeDir {worked : Bool} (hplain : EndsPlain path)
    (h : fs.removeDir path = (fs', worked)) (hn : fs.nodeAt? l = some n)
    (houtside : location path <+: l → location path = l ∧ n ≠ .dir) :
    fs'.nodeAt? l = some n := by
  rcases removeDir_cases hplain h with ⟨rfl, -⟩ | ⟨-, -, -, -, hdir, rfl⟩
  · exact hn
  · rw [nodeAt?_place, hn]
    intro hbelow
    obtain ⟨rfl, hne⟩ := houtside hbelow
    rw [hn] at hdir
    exact hne (Option.some.inj hdir)

/-- A directory that has been removed can be made again, even if its path passes through it. -/
theorem makeDirs_removeDir_works {made : FileSystem} {worked : Bool} (hplain : EndsPlain path)
    (hvalid : IsValid path) (hreaches : fs.Reaches path) (hroom : fs.HasRoom (location path))
    (hdir : fs.nodeAt? (location path) = some .dir)
    (hmake : (fs.place (location path) none).makeDirs path = (made, worked)) : worked = true := by
  obtain ⟨names, last, hnames, hlast⟩ := hplain
  have hfiles : ∀ l ∈ stops [] (segments path), ∀ content,
      (fs.place (location path) none).nodeAt? l ≠ some (.file content) := by
    intro l hl content hfile
    have hbefore := file_of_file_place hroom (by simp) hfile
    rw [stops_of_reaches hreaches hdir l hl] at hbefore
    simp at hbefore
  have hworks := makeDirs_works hvalid hfiles (by simpa [hnames] using hlast.ne_point)
  rwa [hmake] at hworks

end FileSystem

/-! ## Source documents -/

/-- Document names of a kind that are no paths. -/
def Mapping.HasPlainDocuments (m : Mapping) (kind : SourceKind) : Prop :=
  ∀ t ∈ m.tables, '/' ∉ (t.documentName kind).toList

instance (m : Mapping) (kind : SourceKind) : Decidable (m.HasPlainDocuments kind) :=
  List.decidableBAll _ m.tables

theorem nodeAt?_of_writes {tables : List Table} (h : Writes kind dir tables fs fs')
    (hdocuments : ∀ t ∈ tables, '/' ∉ (t.documentName kind).toList)
    (hn : fs.nodeAt? l = some n) (houtside : location dir <+: l → location dir = l) :
    fs'.nodeAt? l = some n := by
  refine h.invariant (p := fun fs => fs.nodeAt? l = some n) (fun t ht hwrite hn => ?_) hn
  refine FileSystem.nodeAt?_writeFile? hwrite hn (.inl ?_)
  rw [location_documentPath (hdocuments t ht)]
  rintro rfl
  simpa using houtside (List.prefix_append _ _)

theorem nodeAt?_dir_of_writes {tables : List Table} (h : Writes kind dir tables fs fs')
    (hn : fs.nodeAt? l = some .dir) : fs'.nodeAt? l = some .dir :=
  h.invariant (p := fun fs => fs.nodeAt? l = some .dir)
    (fun _ _ hwrite hn => FileSystem.nodeAt?_writeFile? hwrite hn (.inr rfl)) hn

/-- Writing the source documents of a flow changes nothing outside of their directory. -/
theorem nodeAt?_of_generates {r : Except Failure (List String)}
    (h : Generates m kind flow out fs r fs') (hflow : IsInner flow)
    (hdocuments : m.HasPlainDocuments kind) (hn : fs.nodeAt? l = some n)
    (houtside : location (sourcesDir out kind flow) <+: l →
      location (sourcesDir out kind flow) = l ∧ n ≠ .dir) : fs'.nodeAt? l = some n := by
  refine h.invariant (p := fun fs => fs.nodeAt? l = some n) (fun hremove hn => ?_)
    (fun hmake hn => ?_) (fun htables hwrites hn => ?_) hn
  · exact FileSystem.nodeAt?_removeDir (endsPlain_sourcesDir hflow) hremove hn houtside
  · exact (FileSystem.makes_makeDirs hmake).1.nodeAt?_eq hn
  · exact nodeAt?_of_writes hwrites (fun t ht => hdocuments t (htables ht)) hn
      fun hbelow => (houtside hbelow).1

/-- The way to the output directory stays open. -/
theorem stops_of_generates {r : Except Failure (List String)}
    (h : Generates m kind flow out fs r fs') (hflow : IsInner flow)
    (hstops : ∀ l ∈ stops [] (segments out), fs.nodeAt? l = some .dir) :
    ∀ l ∈ stops [] (segments out), fs'.nodeAt? l = some .dir := by
  have hplain : EndsPlain (sourcesDir out kind flow) := endsPlain_sourcesDir hflow
  have hmade : ∀ {cleared made worked worked'},
      fs.removeDir (sourcesDir out kind flow) = (cleared, worked) →
        cleared.makeDirs (sourcesDir out kind flow) = (made, worked') →
          ∀ l ∈ stops [] (segments out), made.nodeAt? l = some .dir := by
    intro cleared made worked worked' hremove hmake l hl
    obtain ⟨hmakes, hworks⟩ := FileSystem.makes_makeDirs hmake
    rcases FileSystem.removeDir_cases hplain hremove with
      ⟨rfl, -⟩ | ⟨-, hvalid, hreaches, hroom, hdir, rfl⟩
    · exact hmakes.nodeAt?_eq (hstops l hl)
    · obtain ⟨-, hreaches', hdir'⟩ := hworks
        (FileSystem.makeDirs_removeDir_works hplain hvalid hreaches hroom hdir hmake)
        hplain.ne_empty
      exact FileSystem.stops_of_reaches hreaches' hdir' l (stops_subset_sourcesDir hflow hl)
  intro l hl
  cases h with
  | rejected => exact hstops l hl
  | uncleared _ hremove =>
    rcases FileSystem.removeDir_cases hplain hremove with ⟨rfl, -⟩ | ⟨hworked, -⟩
    · exact hstops l hl
    · simp at hworked
  | unmade _ hremove hmake => exact hmade hremove hmake l hl
  | stopped _ hremove hmake _ hwrites =>
    exact nodeAt?_dir_of_writes hwrites (hmade hremove hmake l hl)
  | finished _ hremove hmake hwrites =>
    exact nodeAt?_dir_of_writes hwrites (hmade hremove hmake l hl)

/-! ## All documents of a flow -/

/-- Writing the metadata document of a flow changes nothing else. -/
theorem nodeAt?_of_records {r : Except Failure String} (h : Records m flow out dir fs r fs')
    (hn : fs.nodeAt? l = some n) (hne : location (metadataPath out flow) ≠ l ∨ n = .dir) :
    fs'.nodeAt? l = some n := by
  cases h with
  | unmade hmake => exact (FileSystem.makes_makeDirs hmake).1.nodeAt?_eq hn
  | unwritten hmake => exact (FileSystem.makes_makeDirs hmake).1.nodeAt?_eq hn
  | finished hmake hwrite =>
    have hmade := (FileSystem.makes_makeDirs hmake).1.nodeAt?_eq hn
    exact FileSystem.nodeAt?_writeFile? hwrite hmade hne

/-- Writing the documents of a flow changes nothing but its metadata document and what is in its
directories of source documents. -/
theorem nodeAt?_of_compiles {r : Except Failure Compilation}
    (h : Compiles m flow out dir fs r fs') (hflow : IsInner flow)
    (hdocuments : ∀ kind, m.HasPlainDocuments kind) (hn : fs.nodeAt? l = some n)
    (hsources : ∀ kind, location (sourcesDir out kind flow) <+: l →
      location (sourcesDir out kind flow) = l ∧ n ≠ .dir)
    (hmetadata : location (metadataPath out flow) ≠ l ∨ n = .dir) : fs'.nodeAt? l = some n := by
  refine h.invariant (p := fun fs => fs.nodeAt? l = some n) (fun hgenerates hn => ?_)
    (fun hrecords hn => ?_) hn
  · exact nodeAt?_of_generates hgenerates hflow (hdocuments _) hn (hsources _)
  · exact nodeAt?_of_records hrecords hn hmetadata

/-- The way to the output directory stays open. -/
theorem stops_of_compiles {r : Except Failure Compilation}
    (h : Compiles m flow out dir fs r fs') (hflow : IsInner flow)
    (hstops : ∀ l ∈ stops [] (segments out), fs.nodeAt? l = some .dir) :
    ∀ l ∈ stops [] (segments out), fs'.nodeAt? l = some .dir := by
  refine h.invariant (p := fun fs => ∀ l ∈ stops [] (segments out), fs.nodeAt? l = some .dir)
    (fun hgenerates hstops => stops_of_generates hgenerates hflow hstops)
    (fun hrecords hstops l hl => ?_) hstops
  exact nodeAt?_of_records hrecords (hstops l hl) (.inr rfl)

/-- A file in the output directory is read as before when it stays, and with it the way to the
output directory and the directories between that and the file. -/
theorem readFile_of_stays {content : ByteArray} {names : List String}
    (hpath : segments path = segments out ++ names) (hnames : ∀ name ∈ names, IsPlain name)
    (hne : names ≠ [])
    (hout : (∀ l ∈ stops [] (segments out), fs.nodeAt? l = some .dir) →
      ∀ l ∈ stops [] (segments out), fs'.nodeAt? l = some .dir)
    (hway : ∀ l, l <+: location path → l.length < (location path).length →
      fs.nodeAt? l = some .dir → fs'.nodeAt? l = some .dir)
    (hfile : fs.nodeAt? (location path) = some (.file content) →
      fs'.nodeAt? (location path) = some (.file content))
    (hread : fs.readFile path = .bytes content) : fs'.readFile path = .bytes content := by
  obtain ⟨hvalid, hreaches, hslash, hnode⟩ := FileSystem.readFile_eq_bytes_iff.1 hread
  have hlocation := location_eq_append hpath hnames
  have hstops : stops [] (segments path).dropLast =
      stops [] (segments out) ++ stops (location out) names.dropLast := by
    rw [hpath, List.dropLast_append_of_ne_nil hne, stops_append]
    rfl
  refine FileSystem.readFile_eq_bytes_iff.2 ⟨hvalid, fun l hl => ?_, hslash, hfile hnode⟩
  rw [hstops, List.mem_append] at hl
  rcases hl with hl | hl
  · exact hout (fun l hl => hreaches l (hstops ▸ List.mem_append_left _ hl)) l hl
  · have hbefore := (prefix_of_mem_stops (fun name hname =>
      hnames name ((List.dropLast_sublist _).subset hname)) hl).1
    refine hway l ?_ ?_ (hreaches l (hstops ▸ List.mem_append_right _ hl))
    · rw [hlocation]
      exact hbefore.trans ((List.prefix_append_right_inj _).2 (List.dropLast_prefix names))
    · have hlong := hbefore.length_le
      have hpos := List.length_pos_of_ne_nil hne
      rw [List.length_append, List.length_dropLast] at hlong
      rw [hlocation, List.length_append]
      omega

/-- A file in the output directory that is neither in a directory of source documents of the flow
nor its metadata document is read as before. -/
theorem readFile_of_compiles {r : Except Failure Compilation} {content : ByteArray}
    {names : List String} (h : Compiles m flow out dir fs r fs') (hflow : IsInner flow)
    (hdocuments : ∀ kind, m.HasPlainDocuments kind)
    (hpath : segments path = segments out ++ names) (hnames : ∀ name ∈ names, IsPlain name)
    (hsources : ∀ kind, location (sourcesDir out kind flow) <+: location path →
      location (sourcesDir out kind flow) = location path)
    (hmetadata : location (metadataPath out flow) ≠ location path) (hne : names ≠ [])
    (hread : fs.readFile path = .bytes content) : fs'.readFile path = .bytes content := by
  refine readFile_of_stays hpath hnames hne (stops_of_compiles h hflow)
    (fun l hbefore hshort hdir => ?_) (fun hfile => ?_) hread
  · -- The directories of the flow are not around one that is shorter than the path.
    refine nodeAt?_of_compiles h hflow hdocuments hdir (fun kind hbelow => absurd hshort ?_)
      (.inr rfl)
    have hlong := hbelow.length_le
    rw [hsources kind (hbelow.trans hbefore)] at hlong
    exact Nat.not_lt.2 hlong
  · exact nodeAt?_of_compiles h hflow hdocuments hfile
      (fun kind hbelow => ⟨hsources kind hbelow, by simp⟩) (.inl hmetadata)

/-! ## Documents of other flows -/

/-- A file generated for a flow: its metadata document, or a document directly in one of its
directories of source documents. -/
inductive IsDocumentOf (out flow : String) : String → Prop
  | metadata : IsDocumentOf out flow (metadataPath out flow)
  | source (kind : SourceKind) {name : String} (hname : '/' ∉ name.toList) :
    IsDocumentOf out flow (join (sourcesDir out kind flow) (name ++ ".yml"))

section

variable {other : String}

theorem metadataPath_ne (hflow : IsInner flow) (hlower : Text.lower flow = flow)
    (hother : IsInner other) (hlower' : Text.lower other = other)
    (hne : segments flow ≠ segments other) :
    location (metadataPath out flow) ≠ location (metadataPath out other) := by
  obtain ⟨names, last, hflowNames, hsegments, hplain⟩ :=
    exists_segments_metadataPath out hflow hlower
  obtain ⟨names', last', hotherNames, hsegments', hplain'⟩ :=
    exists_segments_metadataPath out hother hlower'
  rw [location_eq_append hsegments hplain, location_eq_append hsegments' hplain']
  intro h
  have hnames := List.cons_inj_right _ |>.1 (List.append_cancel_left h)
  obtain ⟨rfl, hlast⟩ := List.append_inj' hnames rfl
  have hlast : last = last' := by
    have hchars := congrArg String.toList (List.singleton_inj.1 hlast)
    exact String.toList_injective (by simpa using hchars)
  exact hne (by rw [hflowNames, hotherNames, hlast])

theorem segments_source (out : String) (kind : SourceKind) {name : String}
    (hother : IsInner other) (hname : '/' ∉ name.toList) :
    segments (join (sourcesDir out kind other) (name ++ ".yml")) =
      segments out ++ (kindNames kind ++ (segments other ++ [name ++ ".yml"])) ∧
      ∀ n ∈ kindNames kind ++ (segments other ++ [name ++ ".yml"]), IsPlain n := by
  have hdocument : IsName (name ++ ".yml") := by
    refine ⟨fun hempty => ?_, by simpa using hname⟩
    simpa using congrArg String.toList hempty
  refine ⟨?_, fun n hn => ?_⟩
  · rw [segments_join_of_isName hdocument, segments_sourcesDir hother.relative]
    simp
  · rw [← List.append_assoc] at hn
    rcases List.mem_append.1 hn with hn | hn
    · exact isPlain_of_mem_append hother n hn
    · rw [List.mem_singleton.1 hn]
      exact hdocument.isPlain (by decide)

namespace IsDocumentOf

theorem exists_names (h : IsDocumentOf out other path) (hother : IsInner other)
    (hlower : Text.lower other = other) : ∃ names, segments path = segments out ++ names ∧
      (∀ name ∈ names, IsPlain name) ∧ names ≠ [] := by
  cases h with
  | metadata =>
    obtain ⟨names, last, -, hsegments, hplain⟩ := exists_segments_metadataPath out hother hlower
    exact ⟨_, hsegments, hplain, by simp⟩
  | source kind hname =>
    obtain ⟨hsegments, hplain⟩ := segments_source out kind hother hname
    exact ⟨_, hsegments, hplain, by simp⟩

/-- A directory of the flow is around a document of another flow only if the other flow is inside of
it, unless the two are at the same place. -/
theorem eq_of_below (h : IsDocumentOf out other path) (hflow : IsInner flow)
    (hother : IsInner other) (hlower : Text.lower other = other)
    (hapart : ¬ segments flow <+: segments other)
    (hbelow : location (sourcesDir out kind flow) <+: location path) :
    location (sourcesDir out kind flow) = location path := by
  cases h with
  | metadata => exact absurd hbelow (metadataPath_apart out _ hflow hother hlower).1
  | source kind' hname =>
    obtain ⟨hsegments, hplain⟩ := segments_source out kind' hother hname
    rw [location_sourcesDir hflow, location_eq_append hsegments hplain] at hbelow ⊢
    rw [List.prefix_append_right_inj] at hbelow
    have hkind : kind = kind' := by
      cases kind <;> cases kind' <;> simp_all [kindNames, SourceKind.name]
    subst hkind
    rw [List.prefix_append_right_inj, List.prefix_concat_iff] at hbelow
    rw [hbelow.resolve_right hapart]

theorem metadataPath_ne (h : IsDocumentOf out other path) (hflow : IsInner flow)
    (hlower : Text.lower flow = flow) (hother : IsInner other) (hlower' : Text.lower other = other)
    (hne : segments flow ≠ segments other) : location (metadataPath out flow) ≠ location path := by
  cases h with
  | metadata => exact Intake.metadataPath_ne hflow hlower hother hlower' hne
  | source kind hname =>
    obtain ⟨names, last, -, hsegments, hplain⟩ := exists_segments_metadataPath out hflow hlower
    obtain ⟨hsegments', hplain'⟩ := segments_source out kind hother hname
    rw [location_eq_append hsegments hplain, location_eq_append hsegments' hplain']
    simp [kindNames]

end IsDocumentOf

/-- Writing the documents of a flow leaves those of another flow as they are. -/
theorem readFile_document_of_compiles {r : Except Failure Compilation} {content : ByteArray}
    (h : Compiles m flow out dir fs r fs') (hflow : IsInner flow) (hlower : Text.lower flow = flow)
    (hother : IsInner other) (hlower' : Text.lower other = other)
    (hapart : ¬ segments flow <+: segments other)
    (hdocuments : ∀ kind, m.HasPlainDocuments kind) (hpath : IsDocumentOf out other path)
    (hread : fs.readFile path = .bytes content) : fs'.readFile path = .bytes content := by
  obtain ⟨names, hsegments, hplain, hne⟩ := hpath.exists_names hother hlower'
  have hdifferent : segments flow ≠ segments other := fun heq => hapart (heq ▸ List.prefix_rfl)
  exact readFile_of_compiles h hflow hdocuments hsegments hplain
    (fun kind => hpath.eq_of_below hflow hother hlower' hapart)
    (hpath.metadataPath_ne hflow hlower hother hlower' hdifferent) hne hread

end

/-- Compiling a flow leaves the documents of another flow as they are, for every workbook,
configuration, output directory and tree of files, and whether the run succeeds or not. Both flows
have plain names, the other one is not inside of the first, and no document has a slash in its
name. -/
theorem readFile_of_compileMapping {workbook : Option String} {flow other : String}
    {config : Config} {r : Except Failure Compilation} {content : ByteArray}
    (hflow : IsInner (normalFlow flow)) (hother : IsInner (normalFlow other))
    (hapart : ¬ segments (normalFlow flow) <+: segments (normalFlow other))
    (hdocuments : ∀ m, ((checkMapping (workbook.getD (config.workbookPath flow)) flow config :
      Action OnFiles Mapping).on fs).1 = .ok m → ∀ kind, m.HasPlainDocuments kind)
    (hrun : (compileMapping workbook flow out config : Action OnFiles Compilation).on fs = (r, fs'))
    (hpath : IsDocumentOf out (normalFlow other) path)
    (hread : fs.readFile path = .bytes content) : fs'.readFile path = .bytes content := by
  obtain ⟨dir, hdir⟩ := parent?_metadataPath out (normalFlow flow)
  rcases Action.on_compileMapping_cases hdir hrun with ⟨-, -, -, rfl⟩ | ⟨m, hm, hcompiles⟩
  · exact hread
  · have hplain : ∀ kind, m.HasPlainDocuments kind := by
      refine hdocuments m ?_
      rwa [Action.on_checkMapping]
    exact readFile_document_of_compiles hcompiles hflow (lower_normalFlow flow) hother
      (lower_normalFlow other) hapart hplain hpath hread

/-- A document of the flow of sales, next to a workbook. -/
def salesFiles : FileSystem :=
  parcelsFiles [("out", .dir [("models", .dir [("sources", .dir [("batch", .dir [("sales", .dir
    [("orders.yml", .file "name: orders\n".toUTF8)])])])])])]

theorem isDocumentOf_orders :
    IsDocumentOf "out" (normalFlow "Sales") "out/models/sources/batch/sales/orders.yml" := by
  have hpath : join (sourcesDir "out" .batch (normalFlow "Sales")) ("orders" ++ ".yml") =
      "out/models/sources/batch/sales/orders.yml" := by decide +kernel
  rw [← hpath]
  exact .source .batch (by decide)

theorem readFile_salesFiles : salesFiles.readFile "out/models/sources/batch/sales/orders.yml" =
    .bytes "name: orders\n".toUTF8 := rfl

/-- The flow of parcels does not touch it. -/
theorem readFile_of_compileMapping_parcels : ∃ r fs',
    (compileMapping (some "parcels.xlsx") "parcels" "out" {} : Action OnFiles Compilation).on
      salesFiles = (r, fs') ∧
    fs'.readFile "out/models/sources/batch/sales/orders.yml" = .bytes "name: orders\n".toUTF8 := by
  have hflow : IsInner (normalFlow "parcels") := IsPlain.isInner (by decide +kernel)
  have hother : IsInner (normalFlow "Sales") := IsPlain.isInner (by decide +kernel)
  have hapart : ¬ segments (normalFlow "parcels") <+: segments (normalFlow "Sales") := by
    decide +kernel
  rcases hrun : (compileMapping (some "parcels.xlsx") "parcels" "out" {} :
    Action OnFiles Compilation).on salesFiles with ⟨r, fs'⟩
  refine ⟨r, fs', rfl, readFile_of_compileMapping hflow hother hapart (fun m hm => ?_) hrun
    isDocumentOf_orders readFile_salesFiles⟩
  have hplain : (Mapping.build [parcelsSheet] "parcels" {}).toOption.map (fun m =>
      decide (∀ kind, m.HasPlainDocuments kind)) = some true := by decide +kernel
  obtain ⟨built, hbuilt, hdocuments⟩ := exists_of_toOption_map hplain
  rw [Option.getD_some, Action.on_checkMapping, salesFiles, readFile_parcelsFiles,
    mappingIn_parcels, hbuilt] at hm
  obtain rfl : built = m := Except.ok.inj hm
  exact decide_eq_true_eq.mp hdocuments

/-- The directory of the documents of a flow without a name is that of all flows, and it is
cleared. -/
theorem lost_document_of_blank_flow : ∃ r fs',
    (compileMapping (some "parcels.xlsx") " " "out" {} : Action OnFiles Compilation).on
      salesFiles = (r, fs') ∧
    normalFlow " " ≠ normalFlow "Sales" ∧
    IsDocumentOf "out" (normalFlow "Sales") "out/models/sources/batch/sales/orders.yml" ∧
    salesFiles.readFile "out/models/sources/batch/sales/orders.yml" =
      .bytes "name: orders\n".toUTF8 ∧
    ∀ content, fs'.readFile "out/models/sources/batch/sales/orders.yml" ≠ .bytes content := by
  have hgone : (((compileMapping (some "parcels.xlsx") " " "out" {} :
      Action OnFiles Compilation).on salesFiles).2.nodeAt?
      (location "out/models/sources/batch/sales/orders.yml")).isNone := by
    rw [salesFiles, on_compileMapping_parcels]
    decide +kernel
  rcases hrun : (compileMapping (some "parcels.xlsx") " " "out" {} :
    Action OnFiles Compilation).on salesFiles with ⟨r, fs'⟩
  refine ⟨r, fs', rfl, by decide +kernel, isDocumentOf_orders, readFile_salesFiles,
    fun content hread => ?_⟩
  rw [hrun, (FileSystem.readFile_eq_bytes_iff.1 hread).2.2.2] at hgone
  simp at hgone

end Intake
