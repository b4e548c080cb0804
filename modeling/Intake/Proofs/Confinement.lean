import Intake.Proofs.Assembly
import Intake.Proofs.Generation

/-!
# Where the names of documents lead

Documents are told apart by their names, but a name is used as a path: the profile of a table and
the pattern of its files may contain slashes, and then the name leads through folders
(`Table.documentFolders`) before it comes to a file (`location_documentPath_eq`). Paths are
`Path.Confined` to a directory when they lead to different files right inside of it. Those of the
documents of a mapping are so exactly when each name leads back to the directory and the files have
different names (`Mapping.confined_iff`), which a comparison of the names does not decide:
`./raw__orders` and `raw__orders` are different names of one file.

Names without slashes are confined. Of the others, those that do not lead out of the directory
cannot be written: the directory is new when the first document is written, and nothing makes a
folder in it (`documentFolder_eq_of_generates`).
-/

namespace Intake

open Intake.Path

/-- Paths that lead to different files right inside of a directory. -/
structure Path.Confined (dir : String) (paths : List String) : Prop where
  inside : ∀ path ∈ paths, ∃ name, location path = location dir ++ [name]
  apart : (paths.map location).Nodup

namespace Table

/-- The folders that the name of a document leads through. -/
def documentFolders (t : Table) (kind : SourceKind) : List String :=
  (segments (t.documentName kind ++ ".yml")).dropLast

/-- The folder that the name of a document leads to from a directory. -/
def documentFolder (t : Table) (kind : SourceKind) (dir : String) : Location :=
  walk (if isAbsolute (t.documentName kind ++ ".yml") then [] else location dir)
    (t.documentFolders kind)

/-- The name of the file that the name of a document leads to. -/
def documentFile (t : Table) (kind : SourceKind) : String :=
  (segments (t.documentName kind ++ ".yml")).getLastD ""

/-- The name of a document does not lead out of the directory it is in. -/
structure Descends (t : Table) (kind : SourceKind) : Prop where
  relative : isAbsolute (t.documentName kind ++ ".yml") = false
  ne_points : ∀ folder ∈ t.documentFolders kind, folder ≠ ".."

end Table

variable {fs fs' : FileSystem} {m : Mapping} {t : Table} {kind : SourceKind}
  {flow out dir : String} {loc l : Location} {names : List String}

/-! ## Folders and files -/

theorem segments_documentName (t : Table) (kind : SourceKind) :
    segments (t.documentName kind ++ ".yml") = t.documentFolders kind ++ [t.documentFile kind] ∧
      IsPlain (t.documentFile kind) := by
  obtain ⟨names, last, -, hnames⟩ := exists_segments_append (t.documentName kind) isName_yml
  have hfile : t.documentFile kind = last ++ ".yml" := by
    rw [Table.documentFile, hnames, List.getLastD_concat]
  have hmem : last ++ ".yml" ∈ segments (t.documentName kind ++ ".yml") := by simp [hnames]
  have hname : IsName (last ++ ".yml") := isName_of_mem_segments hmem
  rw [Table.documentFolders, hfile, hnames, List.dropLast_concat]
  exact ⟨rfl, hname.isPlain (by decide)⟩

/-- A document is where its name leads. -/
theorem location_documentPath_eq (t : Table) (kind : SourceKind) (dir : String) :
    location (t.documentPath kind dir) = t.documentFolder kind dir ++ [t.documentFile kind] := by
  obtain ⟨hsegments, hfile⟩ := segments_documentName t kind
  unfold Table.documentPath Table.documentFolder
  cases habsolute : isAbsolute (t.documentName kind ++ ".yml") with
  | true =>
    rw [join, if_pos habsolute, location_of_segments hsegments, hfile.step_eq]
    rfl
  | false =>
    rw [location, segments_join habsolute, hsegments, walk_append, walk_append, walk_cons, walk_nil,
      hfile.step_eq]
    rfl

theorem documentFolders_of_plain (h : '/' ∉ (t.documentName kind).toList) :
    t.documentFolders kind = [] := by
  rw [Table.documentFolders, segments_of_isName (isName_yml.append h)]
  rfl

theorem documentFile_of_plain (h : '/' ∉ (t.documentName kind).toList) :
    t.documentFile kind = t.documentName kind ++ ".yml" := by
  rw [Table.documentFile, segments_of_isName (isName_yml.append h)]
  rfl

theorem descends_of_plain (h : '/' ∉ (t.documentName kind).toList) : t.Descends kind :=
  ⟨isAbsolute_of_isName (isName_yml.append h), by simp [documentFolders_of_plain h]⟩

theorem Table.Descends.documentFolder_eq (h : t.Descends kind) (dir : String) :
    t.documentFolder kind dir = walk (location dir) (t.documentFolders kind) := by
  rw [Table.documentFolder, h.relative]
  rfl

/-- Without double points, names lead back only if all of them are points. -/
theorem walk_eq_self_iff (h : ∀ name ∈ names, name ≠ "..") :
    walk loc names = loc ↔ ∀ name ∈ names, name = "." := by
  induction names generalizing loc with
  | nil => simp
  | cons name names ih =>
    obtain ⟨hname, hnames⟩ := List.forall_mem_cons.1 h
    by_cases hpoint : name = "."
    · rw [walk_cons, step, if_pos hpoint, ih hnames, List.forall_mem_cons]
      simp [hpoint]
    · refine iff_of_false (fun hback => ?_) fun hpoints => hpoint (hpoints name (by simp))
      have hbefore : step loc name <+: walk (step loc name) names := prefix_walk hnames
      rw [← walk_cons, hback] at hbefore
      have hlong := hbefore.length_le
      rw [step, if_neg hpoint, if_neg hname, List.length_append] at hlong
      simp at hlong

/-! ## Confined documents -/

theorem map_location_sourcePaths : (m.sourcePaths kind out flow).map location =
    m.tables.map fun t => t.documentFolder kind (sourcesDir out kind flow) ++
      [t.documentFile kind] := by
  rw [Mapping.sourcePaths, List.map_map]
  exact List.map_congr_left fun t _ => location_documentPath_eq t kind _

/-- The documents of a mapping are confined to their directory exactly when the names lead back to
it, and to files of different names. -/
theorem Mapping.confined_iff :
    Confined (sourcesDir out kind flow) (m.sourcePaths kind out flow) ↔
      (∀ t ∈ m.tables, t.documentFolder kind (sourcesDir out kind flow) =
        location (sourcesDir out kind flow)) ∧
      (m.tables.map (·.documentFile kind)).Nodup := by
  have hfiles : (∀ t ∈ m.tables, t.documentFolder kind (sourcesDir out kind flow) =
        location (sourcesDir out kind flow)) →
      (m.sourcePaths kind out flow).map location =
        (m.tables.map (·.documentFile kind)).map
          fun name => location (sourcesDir out kind flow) ++ [name] := by
    intro hfolders
    rw [map_location_sourcePaths, List.map_map]
    exact List.map_congr_left fun t ht => by rw [hfolders t ht]; rfl
  constructor
  · rintro ⟨hinside, hapart⟩
    have hfolders : ∀ t ∈ m.tables, t.documentFolder kind (sourcesDir out kind flow) =
        location (sourcesDir out kind flow) := by
      intro t ht
      obtain ⟨name, hname⟩ := hinside _ (List.mem_map.2 ⟨t, ht, rfl⟩)
      rw [location_documentPath_eq] at hname
      exact (List.append_inj' hname rfl).1
    rw [hfiles hfolders] at hapart
    exact ⟨hfolders, hapart.of_map _⟩
  · rintro ⟨hfolders, hnodup⟩
    refine ⟨fun path hpath => ?_, ?_⟩
    · obtain ⟨t, ht, rfl⟩ := List.mem_map.1 hpath
      exact ⟨t.documentFile kind, by rw [location_documentPath_eq, hfolders t ht]⟩
    · rw [hfiles hfolders]
      exact hnodup.map fun a b hab => by simpa using hab

/-- Documents whose names have no slashes are confined, since no two names are equal. -/
theorem Mapping.confined_of_hasPlainDocuments (hcheck : m.checkDocuments = .ok ())
    (hdocuments : m.HasPlainDocuments kind) :
    Confined (sourcesDir out kind flow) (m.sourcePaths kind out flow) := by
  refine Mapping.confined_iff.2 ⟨fun t ht => ?_, ?_⟩
  · rw [(descends_of_plain (hdocuments t ht)).documentFolder_eq,
      documentFolders_of_plain (hdocuments t ht), walk_nil]
  · have hfiles : m.tables.map (·.documentFile kind) =
        (sourceEntries kind m.tables).map (·.1) := by
      rw [sourceEntries, List.map_map]
      exact List.map_congr_left fun t ht => documentFile_of_plain (hdocuments t ht)
    rw [hfiles]
    exact nodup_sourceEntries (nodup_of_checkDocuments hcheck kind)

/-! ## Runs -/

/-- Writing documents makes no directories. -/
theorem nodeAt?_dir_before_writes {tables : List Table} (h : Writes kind dir tables fs fs')
    (hdir : fs'.nodeAt? l = some .dir) : fs.nodeAt? l = some .dir := by
  refine h.invariant (p := fun g => g.nodeAt? l = some .dir → fs.nodeAt? l = some .dir)
    (fun t _ hwrite hbefore hplace => ?_) id hdir
  have hroom := FileSystem.hasRoom_of_writeFile?_eq_some hwrite
  obtain ⟨-, -, -, -, rfl⟩ := FileSystem.writeFile?_eq_some_iff.1 hwrite
  by_cases hbelow : location (t.documentPath kind dir) <+: l
  · obtain ⟨rest, rfl⟩ := hbelow
    rw [FileSystem.nodeAt?_place_self hroom] at hplace
    cases rest <;> simp [FileTree.nodeAt?, FileTree.at?, FileTree.node] at hplace
  · rw [FileSystem.nodeAt?_place hbelow] at hplace
    exact hbefore hplace

theorem exists_write_of_mem {tables : List Table} (h : Writes kind dir tables fs fs')
    (ht : t ∈ tables) : ∃ done before after, Writes kind dir done fs before ∧
      before.writeFile? (t.documentPath kind dir) (t.sourceText kind) = some after := by
  induction h with
  | nil fs => simp at ht
  | @cons t' tables fs fs' fs'' hwrite _ ih =>
    rcases List.mem_cons.1 ht with rfl | ht
    · exact ⟨[], fs, fs', .nil fs, hwrite⟩
    · obtain ⟨done, before, after, hdone, hafter⟩ := ih ht
      exact ⟨t' :: done, before, after, .cons hwrite hdone, hafter⟩

/-- Where the documents of a mapping are written, a name that does not lead out of the directory
leads back to it: there are no folders in the directory. -/
theorem documentFolder_eq_of_generates {paths : List String}
    (h : Generates m kind flow out fs (.ok paths) fs') (hflow : IsInner flow)
    (houtside : StaysOutside out (location (sourcesDir out kind flow)))
    (hvisible : fs.Shows (sourcesDir out kind flow))
    (ht : t ∈ m.tables) (hdescends : t.Descends kind) :
    t.documentFolder kind (sourcesDir out kind flow) = location (sourcesDir out kind flow) := by
  cases h with
  | @finished cleared made _ _ hremove hmake hwrites =>
    obtain ⟨-, -, hempty⟩ := at?_made hflow hremove hmake houtside hvisible
    obtain ⟨done, before, after, hdone, hwrite⟩ := exists_write_of_mem hwrites ht
    obtain ⟨-, hreaches, -⟩ := FileSystem.writeFile?_eq_some_iff.1 hwrite
    have hpath : segments (t.documentPath kind (sourcesDir out kind flow)) =
        segments (sourcesDir out kind flow) ++ t.documentFolders kind ++ [t.documentFile kind] := by
      rw [Table.documentPath, segments_join hdescends.relative, (segments_documentName t kind).1,
        List.append_assoc]
    rw [FileSystem.Reaches, hpath, List.dropLast_concat, stops_append] at hreaches
    have hfolder : made.nodeAt? (t.documentFolder kind (sourcesDir out kind flow)) = some .dir := by
      rw [hdescends.documentFolder_eq]
      refine FileSystem.nodeAt?_walk_of_stops (FileSystem.nodeAt?_dir_iff.2 ⟨_, hempty⟩) ?_
      exact fun l hl =>
        nodeAt?_dir_before_writes hdone (hreaches l (List.mem_append_right _ hl))
    have hbelow : location (sourcesDir out kind flow) <+:
        walk (location (sourcesDir out kind flow)) (t.documentFolders kind) :=
      prefix_walk hdescends.ne_points
    obtain ⟨rest, hrest⟩ := hbelow
    rw [hdescends.documentFolder_eq, ← hrest] at hfolder ⊢
    obtain ⟨entries, hentries⟩ := FileSystem.nodeAt?_dir_iff.1 hfolder
    rw [FileSystem.at?] at hempty hentries
    rw [FileTree.at?_append, hempty, Option.bind_some] at hentries
    cases rest with
    | nil => exact List.append_nil _
    | cons name rest => simp [FileTree.at?] at hentries

/-- Where the source documents of an accepted workbook go. The names of a mapping are confined to
the directory of a kind exactly when they lead back to it and to files of different names; one that
does not lead out of the directory leads back only through points, and names without slashes are
confined.

A run that succeeds gives these paths. If the path of the directory is plain, such a run has no name
that leads to a folder in the directory, and with names that have no slashes no run changes anything
outside of the directory, and one that succeeds leaves a document for each table in it and nothing
else. -/
theorem Mapping.confined_of_build {sheets : List Worksheet} {name : String} {config : Config}
    (h : Mapping.build sheets name config = .ok m) (kind : SourceKind) (out flow : String) :
    let dir := sourcesDir out kind flow
    (Confined dir (m.sourcePaths kind out flow) ↔
      (∀ t ∈ m.tables, t.documentFolder kind dir = location dir) ∧
        (m.tables.map (·.documentFile kind)).Nodup) ∧
    (∀ t ∈ m.tables, t.Descends kind → (t.documentFolder kind dir = location dir ↔
      ∀ folder ∈ t.documentFolders kind, folder = ".")) ∧
    (m.HasPlainDocuments kind → Confined dir (m.sourcePaths kind out flow)) ∧
    ∀ fs r fs', (generateSources m kind flow out : Action OnFiles _).on fs = (r, fs') →
      (∀ paths, r = .ok paths → paths = m.sourcePaths kind out flow) ∧
      (IsInner flow → (∀ name ∈ segments out, name ≠ "..") →
        (∀ paths, r = .ok paths → ∀ t ∈ m.tables, t.Descends kind →
          ∀ folder ∈ t.documentFolders kind, folder = ".") ∧
        (m.HasPlainDocuments kind →
          (∀ l n, fs.nodeAt? l = some n → ¬ location dir <+: l → fs'.nodeAt? l = some n) ∧
          ∀ paths, r = .ok paths → fs'.tree? dir = some (m.sourceTree kind))) := by
  intro dir
  have hpoints : ∀ t ∈ m.tables, t.Descends kind → (t.documentFolder kind dir = location dir ↔
      ∀ folder ∈ t.documentFolders kind, folder = ".") := by
    intro t _ hdescends
    rw [hdescends.documentFolder_eq, walk_eq_self_iff hdescends.ne_points]
  have hcheck : m.checkDocuments = .ok () := by
    rw [Mapping.checkDocuments_eq_ok_iff]
    exact (Mapping.check_eq_ok_iff.1 (Mapping.check_of_build h)).2.1
  refine ⟨Mapping.confined_iff, hpoints, Mapping.confined_of_hasPlainDocuments hcheck,
    fun fs r fs' hrun => ?_⟩
  have hgenerates := Action.generates_on hrun
  refine ⟨?_, fun hflow hout => ?_⟩
  · rintro paths rfl
    exact eq_sourcePaths_of_generates hgenerates
  · have haccessible : Accessible fs out flow := accessible_of_forall_ne hflow hout
    have houtside := haccessible.outside kind
    have hvisible : fs.Shows dir := visible_of_forall_ne kind hflow hout
    refine ⟨?_, fun hdocuments => ⟨fun l n hn hl => ?_, ?_⟩⟩
    · rintro paths rfl t ht hdescends
      exact (hpoints t ht hdescends).1
        (documentFolder_eq_of_generates hgenerates hflow houtside hvisible ht hdescends)
    · exact nodeAt?_of_generates hgenerates hflow hdocuments hn fun hbelow => absurd hbelow hl
    · rintro paths rfl
      exact sourceTree_of_generates hgenerates hflow hdocuments houtside hvisible

/-- The worksheets of two tables. -/
def ordersAndArchive : List Worksheet :=
  [settingsSheet "Orders" [("source_table", "orders")],
    settingsSheet "Archive" [("source_table", "orders"), ("target_table", "archive"),
      ("batch_profile", "archive")]]

theorem confined_of_build_ordersAndArchive : ∃ m paths fs',
    Mapping.build ordersAndArchive "sales" {} = .ok m ∧
    m.names = ["sales_orders", "sales_archive"] ∧
    Confined (sourcesDir "out" .batch "sales") (m.sourcePaths .batch "out" "sales") ∧
    (generateSources m .batch "sales" "out" : Action OnFiles _).on ⟨[]⟩ = (.ok paths, fs') ∧
    paths = m.sourcePaths .batch "out" "sales" ∧
    fs'.tree? (sourcesDir "out" .batch "sales") = some (m.sourceTree .batch) := by
  have hok : (Mapping.build ordersAndArchive "sales" {}).toOption.map (fun m =>
      (m.names, decide (m.HasPlainDocuments .batch),
        ((generateSources m .batch "sales" "out" : Action OnFiles _).on ⟨[]⟩).1.toOption.isSome)) =
      some (["sales_orders", "sales_archive"], true, true) := by decide +kernel
  obtain ⟨m, hm, hfacts⟩ := exists_of_toOption_map hok
  obtain ⟨hnames, hfacts⟩ := Prod.mk.inj hfacts
  obtain ⟨hdocuments, hworks⟩ := Prod.mk.inj hfacts
  have hdocuments := of_decide_eq_true hdocuments
  have hflow : IsPlain "sales" := by decide +kernel
  have hout : ∀ name ∈ segments "out", name ≠ ".." := by decide +kernel
  obtain ⟨paths, hworks⟩ := Option.isSome_iff_exists.1 hworks
  obtain ⟨fs', hrun⟩ := Action.exists_on_of_toOption_eq_some hworks
  obtain ⟨-, -, hconfined, hruns⟩ := Mapping.confined_of_build hm .batch "out" "sales"
  obtain ⟨hpaths, htree⟩ := hruns _ _ fs' hrun
  exact ⟨m, paths, fs', hm, hnames, hconfined hdocuments, hrun, hpaths paths rfl,
    ((htree hflow.isInner hout).2 hdocuments).2 paths rfl⟩

/-- The worksheets of tables whose documents have slashes in their names: two names of one file, a
name that leads out of the directory, and one that leads to a folder in it. -/
def strayingTables : List Worksheet :=
  [settingsSheet "Orders" [("source_table", "orders"), ("batch_profile", "raw")],
    settingsSheet "Archive" [("source_table", "orders"), ("target_table", "archive"),
      ("batch_profile", "./raw")],
    settingsSheet "Returns" [("source_table", "returns"), ("batch_profile", "../raw")],
    settingsSheet "Parcels" [("source_filename", "incoming/parcels.csv"), ("batch_profile", "raw")]]

/-- An accepted workbook whose documents are not confined to their directory: two are the same file,
one is in the directory around it, and one is in a folder that nothing makes. -/
theorem not_confined_strayingTables : ∃ m, Mapping.build strayingTables "sales" {} = .ok m ∧
    location (sourcesDir "out" .batch "sales") = ["out", "models", "sources", "batch", "sales"] ∧
    (m.sourcePaths .batch "out" "sales").map location =
      [["out", "models", "sources", "batch", "sales", "raw__sales_orders.yml"],
        ["out", "models", "sources", "batch", "sales", "raw__sales_orders.yml"],
        ["out", "models", "sources", "batch", "raw__sales_returns.yml"],
        ["out", "models", "sources", "batch", "sales", "raw__sales_incoming", "parcels.yml"]] ∧
    ¬ Confined (sourcesDir "out" .batch "sales") (m.sourcePaths .batch "out" "sales") := by
  have hok : (Mapping.build strayingTables "sales" {}).toOption.map (fun m =>
      (m.sourcePaths .batch "out" "sales").map location) =
      some [["out", "models", "sources", "batch", "sales", "raw__sales_orders.yml"],
        ["out", "models", "sources", "batch", "sales", "raw__sales_orders.yml"],
        ["out", "models", "sources", "batch", "raw__sales_returns.yml"],
        ["out", "models", "sources", "batch", "sales", "raw__sales_incoming", "parcels.yml"]] := by
    decide +kernel
  obtain ⟨m, hm, hpaths⟩ := exists_of_toOption_map hok
  refine ⟨m, hm, by decide +kernel, hpaths, fun hconfined => ?_⟩
  have hapart := hconfined.apart
  rw [hpaths] at hapart
  simp at hapart

end Intake
