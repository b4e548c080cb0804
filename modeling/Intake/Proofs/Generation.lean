import Intake.Proofs.Check
import Intake.Proofs.Isolation

/-!
# What compiling a flow writes

After a run that succeeds, each directory of source documents of the flow holds one document for
each table and nothing else (`Mapping.sourceTree`), whatever was there before, and the metadata
document has been written. The directory is new and empty when the first document is written
(`at?_made`), no two documents have the same name, and neither the other kind nor the metadata
document gets in its way (`at?_of_generates`, `at?_of_records`).

All of this supposes that the output directory is `Accessible`: its path does not lead through the
directories of the flow, and what is there already can be seen when the directory is to be cleared.
A path without double points always is (`accessible_of_forall_ne`).
-/

namespace Intake

open Intake.Path

/-- What there is where a path leads, with everything in it. -/
def FileSystem.tree? (fs : FileSystem) (path : String) : Option FileTree :=
  match fs.resolve path with
  | .ok t => fs.at? t.location
  | .error _ => none

/-- The source documents of a kind as entries of a directory. -/
def sourceEntries (kind : SourceKind) (tables : List Table) : List (String × FileTree) :=
  tables.map fun t => (t.documentName kind ++ ".yml", .file (t.sourceText kind))

/-- The directory of the source documents of a kind. -/
def Mapping.sourceTree (m : Mapping) (kind : SourceKind) : FileTree :=
  .dir (sourceEntries kind m.tables)

/-- A path passes nothing inside of a location. -/
def Path.StaysOutside (path : String) (l : Location) : Prop :=
  ∀ p ∈ stops [] (segments path), l <+: p → l = p

/-- If there is no way to where a path leads, nothing is there. -/
def FileSystem.Shows (fs : FileSystem) (path : String) : Prop :=
  fs.resolve path = .error .missing → fs.at? (location path) = none

/-- An output directory for the documents of a flow. -/
structure Accessible (fs : FileSystem) (out flow : String) : Prop where
  /-- Its path does not pass anything inside of the directories of source documents. -/
  outside : ∀ kind, ∀ l ∈ stops [] (segments out),
    location (sourcesDir out kind flow) <+: l → location (sourcesDir out kind flow) = l
  /-- If there is no way to the batch documents, there are none. -/
  visible : fs.resolve (sourcesDir out .batch flow) = .error .missing →
    fs.at? (location (sourcesDir out .batch flow)) = none

variable {fs fs' made : FileSystem} {l : Location} {m : Mapping} {kind kind' : SourceKind}
  {flow out dir path : String} {t : FileTree}

theorem FileSystem.tree?_eq_some_iff : fs.tree? path = some t ↔
    IsValid path ∧ fs.Reaches path ∧ fs.at? (location path) = some t := by
  unfold tree?
  cases hresolve : fs.resolve path with
  | error e =>
    exact iff_of_false (by simp) fun h => not_reaches_of_resolve_eq_error hresolve h.1 h.2.1
  | ok target =>
    obtain ⟨hvalid, hreaches, rfl⟩ := resolve_eq_ok_iff.1 hresolve
    simp [hvalid, hreaches, location_target]

/-! ## Accessible output directories -/

/-- What is missing on the way to documents does not hide them if it lies before them. -/
theorem at?_of_missing (hflow : IsInner flow)
    (hmissing : fs.resolve (sourcesDir out kind flow) = .error .missing)
    (hbefore : ∀ l ∈ stops [] (segments out), fs.nodeAt? l = none →
      l <+: location (sourcesDir out kind flow)) :
    fs.at? (location (sourcesDir out kind flow)) = none := by
  have hplain : EndsPlain (sourcesDir out kind flow) := endsPlain_sourcesDir hflow
  obtain ⟨l, hl, hnone⟩ := FileSystem.exists_stop_of_missing hplain.ne_empty hmissing
  have hl : l <+: location (sourcesDir out kind flow) := by
    rcases mem_stops_sourcesDir hflow (FileSystem.stops_dropLast_subset _ hl) with hl | hl
    · exact hbefore l hl hnone
    · exact hl
  obtain ⟨rest, hrest⟩ := hl
  rw [← hrest]
  exact FileSystem.nodeAt?_eq_none_iff.1 (FileSystem.nodeAt?_append_of_none hnone rest)

/-- Where the path of the output directory has no double points, documents that are there already
can be seen. -/
theorem visible_of_forall_ne (kind : SourceKind) (hflow : IsInner flow)
    (h : ∀ name ∈ segments out, name ≠ "..") : fs.Shows (sourcesDir out kind flow) := by
  refine fun hmissing => at?_of_missing hflow hmissing fun l hl _ => ?_
  rw [location_sourcesDir hflow]
  exact (prefix_walk_of_mem_stops h hl).trans (List.prefix_append _ _)

theorem accessible_of_forall_ne (hflow : IsInner flow) (h : ∀ name ∈ segments out, name ≠ "..") :
    Accessible fs out flow where
  outside kind l hl hbelow := by
    have hlong := (hbelow.trans (prefix_walk_of_mem_stops h hl)).length_le
    rw [location_sourcesDir hflow, List.length_append] at hlong
    change _ ≤ (location out).length at hlong
    simp [kindNames] at hlong
  visible := visible_of_forall_ne .batch hflow h

/-! ## The documents of one kind -/

theorem nodup_sourceEntries (h : (m.tables.map (·.documentName kind)).Nodup) :
    ((sourceEntries kind m.tables).map (·.1)).Nodup := by
  have hnames : (sourceEntries kind m.tables).map (·.1) =
      (m.tables.map (·.documentName kind)).map (· ++ ".yml") := by
    simp [sourceEntries, Function.comp_def]
  rw [hnames]
  refine h.map fun a b hab => ?_
  have hchars := congrArg String.toList hab
  exact String.toList_injective (by simpa using hchars)

theorem nodup_of_checkDocuments (h : m.checkDocuments = .ok ()) (kind : SourceKind) :
    (m.tables.map (·.documentName kind)).Nodup := by
  rw [Mapping.checkDocuments_eq_ok_iff] at h
  cases kind
  exacts [h.1, h.2]

/-- Writing documents with new names appends them to their directory. -/
theorem at?_of_writes {tables : List Table} {entries : List (String × FileTree)}
    (h : Writes kind dir tables fs fs')
    (hdocuments : ∀ t ∈ tables, '/' ∉ (t.documentName kind).toList)
    (hnodup : ((entries ++ sourceEntries kind tables).map (·.1)).Nodup)
    (hdir : fs.at? (location dir) = some (.dir entries)) :
    fs'.at? (location dir) = some (.dir (entries ++ sourceEntries kind tables)) := by
  induction h generalizing entries with
  | nil fs => simpa [sourceEntries] using hdir
  | @cons t tables fs fs' fs'' hwrite _ ih =>
    obtain ⟨ht, htables⟩ := List.forall_mem_cons.1 hdocuments
    obtain ⟨-, -, -, -, rfl⟩ := FileSystem.writeFile?_eq_some_iff.1 hwrite
    have happend : entries ++ sourceEntries kind (t :: tables) =
        (entries ++ [(t.documentName kind ++ ".yml", .file (t.sourceText kind))]) ++
          sourceEntries kind tables := by
      simp [sourceEntries]
    rw [happend] at hnodup ⊢
    refine ih htables hnodup ?_
    have hnew : t.documentName kind ++ ".yml" ∉ entries.map (·.1) := by
      intro hmem
      rw [List.map_append, List.map_append, List.nodup_append, List.nodup_append] at hnodup
      exact hnodup.1.2.2 _ hmem _ (by simp) rfl
    rw [location_documentPath ht, FileSystem.at?_place_parent hdir,
      FileTree.setEntry_of_not_mem hnew]

/-- The directory that the documents are written to is empty. -/
theorem at?_made {cleared : FileSystem} (hflow : IsInner flow)
    (hremove : fs.removeDir (sourcesDir out kind flow) = (cleared, true))
    (hmake : cleared.makeDirs (sourcesDir out kind flow) = (made, true))
    (houtside : StaysOutside out (location (sourcesDir out kind flow)))
    (hvisible : fs.Shows (sourcesDir out kind flow)) :
    IsValid (sourcesDir out kind flow) ∧ made.Reaches (sourcesDir out kind flow) ∧
      made.at? (location (sourcesDir out kind flow)) = some (.dir []) := by
  have hplain : EndsPlain (sourcesDir out kind flow) := endsPlain_sourcesDir hflow
  have hcleared : cleared.at? (location (sourcesDir out kind flow)) = none := by
    rcases FileSystem.removeDir_cases hplain hremove with ⟨rfl, hnone⟩ | ⟨-, -, -, hroom, -, rfl⟩
    · exact (hnone rfl).elim hvisible id
    · exact FileSystem.at?_place_self hroom
  have hplaces : ∀ p ∈ stops [] (segments (sourcesDir out kind flow)),
      location (sourcesDir out kind flow) <+: p → p = location (sourcesDir out kind flow) := by
    intro p hp hbelow
    rcases mem_stops_sourcesDir hflow hp with hp | habove
    · exact (houtside p hp hbelow).symm
    · exact habove.eq_of_length_le hbelow.length_le
  obtain ⟨hmakes, hworks⟩ := FileSystem.makes_makeDirs hmake
  obtain ⟨hvalid, hreaches, hdir⟩ := hworks rfl hplain.ne_empty
  refine ⟨hvalid, hreaches, (hmakes.at?_of_none hplaces hcleared).resolve_left fun hnone => ?_⟩
  simp [FileSystem.nodeAt?_eq_none_iff.2 hnone] at hdir

/-- Writing the source documents of a kind puts them in place. -/
theorem sourceTree_of_generates {paths : List String}
    (h : Generates m kind flow out fs (.ok paths) fs')
    (hflow : IsInner flow) (hdocuments : m.HasPlainDocuments kind)
    (houtside : StaysOutside out (location (sourcesDir out kind flow)))
    (hvisible : fs.Shows (sourcesDir out kind flow)) :
    fs'.tree? (sourcesDir out kind flow) = some (m.sourceTree kind) := by
  cases h with
  | finished hcheck hremove hmake hwrites =>
    obtain ⟨hvalid, hreaches, hempty⟩ := at?_made hflow hremove hmake houtside hvisible
    have hnodup := nodup_sourceEntries (nodup_of_checkDocuments hcheck kind)
    refine FileSystem.tree?_eq_some_iff.2 ⟨hvalid, fun l hl => ?_, ?_⟩
    · exact nodeAt?_dir_of_writes hwrites (hreaches l hl)
    · exact at?_of_writes hwrites hdocuments (by simpa using hnodup) hempty

/-! ## The documents of the other kind, and the metadata document -/

theorem at?_of_writes_apart {tables : List Table} (h : Writes kind dir tables fs fs')
    (hdocuments : ∀ t ∈ tables, '/' ∉ (t.documentName kind).toList)
    (hbelow : ¬ location dir <+: l) (habove : ¬ l <+: location dir) : fs'.at? l = fs.at? l := by
  refine h.invariant (p := fun g => g.at? l = fs.at? l) (fun t ht hwrite hg => ?_) rfl
  obtain ⟨-, -, -, -, rfl⟩ := FileSystem.writeFile?_eq_some_iff.1 hwrite
  rw [location_documentPath (hdocuments t ht), FileSystem.at?_place_of_apart, hg]
  · exact fun hprefix => hbelow ((List.prefix_append _ _).trans hprefix)
  · intro hl
    rcases List.prefix_concat_iff.1 hl with rfl | hl
    · exact hbelow (List.prefix_append _ _)
    · exact habove hl

/-- Writing the source documents of a kind changes nothing in a tree apart from their directory that
the path of the output directory does not lead into. -/
theorem at?_of_generates_apart {paths : List String}
    (h : Generates m kind flow out fs (.ok paths) fs') (hflow : IsInner flow)
    (hdocuments : m.HasPlainDocuments kind)
    (hbelow : ¬ location (sourcesDir out kind flow) <+: l)
    (habove : ¬ l <+: location (sourcesDir out kind flow))
    (houtside : StaysOutside out l) (ht : fs.at? l = some t) :
    fs'.at? l = some t := by
  cases h with
  | @finished cleared made _ _ hremove hmake hwrites =>
    have hcleared : cleared.at? l = some t := by
      rcases FileSystem.removeDir_cases (endsPlain_sourcesDir hflow) hremove with
        ⟨rfl, -⟩ | ⟨-, -, -, -, -, rfl⟩
      · exact ht
      · rw [FileSystem.at?_place_of_apart hbelow habove, ht]
    have hplaces : ∀ p ∈ stops [] (segments (sourcesDir out kind flow)), l <+: p → p = l := by
      intro p hp hl
      rcases mem_stops_sourcesDir hflow hp with hp | hp
      · exact (houtside p hp hl).symm
      · exact absurd (hl.trans hp) habove
    rw [at?_of_writes_apart hwrites hdocuments hbelow habove]
    exact (FileSystem.makes_makeDirs hmake).1.at?_eq hplaces hcleared

/-- Writing the metadata document changes nothing in a tree apart from it. -/
theorem at?_of_records_apart {r : Except Failure String} (h : Records m flow out dir fs r fs')
    (hdir : parent? (metadataPath out flow) = some dir) (hflow : IsInner flow)
    (hlower : Text.lower flow = flow) (hbelow : ¬ location (metadataPath out flow) <+: l)
    (habove : ¬ l <+: location (metadataPath out flow))
    (houtside : StaysOutside out l) (ht : fs.at? l = some t) :
    fs'.at? l = some t := by
  have hplaces : ∀ p ∈ stops [] (segments dir), l <+: p → p = l := by
    intro p hp hl
    obtain ⟨names, last, -, hsegments, hplain⟩ := exists_segments_metadataPath out hflow hlower
    rcases mem_stops_of_segments hsegments hplain (stops_parent?_subset hdir hp) with hp | hp
    · exact (houtside p hp hl).symm
    · exact absurd (hl.trans hp) habove
  cases h with
  | unmade hmake => exact (FileSystem.makes_makeDirs hmake).1.at?_eq hplaces ht
  | unwritten hmake => exact (FileSystem.makes_makeDirs hmake).1.at?_eq hplaces ht
  | finished hmake hwrite =>
    obtain ⟨-, -, -, -, rfl⟩ := FileSystem.writeFile?_eq_some_iff.1 hwrite
    rw [FileSystem.at?_place_of_apart hbelow habove]
    exact (FileSystem.makes_makeDirs hmake).1.at?_eq hplaces ht

/-- The way to the directory of one kind stays open while the documents of the other kind are
written. -/
theorem stops_sourcesDir_of_generates {r : Except Failure (List String)}
    (h : Generates m kind flow out fs r fs') (hne : kind ≠ kind') (hflow : IsInner flow)
    (hdocuments : m.HasPlainDocuments kind)
    (hstops : ∀ l ∈ stops [] (segments (sourcesDir out kind' flow)), fs.nodeAt? l = some .dir) :
    ∀ l ∈ stops [] (segments (sourcesDir out kind' flow)), fs'.nodeAt? l = some .dir := by
  intro l hl
  rcases mem_stops_sourcesDir hflow hl with hout | hbefore
  · exact stops_of_generates h hflow
      (fun l hl => hstops l (stops_subset_sourcesDir hflow hl)) l hout
  · refine nodeAt?_of_generates h hflow hdocuments (hstops l hl) fun hbelow => ?_
    exact absurd (hbelow.trans hbefore) (sourcesDir_apart hflow hflow hne)

/-! ## All documents -/

/-- The documents of a mapping are in their places, and nothing else is in the directories of its
source documents. -/
structure Mapping.InPlace (m : Mapping) (flow out : String) (fs : FileSystem) : Prop where
  sources : ∀ kind, fs.tree? (sourcesDir out kind flow) = some (m.sourceTree kind)
  metadata : fs.readFile (metadataPath out flow) = .bytes m.document.toUTF8

/-- The paths of the source documents of a kind, in the order of the tables. -/
def Mapping.sourcePaths (m : Mapping) (kind : SourceKind) (out flow : String) : List String :=
  m.tables.map fun t => t.documentPath kind (sourcesDir out kind flow)

theorem eq_sourcePaths_of_generates {paths : List String}
    (h : Generates m kind flow out fs (.ok paths) fs') : paths = m.sourcePaths kind out flow := by
  cases h
  rfl

theorem readFile_of_records {written : String}
    (h : Records m flow out dir fs (.ok written) fs') :
    written = metadataPath out flow ∧
      fs'.readFile (metadataPath out flow) = .bytes m.document.toUTF8 := by
  cases h with
  | finished _ hwrite => exact ⟨rfl, FileSystem.readFile_writeFile? hwrite⟩

theorem FileSystem.stops_of_tree? {entries : List (String × FileTree)}
    (h : fs.tree? path = some (.dir entries)) :
    ∀ l ∈ stops [] (segments path), fs.nodeAt? l = some .dir := by
  obtain ⟨-, hreaches, hdir⟩ := tree?_eq_some_iff.1 h
  exact stops_of_reaches hreaches (nodeAt?_dir_iff.2 ⟨_, hdir⟩)

/-- A tree that stays at its place stays where its path leads. -/
theorem FileSystem.tree?_of_stops (h : fs.tree? path = some t)
    (hstops : ∀ l ∈ stops [] (segments path), fs'.nodeAt? l = some .dir)
    (ht : fs'.at? (location path) = some t) : fs'.tree? path = some t := by
  obtain ⟨hvalid, -, -⟩ := tree?_eq_some_iff.1 h
  exact tree?_eq_some_iff.2 ⟨hvalid, reaches_of_stops hstops, ht⟩

/-- The documents of one kind stay while those of the other kind are written. -/
theorem tree?_of_generates {paths : List String} {entries : List (String × FileTree)}
    (h : Generates m kind flow out fs (.ok paths) fs') (hne : kind ≠ kind') (hflow : IsInner flow)
    (hdocuments : m.HasPlainDocuments kind)
    (houtside : StaysOutside out (location (sourcesDir out kind' flow)))
    (ht : fs.tree? (sourcesDir out kind' flow) = some (.dir entries)) :
    fs'.tree? (sourcesDir out kind' flow) = some (.dir entries) := by
  refine FileSystem.tree?_of_stops ht ?_ ?_
  · exact stops_sourcesDir_of_generates h hne hflow hdocuments (FileSystem.stops_of_tree? ht)
  · exact at?_of_generates_apart h hflow hdocuments (sourcesDir_apart hflow hflow hne)
      (sourcesDir_apart hflow hflow hne.symm) houtside (FileSystem.tree?_eq_some_iff.1 ht).2.2

/-- The source documents stay while the metadata document is written. -/
theorem tree?_of_records {r : Except Failure String} {entries : List (String × FileTree)}
    (h : Records m flow out dir fs r fs') (hdir : parent? (metadataPath out flow) = some dir)
    (hflow : IsInner flow) (hlower : Text.lower flow = flow)
    (houtside : StaysOutside out (location (sourcesDir out kind flow)))
    (ht : fs.tree? (sourcesDir out kind flow) = some (.dir entries)) :
    fs'.tree? (sourcesDir out kind flow) = some (.dir entries) := by
  obtain ⟨hbelow, habove⟩ := metadataPath_apart out kind hflow hflow hlower
  refine FileSystem.tree?_of_stops ht (fun l hl => ?_) ?_
  · exact nodeAt?_of_records h (FileSystem.stops_of_tree? ht l hl) (.inr rfl)
  · exact at?_of_records_apart h hdir hflow hlower habove hbelow houtside
      (FileSystem.tree?_eq_some_iff.1 ht).2.2

/-- Where the way to the output directory is open, documents that are there already can be seen. -/
theorem visible_of_stops (kind : SourceKind) (hflow : IsInner flow)
    (hstops : ∀ l ∈ stops [] (segments out), fs.nodeAt? l = some .dir) :
    fs.Shows (sourcesDir out kind flow) := fun hmissing =>
  at?_of_missing hflow hmissing fun l hl hnone => by simp [hstops l hl] at hnone

/-- A run that succeeds puts all documents in place. -/
theorem inPlace_of_compiles {c : Compilation} (h : Compiles m flow out dir fs (.ok c) fs')
    (hdir : parent? (metadataPath out flow) = some dir) (hflow : IsInner flow)
    (hlower : Text.lower flow = flow) (hdocuments : ∀ kind, m.HasPlainDocuments kind)
    (haccessible : Accessible fs out flow) :
    m.InPlace flow out fs' ∧ c.mapping = m ∧ c.metadataPath = metadataPath out flow ∧
      c.sourcePaths = m.sourcePaths .batch out flow ++ m.sourcePaths .datalake out flow := by
  cases h with
  | finished hbatch hdatalake hrecords =>
    have hne : SourceKind.datalake ≠ .batch := by decide
    have htree := sourceTree_of_generates hbatch hflow (hdocuments _) (haccessible.outside _)
      haccessible.visible
    have hstops := FileSystem.stops_of_tree? htree
    have hvisible := visible_of_stops .datalake hflow fun l hl =>
      hstops l (stops_subset_sourcesDir hflow hl)
    have htree' := sourceTree_of_generates hdatalake hflow (hdocuments _) (haccessible.outside _)
      hvisible
    have hbatchStays := tree?_of_generates hdatalake hne hflow (hdocuments _)
      (haccessible.outside _) htree
    obtain ⟨rfl, hmetadata⟩ := readFile_of_records hrecords
    refine ⟨⟨fun kind => ?_, hmetadata⟩, rfl, rfl, ?_⟩
    · cases kind with
      | batch =>
        exact tree?_of_records hrecords hdir hflow hlower (haccessible.outside _) hbatchStays
      | datalake =>
        exact tree?_of_records hrecords hdir hflow hlower (haccessible.outside _) htree'
    · rw [eq_sourcePaths_of_generates hbatch, eq_sourcePaths_of_generates hdatalake]

end Intake
