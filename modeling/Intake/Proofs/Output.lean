import Intake.Output
import Intake.Proofs.FileSystem

/-!
# Where documents are

The places of the documents of a flow are the place of the output directory and names after it, for
every flow with plain names (`location_sourcesDir`, `exists_segments_metadataPath`), so that neither
the directories of the kinds nor the metadata document are inside of one another
(`sourcesDir_apart`, `metadataPath_apart`). Whatever the flow and the names of the documents are, no
source document is at the place of a metadata document (`location_documentPath_ne`).
-/

namespace Intake

open Intake.Path

/-- A relative path made of plain names. -/
structure Path.IsInner (path : String) : Prop where
  relative : isAbsolute path = false
  ne_nil : segments path ≠ []
  plain : ∀ name ∈ segments path, IsPlain name

theorem Path.IsPlain.isInner {name : String} (h : IsPlain name) : IsInner name := by
  have hsegments := segments_of_isName h.toIsName
  exact ⟨isAbsolute_of_isName h.toIsName, by simp [hsegments], by simpa [hsegments] using h⟩

variable {out flow other : String} {kind kind' : SourceKind} {l : Location}

/-- The place of what a path has inside of another one. -/
theorem location_eq_append {path : String} {names : List String}
    (h : segments path = segments out ++ names) (hplain : ∀ name ∈ names, IsPlain name) :
    location path = location out ++ names := by
  rw [location, h, walk_append, walk_of_isPlain hplain]
  rfl

/-- The places that such a path passes are those of the other one, and places between that and its
end. -/
theorem mem_stops_of_segments {path : String} {names : List String}
    (h : segments path = segments out ++ names) (hplain : ∀ name ∈ names, IsPlain name)
    (hl : l ∈ stops [] (segments path)) : l ∈ stops [] (segments out) ∨ l <+: location path := by
  rw [h, stops_append, List.mem_append] at hl
  rw [location_eq_append h hplain]
  exact hl.imp_right fun hl => (prefix_of_mem_stops hplain hl).1

/-! ## Names with endings -/

/-- With an ending of several characters, a name is no direction. -/
theorem Path.IsName.isPlain {name ending : String} (h : IsName (name ++ ending))
    (hlength : 2 < ending.toList.length) : IsPlain (name ++ ending) := by
  have hlong : 2 < (name ++ ending).toList.length := by
    rw [String.toList_append, List.length_append]
    omega
  refine ⟨h, ?_, ?_⟩ <;> intro hpoint <;> rw [hpoint] at hlong <;> simp at hlong

/-- A text without slashes and an ending are a name. -/
theorem Path.IsName.append {name ending : String} (h : IsName ending) (hname : '/' ∉ name.toList) :
    IsName (name ++ ending) where
  ne_empty hempty := by
    have hchars : name = "" ∧ ending = "" := by simpa using congrArg String.toList hempty
    exact h.ne_empty hchars.2
  no_slash := by simp [hname, h.no_slash]

theorem isName_yml : IsName ".yml" := ⟨by decide, by decide⟩

theorem isName_cfgJson : IsName ".cfg.json" := ⟨by decide, by decide⟩

/-- A path with an ending ends with a plain name that has it. -/
theorem exists_segments_join_append (dir path : String) {ending : String} (hending : IsName ending)
    (hlength : 2 < ending.toList.length) :
    ∃ names last, segments (join dir (path ++ ending)) = names ++ [last ++ ending] ∧
      IsPlain (last ++ ending) := by
  have hplain : ∀ {names : List String} {last : String},
      segments (join dir (path ++ ending)) = names ++ [last ++ ending] →
        IsPlain (last ++ ending) := by
    intro names last h
    have hmem : last ++ ending ∈ segments (join dir (path ++ ending)) := by simp [h]
    exact (isName_of_mem_segments hmem).isPlain hlength
  obtain ⟨names, last, -, hnames⟩ := exists_segments_append path hending
  cases habsolute : isAbsolute (path ++ ending) with
  | true =>
    have hjoin : join dir (path ++ ending) = path ++ ending := by rw [join, if_pos habsolute]
    rw [← hjoin] at hnames
    exact ⟨names, last, hnames, hplain hnames⟩
  | false =>
    have hsegments : segments (join dir (path ++ ending)) =
        segments dir ++ segments (path ++ ending) := segments_join habsolute
    rw [hnames, ← List.append_assoc] at hsegments
    exact ⟨segments dir ++ names, last, hsegments, hplain hsegments⟩

theorem endsPlain_metadataPath (out flow : String) : EndsPlain (metadataPath out flow) := by
  obtain ⟨names, last, hnames, hplain⟩ :=
    exists_segments_join_append (join out "flows") (Text.lower flow) isName_cfgJson (by decide)
  exact ⟨names, _, hnames, hplain⟩

/-- No source document is at the place of a metadata document. -/
theorem location_documentPath_ne (t : Table) (kind : SourceKind) (dir out flow : String) :
    location (t.documentPath kind dir) ≠ location (metadataPath out flow) := by
  obtain ⟨names, last, hsource, hplain⟩ :=
    exists_segments_join_append dir (t.documentName kind) isName_yml (by decide)
  obtain ⟨names', last', hmetadata, hplain'⟩ :=
    exists_segments_join_append (join out "flows") (Text.lower flow) isName_cfgJson (by decide)
  rw [Table.documentPath, metadataPath, location_of_segments hsource,
    location_of_segments hmetadata, hplain.step_eq, hplain'.step_eq]
  intro h
  have hnames : last ++ ".yml" = last' ++ ".cfg.json" := by
    simpa using (List.append_inj' h rfl).2
  have hchars := congrArg (fun s => s.toList.getLast?) hnames
  simp [List.getLast?_append] at hchars

/-! ## Directories of source documents -/

/-- Whatever holds of a kind can be decided for both. -/
instance {p : SourceKind → Prop} [DecidablePred p] : Decidable (∀ kind, p kind) :=
  decidable_of_iff (p .batch ∧ p .datalake)
    ⟨fun h kind => by cases kind <;> simp [h], fun h => ⟨h .batch, h .datalake⟩⟩

/-- The names between an output directory and the documents of a kind. -/
def kindNames (kind : SourceKind) : List String := ["models", "sources", kind.name]

theorem isPlain_of_mem_kindNames :
    ∀ (kind : SourceKind) {name : String}, name ∈ kindNames kind → IsPlain name := by
  have hplain : ∀ kind : SourceKind, ∀ name ∈ kindNames kind, IsPlain name := by decide +kernel
  exact fun kind _ h => hplain kind _ h

theorem segments_sourcesDir (h : isAbsolute flow = false) :
    segments (sourcesDir out kind flow) = segments out ++ (kindNames kind ++ segments flow) := by
  have hkind : IsName kind.name :=
    (isPlain_of_mem_kindNames kind (by simp [kindNames])).toIsName
  have hsources : segments "models/sources" = ["models", "sources"] := by decide
  rw [sourcesDir, segments_join h, segments_join_of_isName hkind, segments_join (by decide),
    hsources]
  simp [kindNames]

theorem isPlain_of_mem_append (h : IsInner flow) :
    ∀ name ∈ kindNames kind ++ segments flow, IsPlain name := by
  intro name hname
  rcases List.mem_append.1 hname with hname | hname
  · exact isPlain_of_mem_kindNames kind hname
  · exact h.plain name hname

theorem location_sourcesDir (h : IsInner flow) :
    location (sourcesDir out kind flow) = location out ++ (kindNames kind ++ segments flow) :=
  location_eq_append (segments_sourcesDir h.relative) (isPlain_of_mem_append h)

theorem endsPlain_sourcesDir (h : IsInner flow) : EndsPlain (sourcesDir out kind flow) := by
  obtain ⟨names, last, hlast⟩ := List.eq_nil_or_concat (segments flow) |>.resolve_left h.ne_nil
  rw [List.concat_eq_append] at hlast
  refine ⟨segments out ++ (kindNames kind ++ names), last, ?_, h.plain last (by simp [hlast])⟩
  rw [segments_sourcesDir h.relative, hlast]
  simp

/-- The places that the path of a directory of documents passes are those of the output directory,
and places between that and the directory. -/
theorem mem_stops_sourcesDir (h : IsInner flow)
    (hl : l ∈ stops [] (segments (sourcesDir out kind flow))) :
    l ∈ stops [] (segments out) ∨ l <+: location (sourcesDir out kind flow) :=
  mem_stops_of_segments (segments_sourcesDir h.relative) (isPlain_of_mem_append h) hl

theorem stops_subset_sourcesDir (h : IsInner flow) :
    stops [] (segments out) ⊆ stops [] (segments (sourcesDir out kind flow)) := by
  intro l hl
  rw [segments_sourcesDir h.relative, stops_append]
  exact List.mem_append_left _ hl

theorem sourcesDir_apart (h : IsInner flow) (h' : IsInner other) (hne : kind ≠ kind') :
    ¬ location (sourcesDir out kind flow) <+: location (sourcesDir out kind' other) := by
  rw [location_sourcesDir h, location_sourcesDir h', List.prefix_append_right_inj]
  cases kind <;> cases kind' <;> simp_all [kindNames, SourceKind.name]

/-! ## Documents -/

theorem segments_documentPath {t : Table} {dir : String}
    (h : '/' ∉ (t.documentName kind).toList) :
    segments (t.documentPath kind dir) = segments dir ++ [t.documentName kind ++ ".yml"] :=
  segments_join_of_isName (isName_yml.append h)

theorem location_documentPath {t : Table} {dir : String}
    (h : '/' ∉ (t.documentName kind).toList) :
    location (t.documentPath kind dir) = location dir ++ [t.documentName kind ++ ".yml"] := by
  have hplain : IsPlain (t.documentName kind ++ ".yml") := by
    have hmem : t.documentName kind ++ ".yml" ∈ segments (t.documentPath kind dir) := by
      simp [segments_documentPath h]
    exact (isName_of_mem_segments hmem).isPlain (by decide)
  rw [location_of_segments (segments_documentPath h), hplain.step_eq]
  rfl

/-- The metadata document of a flow is beside the directories of source documents. -/
theorem exists_segments_metadataPath (out : String) (h : IsInner flow)
    (hlower : Text.lower flow = flow) : ∃ names last,
      segments flow = names ++ [last].filter (· ≠ "") ∧
      segments (metadataPath out flow) =
        segments out ++ ("flows" :: (names ++ [last ++ ".cfg.json"])) ∧
      ∀ name ∈ "flows" :: (names ++ [last ++ ".cfg.json"]), IsPlain name := by
  obtain ⟨names, last, hflow, hnames⟩ := exists_segments_append flow isName_cfgJson
  have hflows : IsPlain "flows" := ⟨⟨by decide, by decide⟩, by decide, by decide⟩
  have hne : flow ≠ "" := by
    rintro rfl
    exact h.ne_nil rfl
  have hrelative : isAbsolute (flow ++ ".cfg.json") = false := by
    rw [isAbsolute_append hne, h.relative]
  have hsegments : segments (metadataPath out flow) =
      segments out ++ ("flows" :: (names ++ [last ++ ".cfg.json"])) := by
    rw [metadataPath, hlower, segments_join hrelative, segments_join_of_isName hflows.toIsName,
      hnames]
    simp
  refine ⟨names, last, hflow, hsegments, List.forall_mem_cons.2 ⟨hflows, ?_⟩⟩
  intro name hname
  rcases List.mem_append.1 hname with hname | hname
  · exact h.plain name (by simp [hflow, hname])
  · obtain rfl := List.mem_singleton.1 hname
    have hmem : last ++ ".cfg.json" ∈ segments (metadataPath out flow) := by simp [hsegments]
    exact (isName_of_mem_segments hmem).isPlain (by decide)

theorem parent?_metadataPath (out flow : String) :
    ∃ dir, parent? (metadataPath out flow) = some dir := by
  obtain ⟨names, last, hnames, hplain⟩ :=
    exists_segments_join_append (join out "flows") (Text.lower flow) isName_cfgJson (by decide)
  have hcomponents : components (metadataPath out flow) ≠ [] := by
    rw [metadataPath, components_eq, hnames, withoutPoints_append_singleton hplain.ne_point]
    simp
  unfold parent?
  split
  · next h => exact absurd h hcomponents
  · exact ⟨_, rfl⟩

/-- The metadata document is in none of the directories of source documents, nor around them. -/
theorem metadataPath_apart (out : String) (kind : SourceKind) (h : IsInner flow)
    (h' : IsInner other) (hlower : Text.lower other = other) :
    ¬ location (sourcesDir out kind flow) <+: location (metadataPath out other) ∧
      ¬ location (metadataPath out other) <+: location (sourcesDir out kind flow) := by
  obtain ⟨names, last, -, hsegments, hplain⟩ := exists_segments_metadataPath out h' hlower
  rw [location_sourcesDir h, location_eq_append hsegments hplain, List.prefix_append_right_inj,
    List.prefix_append_right_inj]
  simp [kindNames]

end Intake
