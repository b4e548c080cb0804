import Intake.Proofs.Assembly
import Intake.Proofs.RowFault
import Intake.Source.Render

/-!
# The two representations are separate

A document describes one representation of a table, and it is made of what belongs to that
representation only: `Table.part` is the table without what the other one adds, and it has the same
document (`Table.sourceDocument_part`). So nothing of a declaration gets into a document but through
that part.

Two declarations that agree but for settings of the transformed files give tables with the same
batch part, and two that agree but for settings of the raw files give tables with the same datalake
part, in both cases whatever the configurations say about these settings. Hence the documents are
the same (`Declaration.sourceDocument_separate`).
-/

namespace Intake

/-! ## What a document is made of -/

/-- The column without its names in the raw files. -/
def Column.withoutSource (c : Column) : Column :=
  { c with sourceColumn := "", sourceFormula := none }

namespace Table

/-- The table with nothing that only the other representation has. -/
def part (t : Table) : SourceKind → Table
  | .batch =>
    { t with
      datalakeProfile := ""
      datalakeLocation := ""
      targetSchema := ""
      targetTable := ""
      targetLocation := ""
      tags := none
      extra := default }
  | .datalake =>
    { t with
      batchProfile := ""
      batchLocation := ""
      sourceFilename := none
      sourceFormat := ""
      sourceSchema := ""
      sourceTable := ""
      sourceLocation := ""
      fieldDelimiter := ""
      compression := none
      usesSourceName := false
      columns := t.columns.map Column.withoutSource
      extra := default }

variable (t : Table)

theorem keyColumns_part_datalake : (t.part .datalake).keyColumns = t.keyColumns := by
  simp only [keyColumns, part, List.filter_map, List.map_map]
  rfl

theorem hasCompoundKey_part_datalake : (t.part .datalake).hasCompoundKey = t.hasCompoundKey := by
  rw [hasCompoundKey, keyColumns_part_datalake, hasCompoundKey]

theorem columnType_datalake (c : Column) : t.columnType c .datalake = c.dataType := rfl

theorem sourceColumn_part_datalake (c : Column) :
    (t.part .datalake).sourceColumn .datalake c.withoutSource = t.sourceColumn .datalake c := by
  simp only [sourceColumn, columnType_datalake, columnTests, testsUnique,
    hasCompoundKey_part_datalake]
  rfl

theorem storage_part (kind : SourceKind) : (t.part kind).storage kind = t.storage kind := by
  cases kind with
  | batch =>
    have hjson : (t.part .batch).isJson = t.isJson := rfl
    simp only [storage, batchProperties, hjson]
    rfl
  | datalake => rfl

theorem combinationTests_part (kind : SourceKind) :
    (t.part kind).combinationTests kind = t.combinationTests kind := by
  cases kind with
  | batch => rfl
  | datalake =>
    rw [combinationTests, hasCompoundKey, keyColumns_part_datalake]
    rfl

theorem columns_part (kind : SourceKind) :
    (t.part kind).columns.map ((t.part kind).sourceColumn kind) =
      t.columns.map (t.sourceColumn kind) := by
  cases kind with
  | batch => rfl
  | datalake =>
    rw [part, List.map_map]
    exact List.map_congr_left fun c _ => t.sourceColumn_part_datalake c

theorem sourceTableEntry_part (kind : SourceKind) :
    (t.part kind).sourceTableEntry kind = t.sourceTableEntry kind := by
  unfold sourceTableEntry
  rw [columns_part, combinationTests_part, storage_part]
  cases kind <;> rfl

/-- The document of a representation is made of the part of the table that belongs to it. -/
theorem sourceDocument_part (kind : SourceKind) :
    (t.part kind).sourceDocument kind = t.sourceDocument kind := by
  rw [sourceDocument, sourceTableEntry_part]
  cases kind <;> rfl

end Table

/-! ## Declarations that agree but for some settings -/

/-- The settings that belong to the transformed files only. -/
def targetSettings : List String :=
  ["target_table", "target_location", "target_schema", "datalake_profile", "datalake_location",
    "tags"]

/-- The settings that belong to the raw files only. -/
def sourceSettings : List String :=
  ["source_table", "source_filename", "source_location", "source_schema", "source_format",
    "field_delimiter", "compression_type", "use_source_name", "batch_profile", "batch_location"]

/-- Configurations that agree but for values of settings that belong to the transformed files. -/
def Config.AgreeButTarget (config config' : Config) : Prop :=
  ∃ schema profile location, config' = { config with
    targetSchema := schema, datalakeProfile := profile, datalakeLocation := location }

/-- Configurations that agree but for values of settings that belong to the raw files. -/
def Config.AgreeButSource (config config' : Config) : Prop :=
  ∃ schema profile location format delimiter, config' = { config with
    sourceSchema := schema, batchProfile := profile, batchLocation := location,
    defaultSourceFormat := format, defaultFieldDelimiter := delimiter }

namespace Config

variable {config config' : Config}

theorem AgreeButTarget.defaultPartitions (h : config.AgreeButTarget config') :
    config'.defaultPartitions = config.defaultPartitions := by
  obtain ⟨_, _, _, rfl⟩ := h
  rfl

theorem AgreeButTarget.defaultPartitionStyle (h : config.AgreeButTarget config') :
    config'.defaultPartitionStyle = config.defaultPartitionStyle := by
  obtain ⟨_, _, _, rfl⟩ := h
  rfl

theorem AgreeButSource.defaultPartitions (h : config.AgreeButSource config') :
    config'.defaultPartitions = config.defaultPartitions := by
  obtain ⟨_, _, _, _, _, rfl⟩ := h
  rfl

theorem AgreeButSource.defaultPartitionStyle (h : config.AgreeButSource config') :
    config'.defaultPartitionStyle = config.defaultPartitionStyle := by
  obtain ⟨_, _, _, _, _, rfl⟩ := h
  rfl

end Config

/-! ## Columns of the same entries -/

namespace Column

theorem withoutSource_resolved (e : ColumnEntry) (position : Nat)
    (context context' : ColumnContext) (target : String) (type : ColumnType) :
    (resolved e position context' target type).withoutSource =
      (resolved e position context target type).withoutSource := by
  unfold withoutSource resolved
  rfl

variable {context context' : ColumnContext} {γ : Type} {view : Column → γ}

/-- Two readings of an entry look alike when a column looks alike whichever of them resolved it. -/
theorem view_ofEntry_eq {e : ColumnEntry} {position : Nat} {c c' : Column}
    (hview : ∀ target type, view (resolved e position context' target type) =
      view (resolved e position context target type))
    (h : ofEntry e position context = .ok c) (h' : ofEntry e position context' = .ok c') :
    view c' = view c := by
  obtain ⟨target, type, htarget, htype, rfl⟩ := ofEntry_eq_ok_iff.1 h
  obtain ⟨target', type', htarget', htype', rfl⟩ := ofEntry_eq_ok_iff.1 h'
  obtain ⟨name, hname, rfl, -⟩ := ColumnEntry.target_eq_ok_iff.1 htarget
  obtain ⟨name', hname', rfl, -⟩ := ColumnEntry.target_eq_ok_iff.1 htarget'
  obtain ⟨declared, hdeclared, htype⟩ := ColumnEntry.type_eq_ok_iff.1 htype
  obtain ⟨declared', hdeclared', htype'⟩ := ColumnEntry.type_eq_ok_iff.1 htype'
  obtain rfl := Option.some.inj (hname.symm.trans hname')
  obtain rfl := Option.some.inj (hdeclared.symm.trans hdeclared')
  obtain rfl := Option.some.inj (htype.symm.trans htype')
  exact hview _ _

theorem map_view_ofEntries_eq {entries : List ColumnEntry} {columns columns' : List Column}
    (hview : ∀ e position target type, view (resolved e position context' target type) =
      view (resolved e position context target type))
    (h : ofEntries entries context = .ok columns) (h' : ofEntries entries context' = .ok columns') :
    columns'.map view = columns.map view := by
  rw [ofEntries_eq_ok_iff] at h h'
  generalize (entries.filter fun e => !e.isBlank).zipIdx 1 = numbered at h h'
  induction h generalizing columns' with
  | nil =>
    cases h'
    rfl
  | cons hc _ ih =>
    cases h' with
    | cons hc' hrest' =>
      rw [List.map_cons, List.map_cons, view_ofEntry_eq (hview _ _) hc hc', ih hrest']

end Column

namespace Declaration

/-- Declarations that agree but for some settings. -/
structure AgreeBut (names : List String) (d d' : Declaration) : Prop where
  worksheet : d'.worksheet = d.worksheet
  setting? : ∀ key, key ∉ names → d'.setting? key = d.setting? key
  entries : d'.entries = d.entries

variable {names : List String} {d d' : Declaration} {flow target target' : String}
  {config config' : Config} {t t' : Table}

namespace AgreeBut

variable {key : String}

theorem text? (h : d.AgreeBut names d') (hkey : key ∉ names) : d'.text? key = d.text? key := by
  rw [Declaration.text?, Declaration.text?, h.setting? key hkey]

theorem textOr (h : d.AgreeBut names d') (hkey : key ∉ names) (default : String) :
    d'.textOr key default = d.textOr key default := by
  rw [Declaration.textOr, Declaration.textOr, h.text? hkey]

theorem verbatim? (h : d.AgreeBut names d') (hkey : key ∉ names) :
    d'.verbatim? key = d.verbatim? key := by
  rw [Declaration.verbatim?, Declaration.verbatim?, h.setting? key hkey]

theorem flag (h : d.AgreeBut names d') (hkey : key ∉ names) : d'.flag key = d.flag key := by
  rw [Declaration.flag, Declaration.flag, h.setting? key hkey]

theorem sourceTable (h : d.AgreeBut names d') (htable : "source_table" ∉ names)
    (hfilename : "source_filename" ∉ names) : d'.sourceTable flow = d.sourceTable flow := by
  rw [Declaration.sourceTable, Declaration.sourceTable, h.text? htable, h.text? hfilename,
    h.worksheet]

theorem partitions {keys keys' : List String} (h : d.AgreeBut names d')
    (hkey : "partitions" ∉ names)
    (hconfig : config'.defaultPartitions = config.defaultPartitions)
    (hkeys : d.partitions target config = .ok keys)
    (hkeys' : d'.partitions target' config' = .ok keys') : keys' = keys := by
  rw [(partitions_eq_ok_iff.1 hkeys').1, (partitions_eq_ok_iff.1 hkeys).1, partitionKeys,
    partitionKeys, partitionNames, partitionNames, h.setting? _ hkey, hconfig]

theorem partitionStyle {style style' : PartitionStyle} (h : d.AgreeBut names d')
    (hkey : "partitions_style" ∉ names)
    (hconfig : config'.defaultPartitionStyle = config.defaultPartitionStyle)
    (hstyle : d.partitionStyle target config = .ok style)
    (hstyle' : d'.partitionStyle target' config' = .ok style') : style' = style := by
  rw [Declaration.partitionStyle, h.text? hkey, hconfig] at hstyle'
  unfold Declaration.partitionStyle at hstyle
  cases htext : d.text? "partitions_style" with
  | none =>
    simp only [htext] at hstyle hstyle'
    cases hstyle
    cases hstyle'
    rfl
  | some text =>
    simp only [htext] at hstyle hstyle'
    cases hread : PartitionStyle.ofText? text with
    | none =>
      rw [hread] at hstyle
      cases hstyle
    | some s =>
      rw [hread] at hstyle hstyle'
      cases hstyle
      cases hstyle'
      rfl

end AgreeBut

/-! ## Tables that agree but for one representation -/

/-- Tables of declarations that agree but for settings of the transformed files have the same batch
part. -/
theorem part_batch_eq (hd : d.AgreeBut targetSettings d') (hconfig : config.AgreeButTarget config')
    (ht : d.table target flow config = .ok t) (ht' : d'.table target' flow config' = .ok t') :
    t'.part .batch = t.part .batch := by
  obtain ⟨source, keys, style, columns, hsource, hkeys, hstyle, hcolumns, rfl⟩ :=
    table_eq_ok_iff.1 ht
  obtain ⟨source', keys', style', columns', hsource', hkeys', hstyle', hcolumns', rfl⟩ :=
    table_eq_ok_iff.1 ht'
  clear ht ht'
  have hsources : source' = source := by
    rw [hd.sourceTable (by decide +kernel) (by decide +kernel), hsource] at hsource'
    exact (Except.ok.inj hsource').symm
  have hpartitions : keys' = keys :=
    hd.partitions (by decide +kernel) hconfig.defaultPartitions hkeys hkeys'
  have hstyles : style' = style :=
    hd.partitionStyle (by decide +kernel) hconfig.defaultPartitionStyle hstyle hstyle'
  obtain ⟨schema, profile, location, rfl⟩ := hconfig
  have hdata : columns'.map id = columns.map id := by
    rw [hd.entries] at hcolumns'
    refine Column.map_view_ofEntries_eq (fun e position target type => ?_) hcolumns hcolumns'
    simp (disch := decide +kernel) only [id, columnContext, sourceFormat, hd.textOr, hd.flag]
    rfl
  rw [List.map_id, List.map_id] at hdata
  simp (disch := decide +kernel) only [complete, Table.part, sourceFormat, hd.textOr, hd.text?,
    hd.verbatim?, hd.flag, hd.worksheet, hsources, hpartitions, hstyles, hdata]

/-- Tables of declarations that agree but for settings of the raw files have the same datalake part,
under the same target name. -/
theorem part_datalake_eq (hd : d.AgreeBut sourceSettings d')
    (hconfig : config.AgreeButSource config') (ht : d.table target flow config = .ok t)
    (ht' : d'.table target flow config' = .ok t') : t'.part .datalake = t.part .datalake := by
  obtain ⟨source, keys, style, columns, -, hkeys, hstyle, hcolumns, rfl⟩ := table_eq_ok_iff.1 ht
  obtain ⟨source', keys', style', columns', -, hkeys', hstyle', hcolumns', rfl⟩ :=
    table_eq_ok_iff.1 ht'
  clear ht ht'
  have hpartitions : keys' = keys :=
    hd.partitions (by decide +kernel) hconfig.defaultPartitions hkeys hkeys'
  have hstyles : style' = style :=
    hd.partitionStyle (by decide +kernel) hconfig.defaultPartitionStyle hstyle hstyle'
  obtain ⟨schema, profile, location, format, delimiter, rfl⟩ := hconfig
  have hdata : columns'.map Column.withoutSource = columns.map Column.withoutSource := by
    rw [hd.entries] at hcolumns'
    exact Column.map_view_ofEntries_eq
      (fun e position => Column.withoutSource_resolved e position _ _) hcolumns hcolumns'
  simp (disch := decide +kernel) only [complete, Table.part, hd.textOr, hd.text?, hd.worksheet,
    hpartitions, hstyles, hdata, List.map_append]

/-- The two representations of a table do not leak into each other.

Settings of the transformed files, with the values that the configuration has for them and the
target name, have no influence on the batch document. Settings of the raw files, with the values
that the configuration has for them, have none on the datalake document where the target table is
declared; the name of the target table is the same there too. -/
theorem sourceDocument_separate (d d' : Declaration) (flow : String) (config config' : Config) :
    (d.AgreeBut targetSettings d' → config.AgreeButTarget config' → ∀ target target' t t',
      d.table target flow config = .ok t → d'.table target' flow config' = .ok t' →
        t'.sourceDocument .batch = t.sourceDocument .batch) ∧
    (d.AgreeBut sourceSettings d' → config.AgreeButSource config' → ∀ name,
      d.text? "target_table" = some name → d'.text? "target_table" = some name →
        d'.targetTable flow = d.targetTable flow ∧ ∀ target t t',
          d.table target flow config = .ok t → d'.table target flow config' = .ok t' →
            t'.sourceDocument .datalake = t.sourceDocument .datalake) := by
  refine ⟨fun hd hconfig target target' t t' ht ht' => ?_,
    fun hd hconfig name hname hname' => ⟨?_, fun target t t' ht ht' => ?_⟩⟩
  · rw [← t'.sourceDocument_part, part_batch_eq hd hconfig ht ht', t.sourceDocument_part]
  · rw [targetTable, targetTable, hname, hname']
  · rw [← t'.sourceDocument_part, part_datalake_eq hd hconfig ht ht', t.sourceDocument_part]

/-! ## One table under other settings -/

/-- The declaration with a setting. -/
def set (d : Declaration) (key text : String) : Declaration :=
  { d with settings := d.settings.insert key (.text text) }

theorem AgreeBut.refl (d : Declaration) : d.AgreeBut names d := ⟨rfl, fun _ _ => rfl, rfl⟩

theorem AgreeBut.set {key text : String} (h : d.AgreeBut names d') (hkey : key ∈ names) :
    d.AgreeBut names (d'.set key text) where
  worksheet := h.worksheet
  setting? k hk := by
    rw [← h.setting? k hk]
    refine (KeyMap.get?_insert _ _ _ _).trans (if_neg ?_)
    rintro rfl
    exact hk hkey
  entries := h.entries

/-- A declaration of two columns, the first of them the key, for a table that it names. -/
def visits : Declaration where
  worksheet := "Visits"
  settings := KeyMap.ofList [("source_table", .text "visit_log"), ("target_table", .text "visits")]
  entries :=
    [⟨5, some (.text "ID"), some (.text "id"), none, some (.text "integer"), none,
      some (.bool true), none, none⟩,
    ⟨6, some (.text "AT"), some (.text "at"), none, some (.text "timestamp"), none, none, none,
      none⟩]

/-- The same table under another target name, in another place and with tags. -/
def movedVisits : Declaration :=
  ((visits.set "target_table" "calls").set "target_location" "/lake/calls").set "tags" "web daily"

/-- The same table from other files, which consist of JSON records. -/
def rereadVisits : Declaration :=
  ((visits.set "source_table" "calls").set "source_format" "json").set "batch_profile" "landing"

/-- The changes reach the documents that they belong to, and no others. -/
theorem sourceDocument_separate_visits : ∃ t moved reread : Table,
    visits.table "web_visits" "web" {} = .ok t ∧
    movedVisits.table "web_calls" "web" { datalakeProfile := "lake" } = .ok moved ∧
    rereadVisits.table "web_visits" "web" { defaultFieldDelimiter := ";" } = .ok reread ∧
    (moved.sourceDocument .datalake ≠ t.sourceDocument .datalake ∧
      moved.sourceDocument .batch = t.sourceDocument .batch) ∧
    (reread.sourceDocument .batch ≠ t.sourceDocument .batch ∧
      reread.sourceDocument .datalake = t.sourceDocument .datalake) := by
  have hok : ((do
      let t ← visits.table "web_visits" "web" {}
      let moved ← movedVisits.table "web_calls" "web" { datalakeProfile := "lake" }
      let reread ← rereadVisits.table "web_visits" "web" { defaultFieldDelimiter := ";" }
      return (t, moved, reread)) : Except Rejection (Table × Table × Table)).toOption.map
        (fun (t, moved, reread) => decide
          (moved.sourceDocument .datalake ≠ t.sourceDocument .datalake ∧
            reread.sourceDocument .batch ≠ t.sourceDocument .batch)) = some true := by
    decide +kernel
  obtain ⟨⟨_, _, _⟩, hread, hchanged⟩ := exists_of_toOption_map hok
  simp only [bind_eq_ok_iff, pure_eq_ok_iff, Prod.mk.injEq] at hread
  obtain ⟨t, ht, moved, hmoved, reread, hreread, rfl, rfl, rfl⟩ := hread
  obtain ⟨hdatalake, hbatch⟩ := of_decide_eq_true hchanged
  have hsame : visits.AgreeBut targetSettings movedVisits :=
    (((AgreeBut.refl visits).set (by decide)).set (by decide)).set (by decide)
  have hsource : visits.AgreeBut sourceSettings rereadVisits :=
    (((AgreeBut.refl visits).set (by decide)).set (by decide)).set (by decide)
  refine ⟨t, moved, reread, ht, hmoved, hreread, ⟨hdatalake, ?_⟩, hbatch, ?_⟩
  · exact (sourceDocument_separate visits movedVisits "web" {} _).1 hsame ⟨"", "lake", "", rfl⟩
      _ _ t moved ht hmoved
  · exact ((sourceDocument_separate visits rereadVisits "web" {} _).2 hsource
      ⟨"", "", "", "csv", ";", rfl⟩ "visits" (by decide +kernel) (by decide +kernel)).2
      _ t reread ht hreread

end Declaration

end Intake
