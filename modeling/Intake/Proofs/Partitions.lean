import Intake.Proofs.Config
import Intake.Proofs.RowFault
import Intake.Proofs.Source.Separation

/-!
# Ways to declare partition keys

The partition keys of a table are a list of texts in the configuration, or one text with commas
there, or one text with commas in the worksheet. `Declaration.partitions_alike` says that it does
not matter which of these they are, and that in the worksheet they replace those of the
configuration even when they are blank.

Each way cuts its text into keys at another time. What they have in common is that blanks around a
key do not count, wherever they are taken away (`splitPartitions_trim`), so that all of them come to
the trimmed texts in lower case without those that are blank (`declaredKeys`). The first of these
that may not be the name of a column is the fault of the table
(`Declaration.checkPartitions_eq_error_iff`).
-/

namespace Intake

open Yaml (Value requiredSetting?_of_ne settingOr?_of_ne settingOr?_value)

/-! ## Blanks around texts -/

namespace Text

theorem trim_trim (s : String) : trim (trim s) = trim s := by
  rw [trim, toList_trim, (trimmedEnds_stripEnds isBlank s.toList).stripEnds_eq, ← toList_trim,
    String.ofList_toList]

theorem trimmed?_eq (s : String) :
    trimmed? s = if trim s = "" then none else some (trim s) := by
  unfold trimmed?
  split
  · next hblank => rw [if_pos (trim_eq_empty hblank)]
  · next hblank => rw [if_neg (trim_ne_empty (by simpa using hblank))]

end Text

/-- Blanks around a piece of a text do not count. -/
theorem trimmed?_ofList_append (as cs bs : List Char)
    (has : ∀ a ∈ as, Text.isBlank a = true) (hbs : ∀ b ∈ bs, Text.isBlank b = true) :
    Text.trimmed? (String.ofList (as ++ cs ++ bs)) = Text.trimmed? (String.ofList cs) := by
  simp only [Text.trimmed?_eq, Text.trim, String.toList_ofList,
    Text.stripEnds_append_of_all has hbs]

theorem comma_not_mem {as : List Char} (h : ∀ a ∈ as, Text.isBlank a = true) : ',' ∉ as :=
  fun hmem => absurd (h _ hmem) (by decide)

/-! ## Keys in a text -/

theorem splitPartitions_ofList_append_left {as : List Char} (cs : List Char)
    (has : ∀ a ∈ as, Text.isBlank a = true) :
    splitPartitions (String.ofList (as ++ cs)) = splitPartitions (String.ofList cs) := by
  induction as with
  | nil => rfl
  | cons a as ih =>
    obtain ⟨ha, hrest⟩ := List.forall_mem_cons.1 has
    have hcomma : a ≠ ',' := (List.ne_of_not_mem_cons (comma_not_mem has)).symm
    have hpiece : ∀ piece, Text.trimmed? (String.ofList (a :: piece)) =
        Text.trimmed? (String.ofList piece) := by
      intro piece
      have h := trimmed?_ofList_append [a] piece [] (List.forall_mem_singleton.2 ha)
        (List.forall_mem_nil _)
      rwa [List.append_nil] at h
    rw [← ih hrest]
    simp only [splitPartitions, String.toList_ofList, List.cons_append, Text.splitOn,
      if_neg hcomma]
    cases hsplit : Text.splitOn ',' (as ++ cs) with
    | nil =>
      rw [Text.splitOn_eq] at hsplit
      exact absurd hsplit (List.splitOn_ne_nil _ _)
    | cons piece pieces => simp only [List.filterMap_cons, hpiece]

theorem splitPartitions_ofList_append_right {bs : List Char} (cs : List Char)
    (hbs : ∀ b ∈ bs, Text.isBlank b = true) :
    splitPartitions (String.ofList (cs ++ bs)) = splitPartitions (String.ofList cs) := by
  obtain ⟨pieces, last, hcs, hcsbs⟩ := Text.splitOn_append cs (comma_not_mem hbs)
  have hlast : Text.trimmed? (String.ofList (last ++ bs)) = Text.trimmed? (String.ofList last) :=
    trimmed?_ofList_append [] last bs (List.forall_mem_nil _) hbs
  simp only [splitPartitions, String.toList_ofList, hcs, hcsbs, List.filterMap_append,
    List.filterMap_cons, hlast]

/-- Blanks around a text do not count for the keys in it. -/
theorem splitPartitions_trim (s : String) : splitPartitions (Text.trim s) = splitPartitions s := by
  obtain ⟨as, bs, hs, has, hbs⟩ := Text.exists_eq_append_stripEnds Text.isBlank s.toList
  have hparts : s = String.ofList (as ++ Text.stripEnds Text.isBlank s.toList ++ bs) := by
    rw [← hs, String.ofList_toList]
  conv_rhs => rw [hparts]
  rw [splitPartitions_ofList_append_right _ hbs, splitPartitions_ofList_append_left _ has]
  rfl

/-- A cell reads as the trimmed text, and one that reads as none holds no keys. -/
theorem splitPartitions_getD_trimmed? (s : String) :
    splitPartitions ((Text.trimmed? s).getD "") = splitPartitions s := by
  rw [Text.trimmed?_eq, ← splitPartitions_trim s]
  split
  · next hblank => rw [hblank, Option.getD_none]
  · rw [Option.getD_some]

/-- The keys in joined texts are those of these texts that are not blank. -/
theorem splitPartitions_intercalate {texts : List String} (h : ∀ s ∈ texts, ',' ∉ s.toList) :
    splitPartitions (",".intercalate texts) = texts.filterMap Text.trimmed? := by
  by_cases hne : texts = []
  · subst hne
    decide
  · have hpieces : ∀ piece ∈ texts.map String.toList, ',' ∉ piece := by simpa using h
    have hsplit := List.splitOn_intercalate ',' hpieces (by simpa using hne)
    rw [splitPartitions, String.toList_intercalate, Text.splitOn_eq]
    rw [show ",".toList = [','] from rfl, hsplit, List.filterMap_map]
    simp only [Function.comp_def, String.ofList_toList]

/-- The keys that texts declare: trimmed and in lower case, without those that are blank. -/
def declaredKeys (texts : List String) : List String :=
  (texts.map fun s => Text.lower (Text.trim s)).filter (· ≠ "")

/-- Blank texts may be left out, and others trimmed, before keys are made of them. -/
theorem declaredKeys_filterMap (texts : List String) :
    declaredKeys (texts.filterMap Text.trimmed?) = declaredKeys texts := by
  induction texts with
  | nil => rfl
  | cons s rest ih =>
    unfold declaredKeys at *
    rw [List.filterMap_cons, Text.trimmed?_eq]
    by_cases hblank : Text.trim s = ""
    · have hlower : Text.lower "" = "" := rfl
      rw [if_pos hblank, List.map_cons, hblank, hlower, List.filter_cons_of_neg (by simp)]
      exact ih
    · rw [if_neg hblank, List.map_cons, List.map_cons, List.filter_cons, List.filter_cons,
        Text.trim_trim, ih]

/-! ## Keys in the configuration -/

/-- Joined texts and a list of them are read as the same keys. -/
theorem partitionList?_intercalate {texts : List String} (h : ∀ s ∈ texts, ',' ∉ s.toList) :
    partitionList? (.text (",".intercalate texts)) = partitionList? (.list (texts.map .text)) := by
  have hread : (texts.map Value.text).mapM Yaml.plainText? = some texts :=
    mapM_map_eq_some fun s _ => rfl
  have hjoined : partitionList? (.text (",".intercalate texts)) =
      some (splitPartitions (",".intercalate texts)) := rfl
  rw [hjoined, splitPartitions_intercalate h, partitionList?, hread]
  rfl

namespace Config

variable {before after : List (Value × Value)} {key : String} {v w : Value}

/-- A configuration depends on how its partition keys are written only by the keys they are. -/
theorem ofYaml?_eq_of_partitionList?_eq (hkey : Text.lower key = "default_partitions")
    (h : partitionList? w = partitionList? v) (hv : v ≠ .null) (hw : w ≠ .null) :
    ofYaml? (.mapping (before ++ (.text key, w) :: after)) =
      ofYaml? (.mapping (before ++ (.text key, v) :: after)) := by
  have hread : partitionList? w.lowerKeys = partitionList? v.lowerKeys := by
    rw [Value.read_lowerKeys partitionList?_mapping, Value.read_lowerKeys partitionList?_mapping, h]
  have hnull : w.lowerKeys = .null ↔ v.lowerKeys = .null := by
    rw [Value.lowerKeys_eq_null_iff, Value.lowerKeys_eq_null_iff]
    exact iff_of_false hw hv
  have hmerged : ∀ u : Value, (Value.mapping (before ++ (.text key, u) :: after)).lowerKeys =
      .mapping (Value.mergeEntries (before.map Value.lowerEntry ++
        (.text "default_partitions", u.lowerKeys) :: after.map Value.lowerEntry)) := by
    intro u
    rw [Value.lowerKeys_mapping, List.map_append, List.map_cons, Value.lowerEntry, Value.lowerKey,
      hkey]
  rw [ofYaml?, ofYaml?, hmerged, hmerged]
  rcases Value.mergeEntries_value "default_partitions" (before.map Value.lowerEntry)
    (after.map Value.lowerEntry) with ⟨entries, hplace⟩ | ⟨bs, as, hplace⟩
  · rw [hplace, hplace]
  · have hfields : ∀ u : Value,
        (Value.mapping (bs ++ (.text "default_partitions", u) :: as)).fields? =
          if (bs ++ as).all (fun e => e.1.text?.isSome) then
            some (Value.namedEntries bs ++ ("default_partitions", u) :: Value.namedEntries as)
          else none := by
      intro u
      have hname : (Value.text "default_partitions").text? = some "default_partitions" := rfl
      rw [Value.fields?_mapping]
      simp only [Value.namedEntries, List.all_append, List.all_cons, List.filterMap_append,
        List.filterMap_cons, hname, Option.map_some, Option.isSome_some, Bool.true_and]
    rw [hplace, hplace, hfields, hfields]
    split
    · simp only [Option.bind_some, ofFields?, ne_eq, String.reduceEq, not_false_eq_true,
        requiredSetting?_of_ne, settingOr?_of_ne, settingOr?_value hread hnull]
    · rfl

/-- The keys of a configuration are those of the last entry for them. -/
theorem defaultPartitions_eq {c : Config} (hkey : Text.lower key = "default_partitions")
    (hlast : ∀ e ∈ after, e.1.lowerKey.text? ≠ some "default_partitions") (hw : w ≠ .null)
    (h : ofYaml? (.mapping (before ++ (.text key, w) :: after)) = some c) :
    partitionList? w = some c.defaultPartitions := by
  have hname : ((Value.text key).lowerKey.text? == some "default_partitions") = true := by
    rw [Value.lowerKey, hkey]
    rfl
  have hnone : after.filter (fun e => e.1.lowerKey.text? == some "default_partitions") = [] :=
    List.filter_eq_nil_iff.2 fun e he => by simpa using hlast e he
  have hat : (Value.mapping (before ++ (.text key, w) :: after)).at? ["default_partitions"] =
      some w := by
    rw [Value.at?, Value.lastNamed?, List.filter_append, List.filter_cons, if_pos hname,
      hnone, List.getLast?_concat]
    rfl
  have hsetting := (isWrittenIn h).defaultPartitions
  rwa [Value.settingAt?_of_ne_null hat hw] at hsetting

end Config

/-! ## Keys in the worksheet -/

namespace Declaration

variable {d d' : Declaration} {target flow : String} {config : Config}

/-- The fault of partition keys is the first that is forbidden. -/
theorem checkPartitions_eq_error_iff {table : String} {keys : List String} {r : Rejection} :
    checkPartitions table keys = .error r ↔ ∃ before key after, keys = before ++ key :: after ∧
      (∀ k ∈ before, hasForbidden k = false) ∧ hasForbidden key = true ∧
        r = .partitionInvalid table key := by
  induction keys with
  | nil => simp [checkPartitions]
  | cons first rest ih =>
    rw [checkPartitions]
    by_cases hfirst : hasForbidden first = true
    · rw [if_pos hfirst]
      constructor
      · rintro ⟨⟩
        exact ⟨[], first, rest, rfl, by simp, hfirst, rfl⟩
      · rintro ⟨before, key, after, hkeys, hbefore, -, rfl⟩
        cases before with
        | nil =>
          obtain ⟨rfl, -⟩ := List.cons.inj hkeys
          rfl
        | cons b before =>
          obtain ⟨rfl, -⟩ := List.cons.inj hkeys
          rw [hbefore first List.mem_cons_self] at hfirst
          cases hfirst
    · rw [if_neg hfirst, map_eq_error_iff, ih]
      constructor
      · rintro ⟨before, key, after, rfl, hbefore, hkey, rfl⟩
        exact ⟨first :: before, key, after, rfl,
          List.forall_mem_cons.2 ⟨by simpa using hfirst, hbefore⟩, hkey, rfl⟩
      · rintro ⟨before, key, after, hkeys, hbefore, hkey, rfl⟩
        cases before with
        | nil =>
          obtain ⟨rfl, -⟩ := List.cons.inj hkeys
          exact absurd hkey hfirst
        | cons b before =>
          obtain ⟨rfl, rfl⟩ := List.cons.inj hkeys
          exact ⟨before, key, after, rfl, (List.forall_mem_cons.1 hbefore).2, hkey, rfl⟩

theorem sourceTable_ne_partitionInvalid {table key : String} :
    d.sourceTable flow ≠ .error (.partitionInvalid table key) := by
  unfold sourceTable
  split
  · nofun
  · split <;> nofun

theorem partitionStyle_ne_partitionInvalid {table key : String} :
    d.partitionStyle target config ≠ .error (.partitionInvalid table key) := by
  unfold partitionStyle
  split
  · nofun
  · split <;> nofun

theorem ofEntries_ne_partitionInvalid {entries : List ColumnEntry} {context : ColumnContext}
    {table key : String} :
    Column.ofEntries entries context ≠ .error (.partitionInvalid table key) := by
  intro h
  obtain ⟨-, e, -, -, -, he⟩ := Column.ofEntriesFrom_eq_error_iff.1 h
  cases he

/-- A table fails for its partition keys when they do and its source table has a name. -/
theorem table_eq_partitionInvalid_iff {key : String} :
    d.table target flow config = .error (.partitionInvalid target key) ↔
      (∃ source, d.sourceTable flow = .ok source) ∧
        d.partitions target config = .error (.partitionInvalid target key) := by
  simp only [table, bind_eq_error_iff, pure_ne_error, sourceTable_ne_partitionInvalid,
    partitionStyle_ne_partitionInvalid, ofEntries_ne_partitionInvalid, and_false, exists_false,
    or_false, false_or, exists_and_right]

/-- Settings that are not carried along have no influence on those that are. -/
theorem AgreeBut.extra {names : List String} (h : d.AgreeBut names d')
    (hnames : ∀ name ∈ names, name ∈ reservedSettings) : d'.extra = d.extra := by
  have hentries : (d'.settings.entries.filter fun e => !reservedSettings.contains e.1) =
      d.settings.entries.filter fun e => !reservedSettings.contains e.1 := by
    refine @KeyMap.filter_entries_eq _ _ _ (fun key => !reservedSettings.contains key)
      fun key hkey => h.setting? key fun hmem => ?_
    have hcontains : reservedSettings.contains key = true :=
      List.contains_iff_mem.2 (hnames key hmem)
    rw [hcontains] at hkey
    cases hkey
  simp only [Declaration.extra, hentries]

/-- Declarations that agree but for the setting of partition keys give the same table under
configurations that agree but for these, when the keys come out the same. -/
theorem table_eq_of_partitionKeys_eq {defaults : List String} (h : d.AgreeBut ["partitions"] d')
    (hkeys : d'.partitionKeys { config with defaultPartitions := defaults } =
      d.partitionKeys config) :
    d'.table target flow { config with defaultPartitions := defaults } =
      d.table target flow config := by
  have hextra : d'.extra = d.extra := h.extra (by decide +kernel)
  simp (disch := decide +kernel) only [table, h.sourceTable, partitions, hkeys, partitionStyle,
    h.text?, columnContext, sourceFormat, h.textOr, h.flag, h.entries, complete, h.verbatim?,
    h.worksheet, hextra]

theorem partitionKeys_of_unset (h : d.setting? "partitions" = none) :
    d.partitionKeys config = declaredKeys config.defaultPartitions := by
  rw [partitionKeys, partitionNames, h]
  rfl

theorem partitionKeys_of_set {cell : Cell} {s : String} (h : d.setting? "partitions" = some cell)
    (hcell : cell.text? = Text.trimmed? s) :
    d.partitionKeys config = declaredKeys (splitPartitions s) := by
  rw [partitionKeys, partitionNames, h, ← splitPartitions_getD_trimmed? s, ← hcell]
  rfl

theorem text?_settingValue (s : String) :
    (settingValue (some (.text s))).text? = Text.trimmed? s := by
  rw [settingValue]
  split
  · rfl
  · rw [Cell.text?, Text.trimmed?_eq, Text.trimmed?_eq, Text.trim_trim]

/-- The partition columns of a table are those of its keys. -/
theorem filter_isPartition_table {t : Table} (h : d.table target flow config = .ok t) :
    t.columns.filter (·.isPartition) = partitionColumns t.partitions t.partitionStyle := by
  have hdata : t.dataColumns.filter (·.isPartition) = [] := by
    rw [List.filter_eq_nil_iff, Table.dataColumns]
    intro c hc
    simpa using (List.mem_filter.1 hc).2
  have hpartitions : (partitionColumns t.partitions t.partitionStyle).filter (·.isPartition) =
      partitionColumns t.partitions t.partitionStyle :=
    List.filter_eq_self.2 fun c hc => isPartition_of_mem_partitionColumns hc
  rw [columns_table h, List.filter_append, hdata, hpartitions, List.nil_append]

/-- It does not matter in which way partition keys are declared.

A configuration that has them as one text, joined by commas, is the same as one that has them as a
list, in an entry that counts because no later one has its key, and a worksheet that sets them to
the joined text gives the same table as one that leaves them to such a configuration, whatever
stands there for the worksheet that sets them. The keys of this table are the trimmed texts in lower
case, without blank ones, each with a column of its own, or else the first of them that may not be
the name of a column is at fault. -/
theorem partitions_alike {texts : List String} (hcomma : ∀ s ∈ texts, ',' ∉ s.toList)
    {before after : List (Value × Value)} {key : String}
    (hkey : Text.lower key = "default_partitions")
    (hlast : ∀ e ∈ after, e.1.lowerKey.text? ≠ some "default_partitions")
    {d d' : Declaration} (hagree : d.AgreeBut ["partitions"] d')
    (hunset : d.setting? "partitions" = none) {cell : Cell}
    (hset : d'.setting? "partitions" = some cell)
    (hcell : cell.text? = Text.trimmed? (",".intercalate texts)) :
    Config.ofYaml? (.mapping (before ++ (.text key, .text (",".intercalate texts)) :: after)) =
      Config.ofYaml? (.mapping (before ++ (.text key, .list (texts.map .text)) :: after)) ∧
    ∀ c, Config.ofYaml? (.mapping (before ++ (.text key, .list (texts.map .text)) :: after)) =
        some c →
      ∀ config, config.defaultPartitions = c.defaultPartitions → ∀ target flow,
        (∀ defaults, d'.table target flow { config with defaultPartitions := defaults } =
          d.table target flow config) ∧
        (∀ t, d.table target flow config = .ok t → t.partitions = declaredKeys texts ∧
          t.columns.filter (·.isPartition) =
            partitionColumns (declaredKeys texts) t.partitionStyle) ∧
        ∀ k, d.table target flow config = .error (.partitionInvalid target k) ↔
          (∃ source, d.sourceTable flow = .ok source) ∧ ∃ ks ks',
            declaredKeys texts = ks ++ k :: ks' ∧ (∀ k' ∈ ks, hasForbidden k' = false) ∧
              hasForbidden k = true := by
  have hread := partitionList?_intercalate hcomma
  refine ⟨Config.ofYaml?_eq_of_partitionList?_eq hkey hread nofun nofun, ?_⟩
  intro c hc config hconfig target flow
  have hkeys : d.partitionKeys config = declaredKeys texts := by
    have hlist : Value.list (texts.map .text) ≠ .null := nofun
    have hdefaults := Config.defaultPartitions_eq hkey hlast hlist hc
    rw [← hread, ← hconfig] at hdefaults
    have hnames : splitPartitions (",".intercalate texts) = config.defaultPartitions :=
      Option.some.inj hdefaults
    rw [partitionKeys_of_unset hunset, ← hnames, splitPartitions_intercalate hcomma,
      declaredKeys_filterMap]
  have hkeys' : ∀ defaults, d'.partitionKeys { config with defaultPartitions := defaults } =
      declaredKeys texts := by
    intro defaults
    rw [partitionKeys_of_set hset hcell, splitPartitions_intercalate hcomma,
      declaredKeys_filterMap]
  refine ⟨fun defaults => ?_, fun t ht => ?_, fun k => ?_⟩
  · exact table_eq_of_partitionKeys_eq hagree ((hkeys' defaults).trans hkeys.symm)
  · have hpartitions : t.partitions = declaredKeys texts := by
      obtain ⟨source, keys, style, columns, -, hpartitions, -, -, rfl⟩ := table_eq_ok_iff.1 ht
      rw [← hkeys]
      exact (partitions_eq_ok_iff.1 hpartitions).1
    exact ⟨hpartitions, hpartitions ▸ filter_isPartition_table ht⟩
  · rw [table_eq_partitionInvalid_iff, partitions, hkeys, checkPartitions_eq_error_iff]
    refine and_congr_right fun _ => ⟨?_, ?_⟩
    · rintro ⟨ks, k', ks', hks, hbefore, hforbidden, heq⟩
      cases heq
      exact ⟨ks, ks', hks, hbefore, hforbidden⟩
    · rintro ⟨ks, ks', hks, hbefore, hforbidden⟩
      exact ⟨ks, k, ks', hks, hbefore, hforbidden, rfl⟩

/-- A worksheet that sets its source table and nothing else. -/
def bare : Declaration := ⟨"orders", KeyMap.ofList [("source_table", .text "orders")], []⟩

/-- The same worksheet with partition keys. -/
def partitioned (s : String) : Declaration :=
  { bare with settings := bare.settings.insert "partitions" (settingValue (some (.text s))) }

theorem agreeBut_partitioned (s : String) : bare.AgreeBut ["partitions"] (partitioned s) where
  worksheet := rfl
  setting? key hkey := by
    rw [setting?, partitioned, KeyMap.get?_insert, if_neg (by simpa [eq_comm] using hkey)]
    rfl
  entries := rfl

theorem partitions_alike_yearMonth :
    ∃ t, bare.table "sales_orders" "sales" Config.spelledConfig = .ok t ∧
      (partitioned "Year, Month ").table "sales_orders" "sales"
        { Config.spelledConfig with defaultPartitions := ["day"] } = .ok t ∧
      t.partitions = ["year", "month"] := by
  have hcomma : ∀ s ∈ ["Year", " Month "], ',' ∉ s.toList := by decide
  have hkey : Text.lower "Default_Partitions" = "default_partitions" := by decide +kernel
  have hconfig : Config.ofYaml? (.mapping ((Config.spelledEntries "db" "source_schema").dropLast ++
      (.text "Default_Partitions", .list (["Year", " Month "].map .text)) :: [])) =
        some Config.spelledConfig := by decide +kernel
  have hunset : bare.setting? "partitions" = none := by decide +kernel
  have hset : (partitioned "Year, Month ").setting? "partitions" =
      some (settingValue (some (.text "Year, Month "))) := by decide +kernel
  obtain ⟨hsame, hkeys, -⟩ := (partitions_alike hcomma hkey (List.forall_mem_nil _)
    (agreeBut_partitioned "Year, Month ") hunset hset (text?_settingValue _)).2 _ hconfig
    Config.spelledConfig rfl "sales_orders" "sales"
  have hok : ((bare.table "sales_orders" "sales" Config.spelledConfig).toOption.map fun _ => ()) =
      some () := by decide +kernel
  obtain ⟨t, ht, -⟩ := exists_of_toOption_map hok
  have hdeclared : declaredKeys ["Year", " Month "] = ["year", "month"] := by decide +kernel
  exact ⟨t, ht, (hsame ["day"]).trans ht, (hkeys t ht).1.trans hdeclared⟩

example : (partitioned " ").partitionKeys Config.spelledConfig = [] := by decide +kernel

end Declaration

end Intake
