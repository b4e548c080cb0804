import Mathlib.Data.List.Perm.Basic
import Intake.Proofs.Assembly

/-!
# Mappings are made worksheet by worksheet

What a worksheet gives to a mapping is decided by the worksheet alone (`Worksheet.Gives`): nothing,
a target name if its table is excluded, and a target name and a table otherwise. A mapping is built
exactly when every worksheet gives something and what they give is compatible
(`Mapping.build_eq_ok_iff_gives`), where compatibility only compares names
(`Contribution.Compatible`) and does not depend on the order.

So a workbook is accepted exactly when each of its worksheets is accepted by itself and no names
meet, and its tables are those of the worksheets in order. Worksheets may be put in another order,
and those that give no table may be left out (`Mapping.build_compositional`).
-/

namespace Intake

/-! ## One worksheet -/

/-- What a worksheet gives to a mapping. -/
structure Contribution where
  /-- The target name that no other worksheet may resolve to. -/
  target? : Option String
  tables : List Table

/-- What a worksheet gives to the mapping of a flow. -/
inductive Worksheet.Gives (flow : String) (config : Config) (sheet : Worksheet) :
    Contribution → Prop
  | nothing (hread : sheet.declaration? = .ok none) : Gives flow config sheet ⟨none, []⟩
  | excluded {d : Declaration} {target : String} (hread : sheet.declaration? = .ok (some d))
    (htarget : d.targetTable flow = .ok target) (hexcluded : d.isExcluded = true) :
    Gives flow config sheet ⟨some target, []⟩
  | included {d : Declaration} {target : String} {t : Table}
    (hread : sheet.declaration? = .ok (some d)) (htarget : d.targetTable flow = .ok target)
    (hincluded : d.isExcluded = false) (htable : d.table target flow config = .ok t)
    (hcolumns : (t.columns.map fun c => Text.lower c.targetColumn).Nodup) :
    Gives flow config sheet ⟨some target, [t]⟩

/-- The target name that an ingestion worksheet resolves to, whether it is excluded or not. -/
def Worksheet.targetTable? (flow : String) (sheet : Worksheet) : Option String :=
  sheet.declaration?.toOption.join.bind fun d => (d.targetTable flow).toOption

variable {flow : String} {config : Config} {sheets : List Worksheet} {parts : List Contribution}

namespace Worksheet.Gives

variable {sheet : Worksheet} {p : Contribution}

theorem targetTable?_eq (h : sheet.Gives flow config p) :
    sheet.targetTable? flow = p.target? := by
  cases h with
  | nothing hread => simp [targetTable?, hread, Except.toOption]
  | excluded hread htarget => simp [targetTable?, hread, htarget, Except.toOption]
  | included hread htarget => simp [targetTable?, hread, htarget, Except.toOption]

/-- A table bears the target name of its worksheet. -/
theorem targetTables_sublist (h : sheet.Gives flow config p) :
    (p.tables.map (·.targetTable)).Sublist p.target?.toList := by
  cases h with
  | nothing => exact List.nil_sublist _
  | excluded => exact List.nil_sublist _
  | included _ _ _ htable =>
    obtain ⟨source, keys, style, columns, -, -, -, -, rfl⟩ := Declaration.table_eq_ok_iff.1 htable
    exact List.Sublist.refl _

theorem length_tables_le (h : sheet.Gives flow config p) : p.tables.length ≤ 1 := by
  cases h <;> simp

theorem nodup_columns (h : sheet.Gives flow config p) :
    ∀ t ∈ p.tables, (t.columns.map fun c => Text.lower c.targetColumn).Nodup := by
  cases h with
  | nothing => simp
  | excluded => simp
  | included _ _ _ _ hcolumns => simpa using hcolumns

end Worksheet.Gives

/-! ## All worksheets -/

namespace Contribution

/-- The target names of a list of contributions. -/
def targets (parts : List Contribution) : List String := parts.filterMap (·.target?)

/-- The tables of a list of contributions. -/
def allTables (parts : List Contribution) : List Table := parts.flatMap (·.tables)

/-- No two contributions have the same target name, or tables with the same document. -/
structure Compatible (parts : List Contribution) : Prop where
  targets : (targets parts).Nodup
  batch : ((allTables parts).map (·.batchDocument)).Nodup
  datalake : ((allTables parts).map (·.datalakeDocument)).Nodup

/-- Compatibility does not depend on the order. -/
theorem Compatible.perm {parts' : List Contribution} (h : Compatible parts)
    (hperm : parts.Perm parts') : Compatible parts' where
  targets := (hperm.filterMap _).nodup_iff.1 h.targets
  batch := ((hperm.flatMap_right _).map _).nodup_iff.1 h.batch
  datalake := ((hperm.flatMap_right _).map _).nodup_iff.1 h.datalake

/-- A contribution without a table can be left out. -/
theorem Compatible.erase {before after : List Contribution} {p : Contribution}
    (h : Compatible (before ++ p :: after)) (hp : p.tables = []) :
    Compatible (before ++ after) ∧
      allTables (before ++ p :: after) = allTables (before ++ after) := by
  have hall : allTables (before ++ p :: after) = allTables (before ++ after) := by
    simp [allTables, hp]
  have hsublist : (before ++ after).Sublist (before ++ p :: after) :=
    (List.Sublist.refl before).append (List.sublist_cons_self p after)
  exact ⟨⟨h.targets.sublist (hsublist.filterMap _), hall ▸ h.batch, hall ▸ h.datalake⟩, hall⟩

/-- A single contribution with one table at most is compatible. -/
theorem compatible_singleton {p : Contribution} (h : p.tables.length ≤ 1) : Compatible [p] := by
  have hnodup : ∀ f : Table → String, ((allTables [p]).map f).Nodup := by
    intro f
    rw [allTables, List.flatMap_singleton]
    rcases Nat.le_one_iff_eq_zero_or_eq_one.1 h with hzero | hone
    · simp [List.length_eq_zero_iff.1 hzero]
    · obtain ⟨t, ht⟩ := List.length_eq_one_iff.1 hone
      simp [ht]
  refine ⟨?_, hnodup _, hnodup _⟩
  rw [targets]
  cases hp : p.target? <;> simp [hp]

end Contribution

open Contribution

/-- The worksheets of an accepted workbook give its declarations and tables. -/
theorem exists_gives_of_assembleTables {declared : List (String × Declaration)}
    {tables : List Table} (hdeclared : declarations flow sheets = .ok declared)
    (htables : assembleTables flow config declared = .ok tables)
    (hcolumns : ∀ t ∈ tables, (t.columns.map fun c => Text.lower c.targetColumn).Nodup) :
    ∃ parts, List.Forall₂ (Worksheet.Gives flow config) sheets parts ∧
      targets parts = declared.map (·.1) ∧ allTables parts = tables := by
  induction sheets generalizing declared tables with
  | nil =>
    cases hdeclared
    cases htables
    exact ⟨[], .nil, rfl, rfl⟩
  | cons sheet rest ih =>
    simp only [declarations, bind_eq_ok_iff] at hdeclared
    obtain ⟨read, hread, hdeclared⟩ := hdeclared
    cases read with
    | none =>
      obtain ⟨parts, hgives, htargets, hall⟩ := ih hdeclared htables hcolumns
      exact ⟨_ :: parts, .cons (.nothing hread) hgives, htargets, hall⟩
    | some d =>
      simp only [bind_eq_ok_iff, pure_eq_ok_iff] at hdeclared
      obtain ⟨target, htarget, others, hothers, rfl⟩ := hdeclared
      rw [assembleTables] at htables
      split at htables
      · next hexcluded =>
        obtain ⟨parts, hgives, htargets, hall⟩ := ih hothers htables hcolumns
        refine ⟨_ :: parts, .cons (.excluded hread htarget hexcluded) hgives, ?_, hall⟩
        exact congrArg (target :: ·) htargets
      · next hincluded =>
        simp only [bind_eq_ok_iff, pure_eq_ok_iff] at htables
        obtain ⟨t, ht, tables, hrest, rfl⟩ := htables
        obtain ⟨hnodup, hcolumns⟩ := List.forall_mem_cons.1 hcolumns
        obtain ⟨parts, hgives, htargets, hall⟩ := ih hothers hrest hcolumns
        refine ⟨_ :: parts, .cons (.included hread htarget (by simpa using hincluded) ht hnodup)
          hgives, ?_, ?_⟩
        · exact congrArg (target :: ·) htargets
        · exact congrArg (t :: ·) hall

/-- What worksheets give is what their declarations are assembled to. -/
theorem exists_assembleTables_of_gives
    (h : List.Forall₂ (Worksheet.Gives flow config) sheets parts) :
    ∃ declared, declarations flow sheets = .ok declared ∧ declared.map (·.1) = targets parts ∧
      assembleTables flow config declared = .ok (allTables parts) := by
  induction h with
  | nil => exact ⟨[], rfl, rfl, rfl⟩
  | @cons sheet p rest parts hgives _ ih =>
    obtain ⟨declared, hdeclared, htargets, htables⟩ := ih
    cases hgives with
    | nothing hread => exact ⟨declared, by simp [declarations, hread, hdeclared, bind, Except.bind],
        htargets, htables⟩
    | @excluded d target hread htarget hexcluded =>
      refine ⟨(target, d) :: declared, ?_, congrArg (target :: ·) htargets, ?_⟩
      · simp [declarations, hread, htarget, hdeclared, bind, Except.bind, pure, Except.pure]
      · rw [assembleTables, if_pos hexcluded, htables]
        rfl
    | @included d target t hread htarget hincluded htable _ =>
      refine ⟨(target, d) :: declared, ?_, congrArg (target :: ·) htargets, ?_⟩
      · simp [declarations, hread, htarget, hdeclared, bind, Except.bind, pure, Except.pure]
      · rw [assembleTables, if_neg (by simp [hincluded]), htable, htables]
        rfl

theorem targetTables_sublist_targets
    (h : List.Forall₂ (Worksheet.Gives flow config) sheets parts) :
    ((allTables parts).map (·.targetTable)).Sublist (targets parts) := by
  induction h with
  | nil => exact List.Sublist.slnil
  | @cons sheet p rest parts hgives _ ih =>
    have hsplit : targets (p :: parts) = p.target?.toList ++ targets parts := by
      cases hp : p.target? <;> simp [targets, hp]
    rw [hsplit, allTables, List.flatMap_cons, List.map_append]
    exact hgives.targetTables_sublist.append ih

theorem nodup_columns_of_gives (h : List.Forall₂ (Worksheet.Gives flow config) sheets parts) :
    ∀ t ∈ allTables parts, (t.columns.map fun c => Text.lower c.targetColumn).Nodup := by
  induction h with
  | nil => simp [allTables]
  | cons hgives _ ih =>
    intro t ht
    rw [allTables, List.flatMap_cons, List.mem_append] at ht
    exact ht.elim (hgives.nodup_columns t) (ih t)

/-- What the other worksheets give when one of them is left out. -/
theorem exists_gives_append {before after : List Worksheet} {sheet : Worksheet}
    (h : List.Forall₂ (Worksheet.Gives flow config) (before ++ sheet :: after) parts) :
    ∃ partsBefore p partsAfter, parts = partsBefore ++ p :: partsAfter ∧
      sheet.Gives flow config p ∧
      List.Forall₂ (Worksheet.Gives flow config) (before ++ after) (partsBefore ++ partsAfter) := by
  have hbefore := List.forall₂_take before.length h
  have hrest := List.forall₂_drop before.length h
  rw [List.take_left] at hbefore
  rw [List.drop_left, List.forall₂_cons_left_iff] at hrest
  obtain ⟨p, partsAfter, hp, hafter, hdrop⟩ := hrest
  refine ⟨parts.take before.length, p, partsAfter, ?_, hp, List.rel_append hbefore hafter⟩
  rw [← hdrop, List.take_append_drop]

theorem filterMap_targetTable?_eq (h : List.Forall₂ (Worksheet.Gives flow config) sheets parts) :
    sheets.filterMap (·.targetTable? flow) = targets parts := by
  induction h with
  | nil => rfl
  | cons hgives _ ih =>
    rw [List.filterMap_cons, hgives.targetTable?_eq, ih, targets, targets, List.filterMap_cons]

namespace Mapping

variable {m : Mapping}

/-- A mapping is built when every worksheet gives something and what they give is compatible. -/
theorem build_eq_ok_iff_gives : build sheets flow config = .ok m ↔ ∃ parts,
    List.Forall₂ (Worksheet.Gives (normalFlow flow) config) sheets parts ∧ Compatible parts ∧
      m.tables = allTables parts := by
  rw [build_eq_ok_iff]
  constructor
  · rintro ⟨declared, hdeclared, hnames, htables, hcheck⟩
    obtain ⟨-, ⟨hbatch, hdatalake⟩, hcolumns⟩ := check_eq_ok_iff.1 hcheck
    obtain ⟨parts, hgives, htargets, hall⟩ :=
      exists_gives_of_assembleTables hdeclared htables hcolumns
    exact ⟨parts, hgives, ⟨htargets ▸ hnames, hall ▸ hbatch, hall ▸ hdatalake⟩, hall.symm⟩
  · rintro ⟨parts, hgives, hcompatible, hall⟩
    obtain ⟨declared, hdeclared, htargets, htables⟩ := exists_assembleTables_of_gives hgives
    refine ⟨declared, hdeclared, htargets ▸ hcompatible.targets, hall ▸ htables, ?_⟩
    rw [check_eq_ok_iff, names, hall]
    refine ⟨hcompatible.targets.sublist (targetTables_sublist_targets hgives),
      ⟨hcompatible.batch, hcompatible.datalake⟩, nodup_columns_of_gives hgives⟩

/-- A worksheet is accepted by itself when it gives something. -/
theorem build_singleton_eq_ok_iff {sheet : Worksheet} : build [sheet] flow config = .ok m ↔
    ∃ p, sheet.Gives (normalFlow flow) config p ∧ m.tables = p.tables := by
  rw [build_eq_ok_iff_gives]
  constructor
  · rintro ⟨parts, hgives, -, hall⟩
    obtain ⟨p, rest, hp, hrest, rfl⟩ := List.forall₂_cons_left_iff.1 hgives
    obtain rfl := List.forall₂_nil_left_iff.1 hrest
    exact ⟨p, hp, by simpa [allTables] using hall⟩
  · rintro ⟨p, hp, htables⟩
    exact ⟨[p], .cons hp .nil, compatible_singleton hp.length_tables_le,
      by simpa [allTables] using htables⟩

/-- Every worksheet gives something when every worksheet is accepted by itself. -/
theorem forall₂_build_singleton_iff {alone : List Mapping} :
    List.Forall₂ (fun sheet a => build [sheet] flow config = .ok a) sheets alone ↔
      ∃ parts, List.Forall₂ (Worksheet.Gives (normalFlow flow) config) sheets parts ∧
        alone = parts.map fun p => ⟨p.tables⟩ := by
  simp only [build_singleton_eq_ok_iff]
  constructor
  · intro h
    induction h with
    | nil => exact ⟨[], .nil, rfl⟩
    | @cons sheet a rest alone hsheet _ ih =>
      obtain ⟨p, hp, htables⟩ := hsheet
      obtain ⟨parts, hgives, rfl⟩ := ih
      exact ⟨p :: parts, .cons hp hgives, by rw [List.map_cons, ← htables]⟩
  · rintro ⟨parts, hgives, rfl⟩
    rw [List.forall₂_map_right_iff]
    exact hgives.imp fun sheet p hp => ⟨p, hp, rfl⟩

/-- Worksheets that are accepted are accepted in every order. -/
theorem exists_build_of_perm {sheets' : List Worksheet} (h : build sheets flow config = .ok m)
    (hperm : sheets.Perm sheets') :
    ∃ m', build sheets' flow config = .ok m' ∧ m.tables.Perm m'.tables := by
  obtain ⟨parts, hgives, hcompatible, hall⟩ := build_eq_ok_iff_gives.1 h
  obtain ⟨parts', hgives', hparts⟩ := List.perm_comp_forall₂ hperm.symm hgives
  refine ⟨⟨allTables parts'⟩, build_eq_ok_iff_gives.2 ⟨parts', hgives', ?_, rfl⟩, ?_⟩
  · exact hcompatible.perm hparts.symm
  · rw [hall]
    exact hparts.symm.flatMap_right _

/-! ## Leaving out worksheets -/

section

variable {before after : List Worksheet} {sheet : Worksheet}

/-- A worksheet of another kind makes no difference, not even to a failure. -/
theorem build_append_cons_of_nothing (h : sheet.declaration? = .ok none) :
    build (before ++ sheet :: after) flow config = build (before ++ after) flow config := by
  have hdeclared : ∀ flow, declarations flow (before ++ sheet :: after) =
      declarations flow (before ++ after) := by
    intro flow
    induction before with
    | nil =>
      rw [List.nil_append, List.nil_append, declarations, h]
      rfl
    | cons first before ih => simp only [List.cons_append, declarations, ih]
  rw [build, build, hdeclared]

/-- An excluded worksheet makes no difference to a mapping that is built. -/
theorem build_append_of_excluded {d : Declaration} (hread : sheet.declaration? = .ok (some d))
    (hexcluded : d.isExcluded = true)
    (h : build (before ++ sheet :: after) flow config = .ok m) :
    build (before ++ after) flow config = .ok m := by
  obtain ⟨parts, hgives, hcompatible, hall⟩ := build_eq_ok_iff_gives.1 h
  obtain ⟨partsBefore, p, partsAfter, rfl, hp, hothers⟩ := exists_gives_append hgives
  have htables : p.tables = [] := by
    cases hp with
    | nothing => rfl
    | excluded => rfl
    | included hread' _ hincluded =>
      rw [hread, Except.ok.injEq, Option.some.injEq] at hread'
      rw [hread', hincluded] at hexcluded
      simp at hexcluded
  obtain ⟨hcompatible', heq⟩ := hcompatible.erase htables
  exact build_eq_ok_iff_gives.2 ⟨_, hothers, hcompatible', hall.trans heq⟩

end

/-! ## Compositionality -/

/-- What a workbook compiles to is composed of what its worksheets compile to by themselves, for
every list of worksheets, flow and configuration.

The workbook is accepted exactly when each worksheet is accepted by itself, no two ingestion
worksheets resolve to the same target name, excluded ones included, and no two of the tables have
the same document of a kind; and its tables are those of the worksheets, in order. So the worksheets
of an accepted workbook can be put in another order, which puts the tables in another order, a
worksheet of another kind can be left out of every workbook, and an excluded one out of an accepted
workbook. -/
theorem build_compositional (sheets : List Worksheet) (flow : String) (config : Config) :
    (∀ m, build sheets flow config = .ok m ↔ ∃ alone : List Mapping,
      List.Forall₂ (fun sheet a => build [sheet] flow config = .ok a) sheets alone ∧
      (sheets.filterMap (·.targetTable? (normalFlow flow))).Nodup ∧
      ((alone.flatMap (·.tables)).map (·.batchDocument)).Nodup ∧
      ((alone.flatMap (·.tables)).map (·.datalakeDocument)).Nodup ∧
      m.tables = alone.flatMap (·.tables)) ∧
    (∀ m sheets', build sheets flow config = .ok m → sheets.Perm sheets' →
      ∃ m', build sheets' flow config = .ok m' ∧ m.tables.Perm m'.tables) ∧
    (∀ before sheet after, sheets = before ++ sheet :: after →
      (sheet.declaration? = .ok none →
        build (before ++ after) flow config = build sheets flow config) ∧
      (∀ d m, sheet.declaration? = .ok (some d) → d.isExcluded = true →
        build sheets flow config = .ok m → build (before ++ after) flow config = .ok m)) := by
  refine ⟨fun m => ?_, fun m sheets' => exists_build_of_perm, ?_⟩
  · have hflatMap : ∀ parts : List Contribution,
        (parts.map fun p => (⟨p.tables⟩ : Mapping)).flatMap (·.tables) = allTables parts :=
      fun parts => List.flatMap_map ..
    rw [build_eq_ok_iff_gives]
    simp only [forall₂_build_singleton_iff]
    constructor
    · rintro ⟨parts, hgives, ⟨htargets, hbatch, hdatalake⟩, hall⟩
      refine ⟨_, ⟨parts, hgives, rfl⟩, ?_, ?_, ?_, ?_⟩
      · rwa [filterMap_targetTable?_eq hgives]
      all_goals rwa [hflatMap]
    · rintro ⟨alone, ⟨parts, hgives, rfl⟩, htargets, hbatch, hdatalake, hall⟩
      rw [hflatMap] at hbatch hdatalake hall
      rw [filterMap_targetTable?_eq hgives] at htargets
      exact ⟨parts, hgives, ⟨htargets, hbatch, hdatalake⟩, hall⟩
  · rintro before sheet after rfl
    exact ⟨fun h => (build_append_cons_of_nothing h).symm, fun d m => build_append_of_excluded⟩

/-- A worksheet that is excluded, and one of another kind. -/
def drafts : Worksheet :=
  ⟨"Drafts", [[.text "TYPE"], [.text "#INGESTION"], [.text "#CONFIG"],
    [.text "source_table", .text "drafts"], [.text "exclude_table", .text "yes"]]⟩

def notes : Worksheet := ⟨"Notes", [[.text "free text"]]⟩

/-- Worksheets of two tables over the same raw files of different profiles, with others between. -/
def ordersAndReturns : List Worksheet :=
  [⟨"Orders", [[.text "TYPE"], [.text "#INGESTION"], [.text "#CONFIG"],
      [.text "source_table", .text "orders"], [.text "#SELECT"],
      [.text "source_name", .text "new_name", .text "data_type"],
      [.text "ID", .text "order_id", .text "integer"]]⟩,
    drafts, notes,
    ⟨"Returns", [[.text "TYPE"], [.text "#INGESTION"], [.text "#CONFIG"],
      [.text "source_table", .text "orders"], [.text "target_table", .text "returns"],
      [.text "batch_profile", .text "archive"]]⟩]

theorem build_compositional_ordersAndReturns :
    ∃ m, build ordersAndReturns "Sales" {} = .ok m ∧ m.names = ["sales_orders", "sales_returns"] ∧
      (∃ alone : List Mapping, List.Forall₂ (fun sheet a => build [sheet] "Sales" {} = .ok a)
        ordersAndReturns alone ∧ m.tables = alone.flatMap (·.tables)) ∧
      (∃ m', build ordersAndReturns.reverse "Sales" {} = .ok m' ∧ m.tables.Perm m'.tables) ∧
      build (ordersAndReturns.erase notes) "Sales" {} = .ok m ∧
      build (ordersAndReturns.erase drafts) "Sales" {} = .ok m := by
  have hok : (build ordersAndReturns "Sales" {}).toOption.map names =
      some ["sales_orders", "sales_returns"] := by decide +kernel
  have hdrafts : drafts.declaration?.toOption.map (fun d? => d?.map (·.isExcluded)) =
      some (some true) := by decide +kernel
  obtain ⟨m, hm, hnames⟩ := exists_of_toOption_map hok
  obtain ⟨d?, hread, hexcluded⟩ := exists_of_toOption_map hdrafts
  obtain ⟨d, rfl, hd⟩ := Option.map_eq_some_iff.1 hexcluded
  obtain ⟨hparts, hperm, herase⟩ := build_compositional ordersAndReturns "Sales" {}
  obtain ⟨alone, halone, -, -, -, htables⟩ := (hparts m).1 hm
  refine ⟨m, hm, hnames, ⟨alone, halone, htables⟩, ?_, ?_, ?_⟩
  · exact hperm m _ hm (List.reverse_perm _).symm
  · exact ((herase (ordersAndReturns.take 2) notes (ordersAndReturns.drop 3) rfl).1 rfl).trans hm
  · exact (herase (ordersAndReturns.take 1) drafts (ordersAndReturns.drop 2) rfl).2 d m hread
      hd hm

end Mapping

end Intake
