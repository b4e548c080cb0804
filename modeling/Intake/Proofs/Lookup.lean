import Intake.Proofs.Consistency
import Intake.Proofs.Loading

/-!
# Selecting tables by name

A table is asked for by its target name, or by the part of it after the prefix of the flow
(`Table.nameForms`), and a name may be spelled with blanks around it and in any case of the ASCII
letters (`Text.IsSpelling`). The name that is asked for is brought into the namespace of the flow
like the name of a table, which answers to it when the two are the same (`Table.AnswersTo`).

Both ways lead to most tables, but not to all (`answersTo_iff`). A target name that ends in a blank,
as it may when it comes from a filename with a wildcard at the end, is not found because the name
that is asked for is trimmed; and a short form that begins with the prefix once more is taken for a
target name. `loadMapping_selection` says what is selected from a mapping that was stored.
-/

namespace Intake

open FileStore Intake.Path

namespace Text

/-! ## Stripped ends -/

variable {p : Char → Bool} {as bs cs : List Char}

theorem stripEnds_map {f : Char → Char} (hf : ∀ c, p (f c) = p c) :
    stripEnds p (cs.map f) = (stripEnds p cs).map f := by
  have hcomp : p ∘ f = p := funext hf
  rw [stripEnds, stripEnds, List.dropWhile_map, hcomp, ← List.map_reverse, List.dropWhile_map,
    hcomp, ← List.map_reverse]

/-- What begins and ends with other characters stays in front. -/
theorem stripEnds_append (cs : List Char) (has : TrimmedEnds p as) (hne : as ≠ []) :
    ∃ rest, stripEnds p (as ++ cs) = as ++ rest := by
  have hdrop : ∀ {l : List Char} (rest : List Char), (∀ c ∈ l.head?, p c = false) → l ≠ [] →
      (l ++ rest).dropWhile p = l ++ rest := by
    intro l rest hhead hl
    obtain ⟨c, l, rfl⟩ := List.exists_cons_of_ne_nil hl
    rw [List.cons_append, List.dropWhile_cons_of_neg (by simp [hhead c rfl])]
  refine ⟨(cs.reverse.dropWhile p).reverse, ?_⟩
  have hlast : ∀ c ∈ as.reverse.head?, p c = false := by simpa using has.last
  rw [stripEnds, hdrop cs has.head hne, List.reverse_append, List.dropWhile_append]
  split
  · next hempty =>
    have hrest := hdrop [] hlast (by simpa using hne)
    rw [List.append_nil] at hrest
    rw [hrest, List.isEmpty_iff.1 hempty]
    simp
  · simp

theorem TrimmedEnds.concat {c : Char} (h : TrimmedEnds p cs) (hc : p c = false) :
    TrimmedEnds p (cs ++ [c]) where
  head := by
    cases cs with
    | nil => simpa using hc
    | cons d cs => exact h.head
  last := by simpa using hc

/-! ## Spellings -/

/-- A spelling of a word: with blanks around it, and in any case of the ASCII letters. -/
def IsSpelling (s w : String) : Prop :=
  ∃ before word after, s = before ++ word ++ after ∧ isBlankText before = true ∧
    isBlankText after = true ∧ sameIgnoringAsciiCase word w = true

theorem isBlank_toLower (c : Char) : isBlank c.toLower = isBlank c := by
  have hascii : ∀ n < 0x80, isBlank (Char.ofNat n).toLower = isBlank (Char.ofNat n) := by
    decide +kernel
  by_cases h : c.toNat < 0x80
  · simpa using hascii c.toNat h
  · rw [toLower_eq_self (Nat.not_lt.1 h)]

theorem IsLower.toLower_eq {c : Char} (h : IsLower c) : c.toLower = c := by
  by_cases hascii : c.toNat < 0x80
  · have heq := h.lowerChar_eq
    rwa [lowerChar, if_pos hascii] at heq
  · exact toLower_eq_self (Nat.not_lt.1 hascii)

/-- Where only ASCII letters are not in lower case, lower-casing changes these. -/
theorem lowerAfter_eq_map {before cs : List Char} (h : ∀ c ∈ cs, IsLower c.toLower) :
    lowerAfter before cs = cs.map Char.toLower := by
  induction cs generalizing before with
  | nil => rfl
  | cons c cs ih =>
    obtain ⟨hc, hcs⟩ := List.forall_mem_cons.1 h
    have hsigma : c ≠ 'Σ' := by
      rintro rfl
      exact hc.ne_sigma (by decide)
    have hdotted : c ≠ 'İ' := by
      rintro rfl
      exact hc.ne_dotted (by decide)
    have hchar : lowerChar c = c.toLower := by
      by_cases hascii : c.toNat < 0x80
      · rw [lowerChar, if_pos hascii]
      · have hself := toLower_eq_self (Nat.not_lt.1 hascii)
        rw [hself] at hc ⊢
        exact hc.lowerChar_eq
    rw [lowerAfter, if_neg hsigma, if_neg hdotted, hchar, ih hcs]
    rfl

theorem length_trim_le (s : String) : (trim s).toList.length ≤ s.toList.length := by
  obtain ⟨as, bs, hs, -, -⟩ := exists_eq_append_stripEnds isBlank s.toList
  rw [← toList_trim] at hs
  rw [hs, List.length_append, List.length_append]
  omega

/-- Of a spelling of a word in lower case, trimming and lower-casing leave the trimmed word. -/
theorem IsSpelling.lower_trim {s w : String} (h : IsSpelling s w)
    (hw : ∀ c ∈ w.toList, IsLower c) : lower (trim s) = trim w := by
  obtain ⟨before, word, after, rfl, hbefore, hafter, hsame⟩ := h
  have hword : word.toList.map Char.toLower = w.toList := by
    rw [eq_of_beq hsame, List.map_congr_left fun c hc => (hw c hc).toLower_eq, List.map_id']
  have htrim : (trim (before ++ word ++ after)).toList = stripEnds isBlank word.toList := by
    rw [toList_trim, String.toList_append, String.toList_append]
    exact stripEnds_append_of_all (List.all_eq_true.1 hbefore) (List.all_eq_true.1 hafter)
  have hlower : (stripEnds isBlank word.toList).map Char.toLower = (trim w).toList := by
    rw [← stripEnds_map isBlank_toLower, hword, toList_trim]
  refine String.toList_injective ?_
  rw [lower, String.toList_ofList, htrim, ← hlower]
  refine lowerAfter_eq_map fun c hc => hw _ ?_
  have hmem : c.toLower ∈ (trim w).toList := hlower ▸ List.mem_map_of_mem hc
  obtain ⟨as, bs, hw, -, -⟩ := exists_eq_append_stripEnds isBlank w.toList
  rw [toList_trim] at hmem
  rw [hw]
  simp [hmem]

end Text

/-! ## Names in the namespace of a flow -/

variable {fs fs' : FileSystem} {m : Mapping} {t : Table} {flow out name rest s w : String}
  {names : List String} {tables : List Table}

theorem isLower_of_mem_withFlowPrefix (name : String) (hflow : Text.lower flow = flow) {c : Char}
    (hc : c ∈ (withFlowPrefix name flow).toList) : Text.IsLower c := by
  have hlower : ∀ {s : String} {c : Char}, c ∈ (Text.lower s).toList → Text.IsLower c := by
    intro s c hc
    rw [Text.lower, String.toList_ofList] at hc
    exact Text.isLower_of_mem_lowerAfter hc
  unfold withFlowPrefix at hc
  dsimp only at hc
  split at hc
  · exact hlower hc
  · rw [flowPrefix, String.toList_append, String.toList_append, List.mem_append,
      List.mem_append, ← hflow] at hc
    rcases hc with (hc | hc) | hc
    · exact hlower hc
    · have hmark : c = '_' := by simpa using hc
      rw [hmark]
      decide
    · exact hlower hc

/-- Trimming does not take away the prefix of a flow whose name is trimmed. -/
theorem hasFlowPrefix_trim (hflow : Text.trim flow = flow) (rest : String) :
    HasFlowPrefix flow (Text.trim (flow ++ "_" ++ rest)) := by
  have hends : Text.TrimmedEnds Text.isBlank (flow ++ "_").toList := by
    have htrimmed := Text.trimmedEnds_stripEnds Text.isBlank flow.toList
    rw [← Text.toList_trim, hflow] at htrimmed
    rw [String.toList_append]
    exact htrimmed.concat (by decide)
  obtain ⟨after, hafter⟩ := Text.stripEnds_append rest.toList hends (by simp)
  refine ⟨String.ofList after, String.toList_injective ?_⟩
  rw [Text.toList_trim, String.toList_append, hafter]
  simp

namespace Table

/-- The names that a table is asked for by. -/
def nameForms (t : Table) (flow : String) : List String :=
  [t.targetTable, stripFlowPrefix t.targetTable flow]

/-- The name that is asked for is that of the table once it is in the namespace of the flow. -/
def AnswersTo (t : Table) (flow s : String) : Prop :=
  withFlowPrefix (Text.trim s) flow = t.targetTable

/-- A form of the name that leads to the table: it has no blanks at its ends, and a short form does
not begin with the prefix of the flow. -/
def IsReachedBy (t : Table) (flow w : String) : Prop :=
  Text.trim w = w ∧ (w = t.targetTable ∨ ¬ HasFlowPrefix flow w)

end Table

/-- Only a form of its name leads to a table. -/
theorem Table.AnswersTo.lower_trim_mem (h : t.AnswersTo flow s)
    (hbears : HasFlowPrefix flow t.targetTable) :
    Text.lower (Text.trim s) ∈ t.nameForms flow := by
  obtain ⟨rest, hrest⟩ := hbears
  rw [Table.AnswersTo, hrest, withFlowPrefix_eq_iff] at h
  rw [Table.nameForms, hrest, stripFlowPrefix_eq]
  rcases h with h | ⟨h, -⟩ <;> simp [h]

/-- A table answers to the spellings of those forms of its name that lead to it, and to no others of
its forms. -/
theorem answersTo_iff (hflow : normalFlow flow = flow)
    (htarget : ∃ name, t.targetTable = withFlowPrefix name flow) (hw : w ∈ t.nameForms flow)
    (hs : Text.IsSpelling s w) : t.AnswersTo flow s ↔ t.IsReachedBy flow w := by
  have hlower : Text.lower flow = flow := by
    rw [← hflow, lower_normalFlow]
  have htrim : Text.trim flow = flow := by
    rw [← hflow, normalFlow, Text.trim_lower_trim]
  obtain ⟨name, hname⟩ := htarget
  obtain ⟨rest, hrest⟩ := withFlowPrefix_hasFlowPrefix name flow
  rw [hrest] at hname
  have hforms : t.nameForms flow = [flow ++ "_" ++ rest, rest] := by
    rw [Table.nameForms, hname, stripFlowPrefix_eq]
  have hletters : ∀ c ∈ w.toList, Text.IsLower c := by
    intro c hc
    refine isLower_of_mem_withFlowPrefix name hlower ?_
    rw [hrest]
    rw [hforms] at hw
    rcases List.mem_pair.1 hw with rfl | rfl
    · exact hc
    · simp [hc]
  rw [Table.AnswersTo, Table.IsReachedBy, hname, withFlowPrefix_eq_iff, hs.lower_trim hletters]
  rw [hforms] at hw
  rcases List.mem_pair.1 hw with rfl | rfl
  · simp [hasFlowPrefix_trim htrim rest]
  · have hlong : ∀ s : String, s.toList.length ≤ w.toList.length → s ≠ flow ++ "_" ++ w := by
      rintro s hs rfl
      simp at hs
      omega
    rw [or_iff_right (hlong _ (Text.length_trim_le w)), or_iff_right (hlong _ le_rfl)]
    exact and_congr_right fun heq => by rw [heq]

/-! ## Selecting -/

theorem selectTables_eq_ok_iff : selectTables m flow names = .ok tables ↔
    List.Forall₂ (fun name t => m.get? (withFlowPrefix (Text.trim name) flow) = some t)
      names tables := by
  induction names generalizing tables with
  | nil => simp [selectTables, eq_comm]
  | cons name names ih =>
    rw [selectTables, List.forall₂_cons_left_iff]
    cases hget : m.get? (withFlowPrefix (Text.trim name) flow) with
    | none => simp
    | some t =>
      simp only [Option.some.injEq]
      constructor
      · intro h
        obtain ⟨ts, hts, rfl⟩ := map_eq_ok_iff.1 h
        exact ⟨t, ts, rfl, ih.1 hts, rfl⟩
      · rintro ⟨t, ts, rfl, hts, rfl⟩
        exact map_eq_ok_iff.2 ⟨ts, ih.2 hts, rfl⟩

/-- A selection fails, because a table is unknown, when one of the names leads to none. -/
theorem exists_selectTables_eq_error_iff :
    (∃ name, selectTables m flow names = .error (.tableUnknown flow name)) ↔
      ∃ s ∈ names, m.get? (withFlowPrefix (Text.trim s) flow) = none := by
  induction names with
  | nil => simp [selectTables]
  | cons name names ih =>
    rw [selectTables, List.exists_mem_cons_iff]
    cases hget : m.get? (withFlowPrefix (Text.trim name) flow) with
    | none => exact iff_of_true ⟨_, rfl⟩ (.inl rfl)
    | some t =>
      rw [or_iff_right (by simp), ← ih]
      cases selectTables m flow names <;> simp [Except.map]

namespace Mapping

/-- Where no two tables have the same name, a name leads to the table that bears it. -/
theorem get?_eq_some_iff (hnodup : m.names.Nodup) :
    m.get? name = some t ↔ t ∈ m.tables ∧ t.targetTable = name := by
  constructor
  · intro h
    exact ⟨List.mem_of_find?_eq_some h, by simpa using List.find?_some h⟩
  · rintro ⟨ht, rfl⟩
    cases hget : m.get? t.targetTable with
    | none =>
      have hnot := List.find?_eq_none.1 hget t ht
      simp at hnot
    | some t' =>
      have hname : t'.targetTable = t.targetTable := by simpa using List.find?_some hget
      rw [List.inj_on_of_nodup_map hnodup (List.mem_of_find?_eq_some hget) ht hname]

theorem get?_eq_none_iff : m.get? name = none ↔ ∀ t ∈ m.tables, ¬ name = t.targetTable := by
  simp [get?, eq_comm (a := name)]

/-- The names of all tables have been brought into the namespace of the flow. -/
theorem exists_withFlowPrefix_of_build {sheets : List Worksheet} {config : Config}
    (h : build sheets flow config = .ok m) (ht : t ∈ m.tables) :
    ∃ name, t.targetTable = withFlowPrefix name (normalFlow flow) := by
  obtain ⟨d, target, htarget, htable⟩ := exists_of_build h ht
  obtain ⟨source, keys, style, columns, -, -, -, -, rfl⟩ := Declaration.table_eq_ok_iff.1 htable
  exact Declaration.exists_withFlowPrefix_targetTable htarget

/-- A selection gives the tables that answer to the names. -/
theorem select_eq_ok_iff (hnodup : m.names.Nodup) (hne : names ≠ []) :
    m.select flow names = .ok ⟨tables⟩ ↔
      List.Forall₂ (fun s t => t ∈ m.tables ∧ t.AnswersTo flow s) names tables := by
  have hnames : names.isEmpty = false := by simpa using hne
  rw [select, hnames, if_neg Bool.false_ne_true, map_eq_ok_iff]
  constructor
  · rintro ⟨ts, hts, heq⟩
    obtain rfl := Mapping.mk.inj heq
    refine (selectTables_eq_ok_iff.1 hts).imp fun s t hget => ?_
    obtain ⟨ht, hname⟩ := (get?_eq_some_iff hnodup).1 hget
    exact ⟨ht, hname.symm⟩
  · intro h
    refine ⟨tables, selectTables_eq_ok_iff.2 (h.imp fun s t hanswers => ?_), rfl⟩
    exact (get?_eq_some_iff hnodup).2 ⟨hanswers.1, hanswers.2.symm⟩

/-- A selection fails, because a table is unknown, exactly when no table answers to some name. -/
theorem exists_select_eq_error_iff :
    (∃ name, m.select flow names = .error (.tableUnknown flow name)) ↔
      ∃ s ∈ names, ∀ t ∈ m.tables, ¬ t.AnswersTo flow s := by
  have hanswers : (∃ s ∈ names, ∀ t ∈ m.tables, ¬ t.AnswersTo flow s) ↔
      ∃ name, selectTables m flow names = .error (.tableUnknown flow name) := by
    simp only [exists_selectTables_eq_error_iff, get?_eq_none_iff, Table.AnswersTo]
  rw [hanswers, select]
  cases names with
  | nil => simp [selectTables]
  | cons name names =>
    rw [List.isEmpty_cons, if_neg Bool.false_ne_true]
    cases selectTables m flow (name :: names) <;> simp [Except.map]

end Mapping

/-- What is loaded from a mapping that was built for a flow and stored. Without names it is the
mapping. With names it is the tables that they ask for, in that order, when each of them spells a
form of the name of its table that leads to it; and of the spellings of its forms, a table is
selected by no others. Loading fails because a table is unknown exactly when no table answers to
some name, and so when this name, trimmed and in lower case, is no form of the name of any table. -/
theorem loadMapping_selection {sheets : List Worksheet} {config : Config} {path : String}
    (hflow : normalFlow flow = flow) (hbuild : Mapping.build sheets flow config = .ok m)
    (hfloats : m.FloatsReadBack)
    (hrun : (writeMetadata m flow out : Action OnFiles String).on fs = (.ok path, fs')) :
    let load (names : List String) := (loadMapping out flow names : Action OnFiles Mapping).on fs'
    load [] = (.ok m, fs') ∧
    (∀ names tables, names ≠ [] →
      List.Forall₂ (fun s t => t ∈ m.tables ∧
        ∃ w ∈ t.nameForms flow, Text.IsSpelling s w ∧ t.IsReachedBy flow w) names tables →
      load names = (.ok ⟨tables⟩, fs')) ∧
    (∀ t ∈ m.tables, ∀ w ∈ t.nameForms flow, ∀ s, Text.IsSpelling s w →
      (load [s] = (.ok ⟨[t]⟩, fs') ↔ t.IsReachedBy flow w)) ∧
    (∀ names, (∃ name, load names = (.error (.tableUnknown flow name), fs')) ↔
      ∃ s ∈ names, ∀ t ∈ m.tables, ¬ t.AnswersTo flow s) ∧
    ∀ names, (∃ s ∈ names, ∀ t ∈ m.tables, Text.lower (Text.trim s) ∉ t.nameForms flow) →
      ∃ name, load names = (.error (.tableUnknown flow name), fs') := by
  intro load
  have hlower : Text.lower flow = flow := by
    rw [← hflow, lower_normalFlow]
  have hload : ∀ names, load names = (m.select flow names, fs') := by
    intro names
    have hstored := on_loadMapping_of_writeMetadata names (Mapping.storable_of_build hbuild)
      hfloats hrun
    rwa [hlower] at hstored
  have hconsistent := Mapping.consistent_of_build hbuild
  rw [hflow] at hconsistent
  have hnodup : m.names.Nodup := hconsistent.targetTables
  have htarget : ∀ t ∈ m.tables, ∃ name, t.targetTable = withFlowPrefix name flow := by
    intro t ht
    have hname := Mapping.exists_withFlowPrefix_of_build hbuild ht
    rwa [hflow] at hname
  have herror : ∀ names, (∃ name, load names = (.error (.tableUnknown flow name), fs')) ↔
      ∃ s ∈ names, ∀ t ∈ m.tables, ¬ t.AnswersTo flow s := by
    intro names
    simp only [hload, Prod.mk.injEq, and_true, Mapping.exists_select_eq_error_iff]
  refine ⟨by rw [hload]; rfl, fun names tables hne hnames => ?_, fun t ht w hw s hs => ?_, herror,
    fun names ⟨s, hs, hnone⟩ => (herror names).2 ⟨s, hs, fun t ht hanswers => ?_⟩⟩
  · rw [hload, (Mapping.select_eq_ok_iff hnodup hne).2 (hnames.imp fun s t h => ?_)]
    obtain ⟨ht, w, hw, hs, hreached⟩ := h
    exact ⟨ht, (answersTo_iff hflow (htarget t ht) hw hs).2 hreached⟩
  · rw [hload, Prod.mk.injEq, and_iff_left rfl,
      Mapping.select_eq_ok_iff hnodup (List.cons_ne_nil s []), List.forall₂_cons,
      and_iff_left List.Forall₂.nil, and_iff_right ht, answersTo_iff hflow (htarget t ht) hw hs]
  · exact hnone t ht (hanswers.lower_trim_mem (hconsistent.wellFormed t ht).targetTable)

/-- The worksheets of two tables, one of which declares the names of its source and its target. -/
def ordersAndReturnedGoods : List Worksheet :=
  [settingsSheet "Orders" [("source_table", "orders")],
    settingsSheet "Returns" [("source_table", "returns"), ("target_table", "Sales_Returned")]]

theorem loadMapping_selection_returned : ∃ m orders returned fs',
    Mapping.build ordersAndReturnedGoods "sales" {} = .ok m ∧ m.tables = [orders, returned] ∧
    (writeMetadata m "sales" "out" : Action OnFiles String).on ⟨[]⟩ =
      (.ok "out/flows/sales.cfg.json", fs') ∧
    (loadMapping "out" "sales" [" RETURNED ", "sales_Orders", "sales_returned"] :
      Action OnFiles Mapping).on fs' = (.ok ⟨[returned, orders, returned]⟩, fs') ∧
    ∃ name, (loadMapping "out" "sales" ["orders", "returns"] : Action OnFiles Mapping).on fs' =
      (.error (.tableUnknown "sales" name), fs') := by
  have hok : (Mapping.build ordersAndReturnedGoods "sales" {}).toOption.map (fun m =>
      (m.names, decide m.FloatsReadBack,
        ((writeMetadata m "sales" "out" : Action OnFiles String).on ⟨[]⟩).1.toOption)) =
      some (["sales_orders", "sales_returned"], true, some "out/flows/sales.cfg.json") := by
    decide +kernel
  obtain ⟨m, hm, hfacts⟩ := exists_of_toOption_map hok
  obtain ⟨hnames, hfacts⟩ := Prod.mk.inj hfacts
  obtain ⟨hfloats, hwritten⟩ := Prod.mk.inj hfacts
  obtain ⟨orders, rest, htables, horders, hrest⟩ := List.map_eq_cons_iff.1 hnames
  obtain ⟨returned, rest, rfl, hreturned, hrest⟩ := List.map_eq_cons_iff.1 hrest
  obtain rfl := List.map_eq_nil_iff.1 hrest
  obtain ⟨fs', hrun⟩ := Action.exists_on_of_toOption_eq_some hwritten
  obtain ⟨-, hload, -, -, hunknown⟩ :=
    loadMapping_selection (by decide +kernel) hm (of_decide_eq_true hfloats) hrun
  have hforms : orders.nameForms "sales" = ["sales_orders", "orders"] ∧
      returned.nameForms "sales" = ["sales_returned", "returned"] := by
    rw [Table.nameForms, Table.nameForms, horders, hreturned]
    decide +kernel
  rw [htables] at hload hunknown
  refine ⟨m, orders, returned, fs', hm, htables, hrun, hload _ _ (by simp) ?_,
    hunknown _ ⟨"returns", by simp, ?_⟩⟩
  · simp only [List.forall₂_cons, List.Forall₂.nil, and_true, hforms, Table.IsReachedBy, horders,
      hreturned]
    refine ⟨⟨by simp, "returned", by simp, ?_, by decide +kernel⟩,
      ⟨by simp, "sales_orders", by simp, ?_, by decide +kernel⟩,
      ⟨by simp, "sales_returned", by simp, ?_, by decide +kernel⟩⟩
    · exact ⟨" ", "RETURNED", " ", by decide +kernel⟩
    · exact ⟨"", "sales_Orders", "", by decide +kernel⟩
    · exact ⟨"", "sales_returned", "", by decide +kernel⟩
  · simp only [List.forall_mem_cons, hforms]
    decide +kernel

/-- The worksheets of a table with a blank at the end of its name, and of one whose name has the
prefix of the flow twice. -/
def patternAndArchive : List Worksheet :=
  [settingsSheet "Orders" [("source_filename", "orders *.csv")],
    settingsSheet "Archive" [("source_table", "sales_sales_archive")]]

/-- A table with a blank at the end of its name is not found by any of its forms, and one whose name
has the prefix of the flow twice is not found by the short one, though no other table has these
forms. -/
theorem exists_forms_not_found : ∃ m fs', Mapping.build patternAndArchive "sales" {} = .ok m ∧
    m.FloatsReadBack ∧
    m.tables.map (·.nameForms "sales") =
      [["sales_orders ", "orders "], ["sales_sales_archive", "sales_archive"]] ∧
    (writeMetadata m "sales" "out" : Action OnFiles String).on ⟨[]⟩ =
      (.ok "out/flows/sales.cfg.json", fs') ∧
    (loadMapping "out" "sales" ["sales_orders "] : Action OnFiles Mapping).on fs' =
      (.error (.tableUnknown "sales" "sales_orders"), fs') ∧
    (loadMapping "out" "sales" ["orders "] : Action OnFiles Mapping).on fs' =
      (.error (.tableUnknown "sales" "sales_orders"), fs') ∧
    (loadMapping "out" "sales" ["sales_archive"] : Action OnFiles Mapping).on fs' =
      (.error (.tableUnknown "sales" "sales_archive"), fs') := by
  have hok : (Mapping.build patternAndArchive "sales" {}).toOption.map (fun m =>
      (decide m.FloatsReadBack, m.tables.map (·.nameForms "sales"),
        ((writeMetadata m "sales" "out" : Action OnFiles String).on ⟨[]⟩).1.toOption,
        decide (m.select "sales" ["sales_orders "] = .error (.tableUnknown "sales" "sales_orders") ∧
          m.select "sales" ["orders "] = .error (.tableUnknown "sales" "sales_orders") ∧
          m.select "sales" ["sales_archive"] =
            .error (.tableUnknown "sales" "sales_archive")))) =
      some (true, [["sales_orders ", "orders "], ["sales_sales_archive", "sales_archive"]],
        some "out/flows/sales.cfg.json", true) := by
    decide +kernel
  obtain ⟨m, hm, hfacts⟩ := exists_of_toOption_map hok
  obtain ⟨hfloats, hfacts⟩ := Prod.mk.inj hfacts
  obtain ⟨hforms, hfacts⟩ := Prod.mk.inj hfacts
  obtain ⟨hwritten, hselect⟩ := Prod.mk.inj hfacts
  have hfloats := of_decide_eq_true hfloats
  obtain ⟨hfull, hshort, htwice⟩ := of_decide_eq_true hselect
  obtain ⟨fs', hrun⟩ := Action.exists_on_of_toOption_eq_some hwritten
  have hload : ∀ names, (loadMapping "out" "sales" names : Action OnFiles Mapping).on fs' =
      (m.select "sales" names, fs') := fun names =>
    on_loadMapping_of_writeMetadata names (Mapping.storable_of_build hm) hfloats hrun
  exact ⟨m, fs', hm, hfloats, hforms, hrun, by rw [hload, hfull], by rw [hload, hshort],
    by rw [hload, htwice]⟩

end Intake
