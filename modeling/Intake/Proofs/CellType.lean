import Intake.Proofs.Assembly
import Intake.Proofs.NumberText
import Intake.Proofs.Worksheet.Bounds

/-!
# How cells are typed

A workbook may hold a number or a flag as such, or as the text that it is shown as. Nothing that is
read from a cell but its JSON value tells the two apart: a cell and its text (`Cell.Retyped`) have
the same text, set the same flags and are the same markers.

So two worksheets that differ in the types of cells (`Worksheet.Retyped`) are read alike, row by row
(`Declaration.Retyped.readRow`) and hence as a whole (`Declaration.Retyped.readRows`): under the
same modes, with the same headers, and to declarations that differ in the types of cells only. Two
such declarations have tables that differ in nothing but the types of the settings that are carried
along (`Declaration.Retyped.table`), or they have the same fault. This holds of all tables of
a mapping, hence of the mapping (`Mapping.build_retyped`).

A number must be one of 64 bits for its text to stand in for it, which all numbers of a worksheet
are that has been read (`isDouble_of_gridOf`).
-/

namespace Intake

/-! ## Outcomes and maps that agree up to a relation -/

/-- Two computations fail with the same error, or they have related results. -/
inductive SameOutcome {ε α β : Type} (R : α → β → Prop) : Except ε α → Except ε β → Prop
  | error (e : ε) : SameOutcome R (.error e) (.error e)
  | ok {a : α} {b : β} : R a b → SameOutcome R (.ok a) (.ok b)

namespace SameOutcome

variable {ε α β γ δ : Type} {R : α → β → Prop} {S : γ → δ → Prop} {x : Except ε α} {y : Except ε β}

theorem bind {f : α → Except ε γ} {g : β → Except ε δ} (h : SameOutcome R x y)
    (hnext : ∀ {a b}, R a b → SameOutcome S (f a) (g b)) : SameOutcome S (x >>= f) (y >>= g) := by
  cases h with
  | error e => exact .error e
  | ok hab => exact hnext hab

theorem map {f : α → γ} {g : β → δ} (h : SameOutcome R x y)
    (hresult : ∀ {a b}, R a b → S (f a) (g b)) : SameOutcome S (x.map f) (y.map g) := by
  cases h with
  | error e => exact .error e
  | ok hab => exact .ok (hresult hab)

/-- The same computation may come first. -/
theorem bind_self {f : α → Except ε γ} {g : α → Except ε δ} (x : Except ε α)
    (hnext : ∀ a, SameOutcome S (f a) (g a)) : SameOutcome S (x >>= f) (x >>= g) := by
  cases x with
  | error e => exact .error e
  | ok a => exact hnext a

end SameOutcome

/-- Related lists hold related elements at every position. -/
theorem rel_getElem? {α β : Type} {R : α → β → Prop} {as : List α} {bs : List β}
    (h : List.Forall₂ R as bs) (i : Nat) : Option.Rel R as[i]? bs[i]? := by
  induction h generalizing i with
  | nil => exact .none
  | cons hab _ ih =>
    cases i with
    | zero => exact .some hab
    | succ i => exact ih i

/-- Entries of the same key with related values. -/
def SameKey {α β : Type} (R : α → β → Prop) (e : String × α) (e' : String × β) : Prop :=
  e'.1 = e.1 ∧ R e.2 e'.2

section Maps

variable {α β : Type} {R : α → β → Prop} {m : List (String × α)} {m' : List (String × β)}

theorem forall₂_insertEntry (key : String) {v : α} {v' : β} (hv : R v v')
    (h : List.Forall₂ (SameKey R) m m') :
    List.Forall₂ (SameKey R) (insertEntry key v m) (insertEntry key v' m') := by
  induction h with
  | nil => exact .cons ⟨rfl, hv⟩ .nil
  | @cons e e' rest rest' he hrest ih =>
    obtain ⟨k, w⟩ := e
    obtain ⟨k', w'⟩ := e'
    obtain ⟨rfl, hw⟩ : k' = k ∧ R w w' := he
    unfold insertEntry
    split
    · exact .cons ⟨rfl, hv⟩ (.cons ⟨rfl, hw⟩ hrest)
    · split
      · exact .cons ⟨rfl, hv⟩ hrest
      · exact .cons ⟨rfl, hw⟩ ih

theorem forall₂_sortEntries (h : List.Forall₂ (SameKey R) m m') :
    List.Forall₂ (SameKey R) (sortEntries m) (sortEntries m') := by
  suffices ∀ {sorted : List (String × α)} {sorted' : List (String × β)},
      List.Forall₂ (SameKey R) sorted sorted' →
        List.Forall₂ (SameKey R) (m.foldl (fun s e => insertEntry e.1 e.2 s) sorted)
          (m'.foldl (fun s e => insertEntry e.1 e.2 s) sorted') from this .nil
  induction h with
  | nil => exact id
  | @cons e e' _ _ he _ ih =>
    intro sorted sorted' hsorted
    obtain ⟨hkey, hvalue⟩ := he
    rw [List.foldl_cons, List.foldl_cons, hkey]
    exact ih (forall₂_insertEntry e.1 hvalue hsorted)

theorem map_fst_eq (h : List.Forall₂ (SameKey R) m m') : m'.map (·.1) = m.map (·.1) := by
  induction h with
  | nil => rfl
  | cons he _ ih => rw [List.map_cons, List.map_cons, he.1, ih]

theorem rel_entryValue? (key : String) (h : List.Forall₂ (SameKey R) m m') :
    Option.Rel R (entryValue? key m) (entryValue? key m') := by
  induction h with
  | nil => exact .none
  | @cons e e' _ _ he _ ih =>
    obtain ⟨k, w⟩ := e
    obtain ⟨k', w'⟩ := e'
    obtain ⟨rfl, hw⟩ : k' = k ∧ R w w' := he
    unfold entryValue?
    split
    · exact .some hw
    · exact ih

end Maps

/-! ## Cells and their texts -/

/-- A text that is read as it is: not blank, and without blanks at its ends. -/
structure Text.IsPlain (s : String) : Prop where
  trim_eq : Text.trim s = s
  isBlankText_eq : Text.isBlankText s = false

theorem Text.IsPlain.trimmed?_eq {s : String} (h : Text.IsPlain s) : Text.trimmed? s = some s := by
  rw [Text.trimmed?, h.isBlankText_eq, h.trim_eq]
  rfl

/-- The text of a flag. -/
def flagText (b : Bool) : String := if b then "true" else "false"

theorem isPlain_flagText (b : Bool) : Text.IsPlain (flagText b) := by
  cases b with
  | false => exact ⟨by decide +kernel, by decide +kernel⟩
  | true => exact ⟨by decide +kernel, by decide +kernel⟩

namespace Cell

theorem isPlain_numberText (x : Binary64) : Text.IsPlain (numberText x) :=
  ⟨trim_numberText x, isBlankText_numberText x⟩

/-- A cell, and the same cell or the text of its number or flag in its place. -/
inductive Retyped : Cell → Cell → Prop
  | same (c : Cell) : Retyped c c
  | number (x : Binary64) : x.IsDouble → Retyped (number x) (text (numberText x))
  | bool (b : Bool) : Retyped (bool b) (text (flagText b))

/-- The markers that worksheets are searched for. -/
def markers : List String := ["TYPE", "#INGESTION", "#CONFIG", "#WHERE", "#SELECT"]

theorem trimmed_text {s : String} (h : Text.IsPlain s) : (text s).trimmed = text s :=
  congrArg text h.trim_eq

theorem toJson_text {s : String} (h : Text.IsPlain s) : (text s).toJson = .string s :=
  congrArg Json.Value.string h.trim_eq

theorem settingValue_text {s : String} (h : Text.IsPlain s) :
    settingValue (some (text s)) = text s := by
  rw [settingValue, h.isBlankText_eq, h.trim_eq]
  rfl

namespace Retyped

variable {c c' : Cell} {o o' : Option Cell}

theorem text?_eq (h : Retyped c c') : c'.text? = c.text? := by
  cases h with
  | same => rfl
  | number x _ => exact (isPlain_numberText x).trimmed?_eq
  | bool b => exact (isPlain_flagText b).trimmed?_eq

theorem isTrue_eq (h : Retyped c c') : c'.isTrue = c.isTrue := by
  cases h with
  | same => rfl
  | number x hx => exact isTrue_numberText hx
  | bool b => cases b <;> decide +kernel

theorem isMarker_eq (h : Retyped c c') {marker : String} (hmarker : marker ∈ markers) :
    c'.isMarker marker = c.isMarker marker := by
  cases h with
  | same => rfl
  | number x _ =>
    have hother : ∀ marker ∈ markers, marker.toList.all numberChars.contains = false := by
      decide +kernel
    exact isMarker_numberText (hother marker hmarker)
  | bool b =>
    have hother : ∀ b, ∀ marker ∈ markers, (text (flagText b)).isMarker marker = false := by
      decide +kernel
    exact hother b marker hmarker

theorem trimmed (h : Retyped c c') : Retyped c.trimmed c'.trimmed := by
  cases h with
  | same => exact .same _
  | number x hx =>
    rw [trimmed_text (isPlain_numberText x)]
    exact .number x hx
  | bool b =>
    rw [trimmed_text (isPlain_flagText b)]
    exact .bool b

/-- A cell and its text are kept as the same setting, but for its type. -/
theorem settingValue (h : Option.Rel Retyped o o') :
    Retyped (Intake.settingValue o) (Intake.settingValue o') := by
  cases h with
  | none => exact .same _
  | some hc =>
    cases hc with
    | same => exact .same _
    | number x hx =>
      rw [settingValue_text (isPlain_numberText x)]
      exact .number x hx
    | bool b =>
      rw [settingValue_text (isPlain_flagText b)]
      exact .bool b

theorem bind_text?_eq (h : Option.Rel Retyped o o') : o'.bind text? = o.bind text? := by
  cases h with
  | none => rfl
  | some hc => exact hc.text?_eq

theorem any_isTrue_eq (h : Option.Rel Retyped o o') : o'.any isTrue = o.any isTrue := by
  cases h with
  | none => rfl
  | some hc => exact hc.isTrue_eq

theorem getD_empty (h : Option.Rel Retyped o o') : Retyped (o.getD .empty) (o'.getD .empty) := by
  cases h with
  | none => exact .same _
  | some hc => exact hc

theorem getD_trimmed (h : Option.Rel Retyped o o') :
    Retyped ((o.map Cell.trimmed).getD .empty) ((o'.map Cell.trimmed).getD .empty) := by
  cases h with
  | none => exact .same _
  | some hc => exact hc.trimmed

end Retyped

end Cell

/-! ## JSON values of cells -/

/-- A value, and the same value or the text of the number or flag that it is the value of. -/
inductive Json.Value.Retyped : Json.Value → Json.Value → Prop
  | same (v : Json.Value) : Retyped v v
  | number (x : Binary64) : Retyped (Cell.number x).toJson (.string (Cell.numberText x))
  | bool (b : Bool) : Retyped (.bool b) (.string (flagText b))

theorem Cell.Retyped.toJson {c c' : Cell} (h : c.Retyped c') : c.toJson.Retyped c'.toJson := by
  cases h with
  | same => exact .same _
  | number x _ =>
    rw [toJson_text (isPlain_numberText x)]
    exact .number x
  | bool b =>
    rw [toJson_text (isPlain_flagText b)]
    exact .bool b

/-! ## Rows -/

section Rows

variable {cells cells' header header' : List Cell}

theorem retyped_headD (h : List.Forall₂ Cell.Retyped cells cells') :
    (cells.headD .empty).Retyped (cells'.headD .empty) := by
  cases h with
  | nil => exact .same _
  | cons hc _ => exact hc

theorem Directive.ofRow?_eq_of_retyped (h : List.Forall₂ Cell.Retyped cells cells') :
    ofRow? cells' = ofRow? cells := by
  have hmarker : ∀ marker ∈ Cell.markers,
      (cells'.headD .empty).isMarker marker = (cells.headD .empty).isMarker marker :=
    fun marker => (retyped_headD h).isMarker_eq
  unfold ofRow?
  dsimp only
  rw [hmarker "#CONFIG" (by decide), hmarker "#WHERE" (by decide), hmarker "#SELECT" (by decide)]

/-- The headers are the same, as they are texts. -/
theorem Header.ofRow_eq_of_retyped (h : List.Forall₂ Cell.Retyped header header') :
    ofRow header' = ofRow header := by
  induction h with
  | nil => rfl
  | cons hc _ ih =>
    unfold ofRow at ih ⊢
    rw [List.map_cons, List.map_cons, hc.text?_eq, ih]

/-- What a row holds under a label is the same but for its type. -/
theorem Header.rel_cell? (h : List.Forall₂ Cell.Retyped cells cells') (labels : Header)
    (label : String) : Option.Rel Cell.Retyped (labels.cell? cells label)
      (labels.cell? cells' label) := by
  unfold cell?
  cases labels.column? label with
  | none => exact .none
  | some i =>
    exact .some (Cell.Retyped.getD_trimmed (rel_getElem? h i))

end Rows

/-! ## Entries -/

/-- Entries that agree but for the types of their cells. -/
structure ColumnEntry.Retyped (e e' : ColumnEntry) : Prop where
  row : e'.row = e.row
  sourceName : Option.Rel Cell.Retyped e.sourceName e'.sourceName
  newName : Option.Rel Cell.Retyped e.newName e'.newName
  description : Option.Rel Cell.Retyped e.description e'.description
  dataType : Option.Rel Cell.Retyped e.dataType e'.dataType
  length : Option.Rel Cell.Retyped e.length e'.length
  key : Option.Rel Cell.Retyped e.key e'.key
  index : Option.Rel Cell.Retyped e.index e'.index
  nullable : Option.Rel Cell.Retyped e.nullable e'.nullable

theorem Header.retyped_entry {cells cells' : List Cell}
    (h : List.Forall₂ Cell.Retyped cells cells') (labels : Header) (row : Nat) :
    (labels.entry row cells).Retyped (labels.entry row cells') where
  row := rfl
  sourceName := labels.rel_cell? h "source_name"
  newName := labels.rel_cell? h "new_name"
  description := labels.rel_cell? h "description"
  dataType := labels.rel_cell? h "data_type"
  length := labels.rel_cell? h "length"
  key := labels.rel_cell? h "key"
  index := labels.rel_cell? h "index"
  nullable := labels.rel_cell? h "nullable"

namespace ColumnEntry.Retyped

variable {e e' : ColumnEntry}

theorem sourceText?_eq (h : e.Retyped e') : e'.sourceText? = e.sourceText? := by
  have hsource : text? e'.sourceName = text? e.sourceName :=
    Cell.Retyped.bind_text?_eq h.sourceName
  have hnew : text? e'.newName = text? e.newName := Cell.Retyped.bind_text?_eq h.newName
  have hsome := h.sourceName
  unfold sourceText?
  rw [hsource, hnew]
  generalize e.sourceName = o, e'.sourceName = o' at hsome
  cases hsome <;> rfl

theorem isBlank_eq (h : e.Retyped e') : e'.isBlank = e.isBlank := by
  rw [isBlank, isBlank, h.sourceText?_eq]

theorem target_eq (h : e.Retyped e') (context : ColumnContext) :
    e'.target context = e.target context := by
  have hnew : text? e'.newName = text? e.newName := Cell.Retyped.bind_text?_eq h.newName
  rw [target, target, hnew, h.row]

theorem type_eq (h : e.Retyped e') (context : ColumnContext) :
    e'.type context = e.type context := by
  have htype : text? e'.dataType = text? e.dataType := Cell.Retyped.bind_text?_eq h.dataType
  have hlength : text? e'.length = text? e.length := Cell.Retyped.bind_text?_eq h.length
  rw [type, type, htype, hlength, h.row]

theorem resolved_eq (h : e.Retyped e') (position : Nat) (context : ColumnContext)
    (target : String) (type : ColumnType) :
    Column.resolved e' position context target type =
      Column.resolved e position context target type := by
  have hdescription : text? e'.description = text? e.description :=
    Cell.Retyped.bind_text?_eq h.description
  have hkey : flag e'.key = flag e.key := Cell.Retyped.any_isTrue_eq h.key
  have hindex : flag e'.index = flag e.index := Cell.Retyped.any_isTrue_eq h.index
  have hnullable : flag e'.nullable = flag e.nullable := Cell.Retyped.any_isTrue_eq h.nullable
  rw [Column.resolved, h.sourceText?_eq, hdescription, hkey, hindex, hnullable]
  rfl

/-- An entry declares the same column, or has the same fault. -/
theorem ofEntry_eq (h : e.Retyped e') (position : Nat) (context : ColumnContext) :
    Column.ofEntry e' position context = Column.ofEntry e position context := by
  simp only [Column.ofEntry, h.target_eq, h.type_eq, h.resolved_eq]

end ColumnEntry.Retyped

theorem Column.ofEntriesFrom_eq_of_retyped {entries entries' : List ColumnEntry}
    (h : List.Forall₂ ColumnEntry.Retyped entries entries') (context : ColumnContext)
    (position : Nat) : ofEntriesFrom context position entries' =
      ofEntriesFrom context position entries := by
  induction h generalizing position with
  | nil => rfl
  | cons he _ ih => rw [ofEntriesFrom, ofEntriesFrom, he.ofEntry_eq, ih]

theorem Column.ofEntries_eq_of_retyped {entries entries' : List ColumnEntry}
    (h : List.Forall₂ ColumnEntry.Retyped entries entries') (context : ColumnContext) :
    ofEntries entries' context = ofEntries entries context := by
  have hfilter : List.Forall₂ ColumnEntry.Retyped (entries.filter fun e => !e.isBlank)
      (entries'.filter fun e => !e.isBlank) :=
    List.rel_filter (fun _ _ he => by simp [he.isBlank_eq]) h
  rw [ofEntries, ofEntries, ofEntriesFrom_eq_of_retyped hfilter]

/-! ## Declarations -/

namespace Declaration

theorem readRows_cons (mode : Mode) (d : Declaration) (row : Nat) (cells : List Cell)
    (rest : List (List Cell)) : d.readRows mode row (cells :: rest) =
      d.readRow mode row cells >>= fun read => read.2.readRows read.1 (row + 1) rest := by
  rw [readRows]
  cases d.readRow mode row cells <;> rfl

/-- Declarations that agree but for the types of their cells. -/
structure Retyped (d d' : Declaration) : Prop where
  worksheet : d'.worksheet = d.worksheet
  settings : List.Forall₂ (SameKey Cell.Retyped) d.settings.entries d'.settings.entries
  entries : List.Forall₂ ColumnEntry.Retyped d.entries d'.entries

namespace Retyped

variable {d d' : Declaration} {cells cells' : List Cell}

theorem addSetting (h : d.Retyped d') (hcells : List.Forall₂ Cell.Retyped cells cells') :
    (d.addSetting cells).Retyped (d'.addSetting cells') := by
  unfold Declaration.addSetting
  rw [(retyped_headD hcells).text?_eq]
  cases (cells.headD .empty).text? with
  | none => exact h
  | some key =>
    have hvalue := Cell.Retyped.settingValue (rel_getElem? hcells 1)
    exact ⟨h.worksheet, forall₂_insertEntry (Text.lower key) hvalue h.settings, h.entries⟩

theorem addCondition (h : d.Retyped d') (hcells : List.Forall₂ Cell.Retyped cells cells') :
    (d.addCondition cells).Retyped (d'.addCondition cells') := by
  unfold Declaration.addCondition
  rw [(retyped_headD hcells).text?_eq]
  cases (cells.headD .empty).text? with
  | none => exact h
  | some condition =>
    exact ⟨h.worksheet, forall₂_insertEntry conditionKey (.same _) h.settings, h.entries⟩

theorem addEntry (h : d.Retyped d') {e e' : ColumnEntry} (he : e.Retyped e') :
    (d.addEntry e).Retyped (d'.addEntry e') :=
  ⟨h.worksheet, h.settings, List.rel_append h.entries (.cons he .nil)⟩

/-- A row is read alike: under the same mode next, to declarations that agree again. -/
theorem readRow (h : d.Retyped d') (hcells : List.Forall₂ Cell.Retyped cells cells')
    (mode : Mode) (row : Nat) :
    SameOutcome (fun read read' => read'.1 = read.1 ∧ Retyped read.2 read'.2)
      (d.readRow mode row cells) (d'.readRow mode row cells') := by
  unfold Declaration.readRow
  rw [Directive.ofRow?_eq_of_retyped hcells]
  split
  · exact .ok ⟨rfl, h⟩
  · cases mode with
    | start =>
      rw [h.worksheet]
      exact .error _
    | config => exact .ok ⟨rfl, h.addSetting hcells⟩
    | filter => exact .ok ⟨rfl, h.addCondition hcells⟩
    | header =>
      rw [Header.ofRow_eq_of_retyped hcells]
      exact .ok ⟨rfl, h⟩
    | columns labels => exact .ok ⟨rfl, h.addEntry (labels.retyped_entry hcells row)⟩

/-- A run over rows, each of which is read alike. -/
theorem readRows {rows rows' : List (List Cell)}
    (hrows : List.Forall₂ (List.Forall₂ Cell.Retyped) rows rows') (h : d.Retyped d') (mode : Mode)
    (row : Nat) : SameOutcome Retyped (d.readRows mode row rows) (d'.readRows mode row rows') := by
  induction hrows generalizing d d' mode row with
  | nil => exact .ok h
  | cons hcells _ ih =>
    rw [readRows_cons, readRows_cons]
    refine (h.readRow hcells mode row).bind fun {read read'} hread => ?_
    obtain ⟨mode₁, d₁⟩ := read
    obtain ⟨mode₁', d₁'⟩ := read'
    obtain ⟨rfl, h₁⟩ : mode₁' = mode₁ ∧ d₁.Retyped d₁' := hread
    exact ih h₁ mode₁' (row + 1)

end Retyped

end Declaration

namespace Worksheet

/-- Worksheets that agree but for the types of their cells. -/
structure Retyped (sheet sheet' : Worksheet) : Prop where
  title : sheet'.title = sheet.title
  rows : List.Forall₂ (List.Forall₂ Cell.Retyped) sheet.rows sheet'.rows

variable {sheet sheet' : Worksheet}

theorem Retyped.cell (h : sheet.Retyped sheet') (row column : Nat) :
    (sheet.cell row column).Retyped (sheet'.cell row column) := by
  have hrow := rel_getElem? h.rows row
  unfold Worksheet.cell
  generalize sheet.rows[row]? = cells, sheet'.rows[row]? = cells' at hrow
  cases hrow with
  | none => exact .same _
  | some hcells => exact Cell.Retyped.getD_empty (rel_getElem? hcells column)

/-- A worksheet is read alike, whether it is an ingestion worksheet or not. -/
theorem Retyped.declaration? (h : sheet.Retyped sheet') :
    SameOutcome (Option.Rel Declaration.Retyped) sheet.declaration? sheet'.declaration? := by
  have hrows : List.Forall₂ (List.Forall₂ Cell.Retyped) (sheet.rows.drop 2) (sheet'.rows.drop 2) :=
    List.forall₂_drop 2 h.rows
  have hblank : (Declaration.blank sheet.title).Retyped (Declaration.blank sheet'.title) :=
    ⟨h.title, .nil, .nil⟩
  have hread := Declaration.Retyped.readRows hrows hblank .start 3
  unfold Worksheet.declaration? isIngestion
  rw [(h.cell 0 0).isMarker_eq (by decide), (h.cell 1 0).isMarker_eq (by decide),
    (h.cell 1 0).text?_eq]
  split
  · exact .ok .none
  · split
    · rw [h.title]
      exact .error _
    · exact hread.map .some

end Worksheet

/-! ## Tables -/

/-- Tables that agree but for the types of the settings that are carried along. -/
structure Table.Retyped (t t' : Table) : Prop where
  fields : t' = { t with extra := t'.extra }
  extra : List.Forall₂ (SameKey Json.Value.Retyped) t.extra.members t'.extra.members

namespace Declaration

namespace Retyped

variable {d d' : Declaration}

theorem rel_setting? (h : d.Retyped d') (key : String) :
    Option.Rel Cell.Retyped (d.setting? key) (d'.setting? key) :=
  rel_entryValue? key h.settings

theorem text?_eq (h : d.Retyped d') (key : String) : d'.text? key = d.text? key :=
  Cell.Retyped.bind_text?_eq (h.rel_setting? key)

theorem textOr_eq (h : d.Retyped d') (key default : String) :
    d'.textOr key default = d.textOr key default := by
  rw [textOr, textOr, h.text?_eq]

theorem flag_eq (h : d.Retyped d') (key : String) : d'.flag key = d.flag key :=
  Cell.Retyped.any_isTrue_eq (h.rel_setting? key)

theorem verbatim_of_isPlain {s : String} (h : Text.IsPlain s) :
    (if s ≠ "" ∧ Text.isBlankText s then some s else Text.trimmed? s) = some s := by
  rw [if_neg (by simp [h.isBlankText_eq]), h.trimmed?_eq]

theorem verbatim?_eq (h : d.Retyped d') (key : String) : d'.verbatim? key = d.verbatim? key := by
  have hsetting := h.rel_setting? key
  unfold verbatim?
  generalize d.setting? key = o, d'.setting? key = o' at hsetting
  cases hsetting with
  | none => rfl
  | some hc =>
    cases hc with
    | same => rfl
    | number x _ => exact verbatim_of_isPlain (Cell.isPlain_numberText x)
    | bool b => exact verbatim_of_isPlain (isPlain_flagText b)

theorem sourceTable_eq (h : d.Retyped d') (flow : String) :
    d'.sourceTable flow = d.sourceTable flow := by
  rw [sourceTable, sourceTable, h.text?_eq, h.text?_eq, h.worksheet]

theorem targetTable_eq (h : d.Retyped d') (flow : String) :
    d'.targetTable flow = d.targetTable flow := by
  rw [targetTable, targetTable, h.text?_eq, h.sourceTable_eq]

theorem partitionNames_eq (h : d.Retyped d') (config : Config) :
    d'.partitionNames config = d.partitionNames config := by
  have hsetting := h.rel_setting? "partitions"
  unfold partitionNames
  generalize d.setting? "partitions" = o, d'.setting? "partitions" = o' at hsetting
  cases hsetting with
  | none => rfl
  | some hc => simp only [hc.text?_eq]

theorem partitions_eq (h : d.Retyped d') (target : String) (config : Config) :
    d'.partitions target config = d.partitions target config := by
  rw [partitions, partitions, partitionKeys, partitionKeys, h.partitionNames_eq]

theorem partitionStyle_eq (h : d.Retyped d') (target : String) (config : Config) :
    d'.partitionStyle target config = d.partitionStyle target config := by
  rw [partitionStyle, partitionStyle, h.text?_eq]

theorem columnContext_eq (h : d.Retyped d') (target : String) (config : Config) :
    d'.columnContext target config = d.columnContext target config := by
  rw [columnContext, columnContext, sourceFormat, sourceFormat, h.textOr_eq, h.flag_eq]

theorem isExcluded_eq (h : d.Retyped d') : d'.isExcluded = d.isExcluded := h.flag_eq _

theorem extra (h : d.Retyped d') :
    List.Forall₂ (SameKey Json.Value.Retyped) d.extra.members d'.extra.members := by
  have hkept : List.Forall₂ (SameKey Cell.Retyped)
      (d.settings.entries.filter fun e => !reservedSettings.contains e.1)
      (d'.settings.entries.filter fun e => !reservedSettings.contains e.1) :=
    List.rel_filter (fun _ _ he => by simp [he.1]) h.settings
  refine forall₂_sortEntries ?_
  rw [List.forall₂_map_left_iff, List.forall₂_map_right_iff]
  exact hkept.imp fun _ _ he => ⟨he.1, he.2.toJson⟩

theorem complete (h : d.Retyped d') (target flow : String) (config : Config) (source : String)
    (keys : List String) (style : PartitionStyle) (columns : List Column) :
    (d.complete target flow config source keys style columns).Retyped
      (d'.complete target flow config source keys style columns) where
  fields := by
    simp only [Declaration.complete, sourceFormat, h.textOr_eq, h.text?_eq, h.verbatim?_eq,
      h.flag_eq, h.worksheet]
  extra := h.extra

/-- A declaration has a table that agrees with that of the other, or it has the same fault. -/
theorem table (h : d.Retyped d') (target flow : String) (config : Config) :
    SameOutcome Table.Retyped (d.table target flow config) (d'.table target flow config) := by
  unfold Declaration.table
  rw [h.sourceTable_eq, h.partitions_eq, h.partitionStyle_eq, h.columnContext_eq,
    Column.ofEntries_eq_of_retyped h.entries]
  refine .bind_self _ fun source => .bind_self _ fun keys => .bind_self _ fun style =>
    .bind_self _ fun columns => .ok (h.complete target flow config source keys style columns)

end Retyped

end Declaration

/-! ## Mappings -/

theorem retyped_declarations {flow : String} {sheets sheets' : List Worksheet}
    (h : List.Forall₂ Worksheet.Retyped sheets sheets') :
    SameOutcome (List.Forall₂ (SameKey Declaration.Retyped)) (declarations flow sheets)
      (declarations flow sheets') := by
  induction h with
  | nil => exact .ok .nil
  | cons hsheet _ ih =>
    unfold declarations
    refine hsheet.declaration?.bind fun hread => ?_
    cases hread with
    | none => exact ih
    | some hd =>
      simp only [hd.targetTable_eq]
      exact .bind_self _ fun target => ih.bind fun hothers => .ok (.cons ⟨rfl, hd⟩ hothers)

theorem retyped_assembleTables {flow : String} {config : Config}
    {declared declared' : List (String × Declaration)}
    (h : List.Forall₂ (SameKey Declaration.Retyped) declared declared') :
    SameOutcome (List.Forall₂ Table.Retyped) (assembleTables flow config declared)
      (assembleTables flow config declared') := by
  induction h with
  | nil => exact .ok .nil
  | @cons e e' _ _ he _ ih =>
    obtain ⟨target, d⟩ := e
    obtain ⟨target', d'⟩ := e'
    obtain ⟨rfl, hd⟩ : target' = target ∧ d.Retyped d' := he
    unfold assembleTables
    rw [hd.isExcluded_eq]
    split
    · exact ih
    · exact (hd.table target' flow config).bind fun ht => ih.bind fun hts => .ok (.cons ht hts)

/-- What does not depend on the settings that are carried along is the same of related tables. -/
theorem map_eq_of_retyped {tables tables' : List Table}
    (h : List.Forall₂ Table.Retyped tables tables') {α : Type} {view : Table → α}
    (hview : ∀ t extra, view { t with extra := extra } = view t) :
    tables'.map view = tables.map view := by
  induction h with
  | nil => rfl
  | cons ht _ ih => rw [List.map_cons, List.map_cons, ih, ht.fields, hview]

namespace Mapping

/-- Mappings that agree but for the types of the settings that their tables carry along. -/
def Retyped (m m' : Mapping) : Prop := List.Forall₂ Table.Retyped m.tables m'.tables

/-- The checks of a mapping do not depend on the settings that its tables carry along. -/
theorem Retyped.check_eq {m m' : Mapping} (h : m.Retyped m') : m'.check = m.check := by
  have hnames : m'.names = m.names := map_eq_of_retyped h fun _ _ => rfl
  have hbatch : m'.tables.map (·.batchDocument) = m.tables.map (·.batchDocument) :=
    map_eq_of_retyped h fun _ _ => rfl
  have hdatalake : m'.tables.map (·.datalakeDocument) = m.tables.map (·.datalakeDocument) :=
    map_eq_of_retyped h fun _ _ => rfl
  have hcolumns : m'.tables.map (·.repeatedColumns) = m.tables.map (·.repeatedColumns) :=
    map_eq_of_retyped h fun _ _ => rfl
  rw [check, check, hnames, checkDocuments, checkDocuments, hbatch, hdatalake, checkColumns,
    checkColumns, List.flatMap_def, List.flatMap_def, hcolumns]

/-- It does not matter how the cells of a workbook are typed.

Any numbers and flags of worksheets may be replaced with the texts that they are shown as. The
workbook is refused for the same reason then, or all tables of its mapping have the same fields, and
their further settings have the same keys and values, of which the texts may be those of numbers and
flags. -/
theorem build_retyped {sheets sheets' : List Worksheet}
    (h : List.Forall₂ Worksheet.Retyped sheets sheets') (flow : String) (config : Config) :
    SameOutcome Retyped (build sheets flow config) (build sheets' flow config) := by
  unfold build
  refine (retyped_declarations h).bind fun {declared declared'} hdeclared => ?_
  rw [map_fst_eq hdeclared]
  refine .bind_self _ fun _ => (retyped_assembleTables hdeclared).bind fun {tables tables'} ht => ?_
  have hm : Retyped ⟨tables⟩ ⟨tables'⟩ := ht
  simp only [hm.check_eq]
  exact .bind_self _ fun _ => .ok hm

/-- A worksheet of two columns, with a further setting, a length and two flags. -/
def ratesOf (rate length isKey isNullable : Cell) : Worksheet :=
  ⟨"Rates", [[.text "TYPE"], [.text "#INGESTION"], [.text "#CONFIG"],
    [.text "source_table", .text "rates"], [.text "rate", rate], [.text "#SELECT"],
    [.text "new_name", .text "data_type", .text "length", .text "key", .text "nullable"],
    [.text "name", .text "varchar", length, isKey],
    [.text "value", .text "decimal", .empty, .empty, isNullable]]⟩

theorem retyped_ratesOf {rate rate' length length' isKey isKey' isNullable isNullable' : Cell}
    (hrate : rate.Retyped rate') (hlength : length.Retyped length') (hkey : isKey.Retyped isKey')
    (hnullable : isNullable.Retyped isNullable') : (ratesOf rate length isKey isNullable).Retyped
      (ratesOf rate' length' isKey' isNullable') where
  title := rfl
  rows := by
    have hsame : ∀ cells : List Cell, List.Forall₂ Cell.Retyped cells cells :=
      fun cells => List.forall₂_same.2 fun c _ => .same c
    exact .cons (hsame _) <| .cons (hsame _) <| .cons (hsame _) <| .cons (hsame _) <|
      .cons (.cons (.same _) (.cons hrate .nil)) <| .cons (hsame _) <| .cons (hsame _) <|
      .cons (.cons (.same _) (.cons (.same _) (.cons hlength (.cons hkey .nil)))) <|
      .cons (.cons (.same _) (.cons (.same _) (.cons (.same _) (.cons (.same _)
        (.cons hnullable .nil))))) .nil

/-- The rate that is carried along is a number or a text, and nothing else is different. -/
theorem build_retyped_ratesOf : ∃ m m',
    build [ratesOf (.number (.ofRatio false 182 10)) (.number (.ofNat 255)) (.bool true)
      (.number (.ofNat 1))] "Sales" {} = .ok m ∧
    build [ratesOf (.text "18.2") (.text "255") (.text "true") (.text "1")] "Sales" {} = .ok m' ∧
    m.Retyped m' ∧ m' ≠ m := by
  have hrate : Cell.numberText (.ofRatio false 182 10) = "18.2" := by decide +kernel
  have hlength : Cell.numberText (.ofNat 255) = "255" := by decide +kernel
  have hone : Cell.numberText (.ofNat 1) = "1" := by decide +kernel
  have hsheet : (ratesOf (.number (.ofRatio false 182 10)) (.number (.ofNat 255)) (.bool true)
      (.number (.ofNat 1))).Retyped
        (ratesOf (.text "18.2") (.text "255") (.text "true") (.text "1")) := by
    rw [← hrate, ← hlength, ← hone]
    exact retyped_ratesOf (.number _ (by decide +kernel)) (.number _ (by decide +kernel)) (.bool _)
      (.number _ (by decide +kernel))
  have hbuilt : (build [ratesOf (.number (.ofRatio false 182 10)) (.number (.ofNat 255))
      (.bool true) (.number (.ofNat 1))] "Sales" {}).toOption.map
        (fun m => m.tables.map (·.extra.get? "rate")) =
      some [some (.number (.float (.ofRatio false 182 10)))] := by decide +kernel
  have hbuilt' : (build [ratesOf (.text "18.2") (.text "255") (.text "true") (.text "1")] "Sales"
      {}).toOption.map (fun m => m.tables.map (·.extra.get? "rate")) =
      some [some (.string "18.2")] := by decide +kernel
  have hsame := build_retyped (.cons hsheet .nil) "Sales" {}
  obtain ⟨m, hm, hextra⟩ := exists_of_toOption_map hbuilt
  obtain ⟨m', hm', hextra'⟩ := exists_of_toOption_map hbuilt'
  rw [hm, hm'] at hsame
  refine ⟨m, m', hm, hm', ?_, ?_⟩
  · cases hsame with
    | ok hretyped => exact hretyped
  · rintro rfl
    rw [hextra] at hextra'
    simp at hextra'

end Mapping

/-! ## Numbers of worksheets -/

/-- A cell whose number, if it holds one, is of 64 bits. -/
def Cell.IsDouble : Cell → Prop
  | number x => x.IsDouble
  | _ => True

theorem isDouble_cellOf (shared : Array String) (phonetic : Bool) (n : Xml.Node) :
    (cellOf shared phonetic n).IsDouble := by
  unfold cellOf
  dsimp only
  split
  case h_7 =>
    split
    · next hread =>
      obtain ⟨v, -, hv⟩ := Option.bind_eq_some_iff.1 hread
      exact Binary64.isDouble_of_readBinary64? hv
    · trivial
  -- Under every other type there is no number at all.
  all_goals split <;> trivial

/-- All numbers of a worksheet that is read are of 64 bits, so that each of them may be replaced
with its text. -/
theorem isDouble_of_gridOf {part : String} {shared : Array String} {root : Xml.Node}
    {rows : List (List Cell)} (h : gridOf part shared root = .ok rows) {cells : List Cell}
    (hcells : cells ∈ rows) {c : Cell} (hc : c ∈ cells) : c.IsDouble := by
  obtain ⟨placed, -, rfl⟩ := gridOf_eq_ok_iff.1 h
  have hrow : ∀ row : Row, ∀ c ∈ row.contents shared, c.IsDouble := by
    intro row c hc
    have hplaced : ∀ c ∈ placeAll .empty (cellOf shared row.phonetic) #[] row.cells, c.IsDouble :=
      forall_mem_placeAll trivial (by simp) fun p _ => isDouble_cellOf shared row.phonetic p.2
    exact hplaced c (Array.mem_toList_iff.1 hc)
  have hrows : ∀ cells ∈ placeAll [] (Row.contents shared) #[] placed, ∀ c ∈ cells, c.IsDouble :=
    forall_mem_placeAll nofun (by simp) fun p _ => hrow p.2
  exact hrows cells (Array.mem_toList_iff.1 (mem_of_mem_dropBlankEnd hcells)) c hc

end Intake
