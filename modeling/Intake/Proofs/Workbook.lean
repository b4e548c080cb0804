import Mathlib.Data.List.Forall2
import Intake.Proofs.KeyMap
import Intake.Proofs.Outcome
import Intake.Workbook

/-!
# What the worksheets of a workbook are read from

The worksheets of a workbook are those that the elements of the workbook list, in order, with the
grids of the parts to which their relationships lead (`Opens`, `worksheetsOf_eq_ok_iff`). Every part
that is consulted on the way has to be there, in UTF-8 and an XML document (`Opens.exists_holds`).
When something is lacking there is a fault instead, and every fault tells what is wrong (`Explains`,
`explains_of_worksheetsOf_eq_error`).

The part of the shared texts is an exception. It may be missing, and then there are no shared texts.
But it counts as missing as well when it is there without being UTF-8
(`worksheetsOf_eq_of_garbled`), so that cells which refer to its texts are empty.
-/

namespace Intake

open Xml (Node)

variable {parts parts' : Parts} {part : String} {root workbook relations element : Node}
  {shared : Array String} {sheet : Worksheet} {sheets : List Worksheet} {fault : WorkbookFault}

/-! ## Parts -/

namespace Parts

/-- A part is there, and it is an XML document in UTF-8. -/
def Holds (parts : Parts) (part : String) (root : Node) : Prop :=
  ∃ text, parts.get? part = some text.toUTF8 ∧ Node.read? text = some root

/-- A part is there but it is not UTF-8. -/
def Garbled (parts : Parts) (part : String) : Prop :=
  ∃ content, parts.get? part = some content ∧ ¬ content.IsValidUTF8

theorem text?_eq_some_iff {text : String} :
    parts.text? part = some text ↔ parts.get? part = some text.toUTF8 := by
  rw [text?, Option.bind_eq_some_iff]
  simp only [fromUTF8?_eq_some_iff, exists_eq_right]

theorem text?_eq_none_iff :
    parts.text? part = none ↔ parts.get? part = none ∨ parts.Garbled part := by
  rw [text?, Garbled]
  cases parts.get? part with
  | none => simp
  | some content => simp [String.fromUTF8?]

end Parts

theorem requirePart_eq_ok_iff {text : String} :
    requirePart parts part = .ok text ↔ parts.get? part = some text.toUTF8 := by
  rw [← Parts.text?_eq_some_iff, requirePart]
  split <;> simp [*]

theorem readXml_eq_ok_iff {text : String} :
    readXml part text = .ok root ↔ Node.read? text = some root := by
  rw [readXml]
  split <;> simp [*]

theorem requirePart_eq_error_iff : requirePart parts part = .error fault ↔
    (parts.get? part = none ∨ parts.Garbled part) ∧ fault = .partMissing part := by
  rw [← Parts.text?_eq_none_iff, requirePart]
  split <;> simp [*, eq_comm]

theorem readXml_eq_error_iff {text : String} : readXml part text = .error fault ↔
    Node.read? text = none ∧ fault = .partMalformed part := by
  rw [readXml]
  split <;> simp [*, eq_comm]

/-! ## Relationships -/

/-- An element relates an identifier to a part. -/
def Relates (n : Node) (id part : String) : Prop :=
  n.attribute? "Id" = some id ∧ ∃ target, n.attribute? "Target" = some target ∧
    part = partOfTarget target

/-- An identifier leads to the part that the last element with it relates it to. -/
def LeadsTo (relations : Node) (id part : String) : Prop :=
  ∃ before n after, relations.elementsNamed "Relationship" = before ++ n :: after ∧
    Relates n id part ∧ ∀ n' ∈ after, ∀ part', ¬ Relates n' id part'

theorem get?_relationsOf_eq_some_iff {id : String} :
    (relationsOf relations).get? id = some part ↔ LeadsTo relations id part := by
  -- All that matters of the entry that an element gives is when it gives which one.
  have hlast : ∀ give : Node → Option (String × String),
      (∀ n id part, give n = some (id, part) ↔ Relates n id part) →
      (IsLast id part ((relations.elementsNamed "Relationship").filterMap give) ↔
        LeadsTo relations id part) := by
    intro give hgive
    simp only [isLast_filterMap_iff, hgive, ne_eq, LeadsTo]
  rw [relationsOf, KeyMap.get?_ofList_eq_some_iff]
  refine hlast _ fun n id part => ?_
  rw [Relates]
  cases n.attribute? "Id" <;> cases n.attribute? "Target" <;> simp [eq_comm]

/-! ## Worksheets -/

/-- The texts that worksheets share. There are none without their part, nor when it is not UTF-8. -/
inductive SharesTexts (parts : Parts) : Array String → Prop
  | held {root : Node} (h : parts.Holds sharedTextsPart root) :
    SharesTexts parts (sharedTextsOf root).toArray
  | missing (h : parts.get? sharedTextsPart = none ∨ parts.Garbled sharedTextsPart) :
    SharesTexts parts #[]

theorem sharedTexts_eq_ok_iff : sharedTexts parts = .ok shared ↔ SharesTexts parts shared := by
  rw [sharedTexts]
  constructor
  · intro h
    split at h
    · next text htext =>
      obtain ⟨root, hroot, rfl⟩ := map_eq_ok_iff.1 h
      exact .held ⟨text, Parts.text?_eq_some_iff.1 htext, readXml_eq_ok_iff.1 hroot⟩
    · next htext =>
      cases h
      exact .missing (Parts.text?_eq_none_iff.1 htext)
  · rintro (⟨text, hget, hroot⟩ | h)
    · rw [Parts.text?_eq_some_iff.2 hget]
      exact map_eq_ok_iff.2 ⟨_, readXml_eq_ok_iff.2 hroot, rfl⟩
    · rw [Parts.text?_eq_none_iff.2 h]

/-- A worksheet is the one that an element of the workbook lists: it has the name of the element and
the grid of the part that its relationship leads to. -/
structure Lists (parts : Parts) (relations : Node) (shared : Array String) (element : Node)
    (sheet : Worksheet) : Prop where
  title : sheet.title = (element.attribute? "name").getD ""
  rows : ∃ id part root, relationOf? element = some id ∧ LeadsTo relations id part ∧
    parts.Holds part root ∧ gridOf part shared root = .ok sheet.rows

theorem worksheetOf_of_relationOf?_eq_none (hid : relationOf? element = none) :
    worksheetOf parts (relationsOf relations) shared element =
      .error (.relationMissing ((element.attribute? "name").getD "")) := by
  simp only [worksheetOf, hid, error_bind]

theorem worksheetOf_of_not_leadsTo {id : String} (hid : relationOf? element = some id)
    (hpart : ∀ part, ¬ LeadsTo relations id part) :
    worksheetOf parts (relationsOf relations) shared element =
      .error (.relationUnknown ((element.attribute? "name").getD "") id) := by
  have hnone : (relationsOf relations).get? id = none :=
    Option.eq_none_iff_forall_ne_some.2 fun part hget =>
      hpart part (get?_relationsOf_eq_some_iff.1 hget)
  simp only [worksheetOf, hid, ok_bind, hnone, error_bind]

theorem worksheetOf_of_leadsTo {id : String} (hid : relationOf? element = some id)
    (hpart : LeadsTo relations id part) :
    worksheetOf parts (relationsOf relations) shared element = do
      let root ← readXml part (← requirePart parts part)
      return ⟨(element.attribute? "name").getD "", ← gridOf part shared root⟩ := by
  simp only [worksheetOf, hid, ok_bind, get?_relationsOf_eq_some_iff.2 hpart]

theorem worksheetOf_eq_ok_iff : worksheetOf parts (relationsOf relations) shared element =
    .ok sheet ↔ Lists parts relations shared element sheet := by
  constructor
  · intro h
    cases hid : relationOf? element with
    | none =>
      rw [worksheetOf_of_relationOf?_eq_none hid] at h
      cases h
    | some id =>
      by_cases hpart : ∃ part, LeadsTo relations id part
      · obtain ⟨part, hpart⟩ := hpart
        simp only [worksheetOf_of_leadsTo hid hpart, bind_eq_ok_iff, pure_eq_ok_iff,
          requirePart_eq_ok_iff, readXml_eq_ok_iff] at h
        obtain ⟨text, hget, root, hread, rows, hrows, rfl⟩ := h
        exact ⟨rfl, id, part, root, hid, hpart, ⟨text, hget, hread⟩, hrows⟩
      · rw [worksheetOf_of_not_leadsTo hid (not_exists.1 hpart)] at h
        cases h
  · rintro ⟨htitle, id, part, root, hid, hpart, ⟨text, hget, hread⟩, hrows⟩
    simp only [worksheetOf_of_leadsTo hid hpart, bind_eq_ok_iff, pure_eq_ok_iff,
      requirePart_eq_ok_iff, readXml_eq_ok_iff]
    exact ⟨text, hget, root, hread, sheet.rows, hrows, by rw [← htitle]⟩

theorem worksheetsFrom_eq_ok_iff {elements : List Node} :
    worksheetsFrom parts (relationsOf relations) shared elements = .ok sheets ↔
      List.Forall₂ (Lists parts relations shared) elements sheets := by
  induction elements generalizing sheets with
  | nil => simp [worksheetsFrom, eq_comm]
  | cons n rest ih =>
    simp only [worksheetsFrom, bind_eq_ok_iff, pure_eq_ok_iff, worksheetOf_eq_ok_iff, ih,
      List.forall₂_cons_left_iff]
    simp only [eq_comm, exists_and_left]

/-- The worksheets of a workbook are those that its elements list, in order. -/
def Opens (parts : Parts) (sheets : List Worksheet) : Prop :=
  ∃ workbook relations shared, parts.Holds workbookPart workbook ∧
    parts.Holds relationsPart relations ∧ SharesTexts parts shared ∧
    List.Forall₂ (Lists parts relations shared) (workbook.elementsNamed "sheet") sheets

theorem worksheetsOf_eq_ok_iff : worksheetsOf parts = .ok sheets ↔ Opens parts sheets := by
  simp only [worksheetsOf, bind_eq_ok_iff, requirePart_eq_ok_iff, readXml_eq_ok_iff,
    sharedTexts_eq_ok_iff, worksheetsFrom_eq_ok_iff, Opens, Parts.Holds]
  constructor
  · rintro ⟨_, hworkbook, workbook, hreadWorkbook, _, hrelations, relations, hreadRelations, shared,
      hshared, hsheets⟩
    exact ⟨workbook, relations, shared, ⟨_, hworkbook, hreadWorkbook⟩,
      ⟨_, hrelations, hreadRelations⟩, hshared, hsheets⟩
  · rintro ⟨workbook, relations, shared, ⟨_, hworkbook, hreadWorkbook⟩,
      ⟨_, hrelations, hreadRelations⟩, hshared, hsheets⟩
    exact ⟨_, hworkbook, workbook, hreadWorkbook, _, hrelations, relations, hreadRelations, shared,
      hshared, hsheets⟩

/-! ## What is consulted -/

/-- The parts that are consulted. The part of the shared texts is one of them when it is there. -/
inductive Consults (parts : Parts) : String → Prop
  | workbook : Consults parts workbookPart
  | relations : Consults parts relationsPart
  | sharedTexts (h : (parts.get? sharedTextsPart).isSome) : Consults parts sharedTextsPart
  | sheet {workbook relations element : Node} {id part : String}
    (hworkbook : parts.Holds workbookPart workbook)
    (hrelations : parts.Holds relationsPart relations)
    (helement : element ∈ workbook.elementsNamed "sheet") (hid : relationOf? element = some id)
    (hpart : LeadsTo relations id part) : Consults parts part

/-- Something that is consulted cannot be read, or it is not known what to consult. -/
inductive Lacks (parts : Parts) : Prop
  | part {part : String} (h : Consults parts part) (hroot : ∀ root, ¬ parts.Holds part root)
  | relation {workbook relations element : Node} (hworkbook : parts.Holds workbookPart workbook)
    (hrelations : parts.Holds relationsPart relations)
    (helement : element ∈ workbook.elementsNamed "sheet")
    (h : ∀ id part, relationOf? element = some id → ¬ LeadsTo relations id part)

theorem Parts.Holds.unique {root' : Node} (h : parts.Holds part root)
    (h' : parts.Holds part root') : root = root' := by
  obtain ⟨text, hget, hread⟩ := h
  obtain ⟨text', hget', hread'⟩ := h'
  rw [← Parts.text?_eq_some_iff] at hget hget'
  obtain rfl : text = text' := Option.some.inj (hget.symm.trans hget')
  exact Option.some.inj (hread.symm.trans hread')

theorem LeadsTo.unique {id part' : String} (h : LeadsTo relations id part)
    (h' : LeadsTo relations id part') : part = part' := by
  rw [← get?_relationsOf_eq_some_iff] at h h'
  exact Option.some.inj (h.symm.trans h')

theorem Opens.exists_lists (h : Opens parts sheets) (hworkbook : parts.Holds workbookPart workbook)
    (hrelations : parts.Holds relationsPart relations)
    (helement : element ∈ workbook.elementsNamed "sheet") :
    ∃ shared sheet, Lists parts relations shared element sheet := by
  obtain ⟨workbook', relations', shared, hworkbook', hrelations', -, hsheets⟩ := h
  cases hworkbook.unique hworkbook'
  cases hrelations.unique hrelations'
  obtain ⟨i, hi, rfl⟩ := List.getElem_of_mem helement
  exact ⟨shared, _, hsheets.get hi (hsheets.length_eq ▸ hi)⟩

theorem Opens.exists_holds (hgarbled : ¬ parts.Garbled sharedTextsPart) (h : Opens parts sheets)
    (hpart : Consults parts part) : ∃ root, parts.Holds part root := by
  cases hpart with
  | workbook =>
    obtain ⟨workbook, -, -, hworkbook, -⟩ := h
    exact ⟨workbook, hworkbook⟩
  | relations =>
    obtain ⟨-, relations, -, -, hrelations, -⟩ := h
    exact ⟨relations, hrelations⟩
  | sharedTexts hsome =>
    obtain ⟨-, -, shared, -, -, hshared, -⟩ := h
    cases hshared with
    | held hroot => exact ⟨_, hroot⟩
    | missing hmissing =>
      rw [hmissing.resolve_right hgarbled] at hsome
      cases hsome
  | sheet hworkbook hrelations helement hid hpart =>
    obtain ⟨-, -, -, id, part', root, hid', hpart', hroot, -⟩ :=
      h.exists_lists hworkbook hrelations helement
    cases hid.symm.trans hid'
    cases hpart.unique hpart'
    exact ⟨root, hroot⟩

theorem Opens.not_lacks (hgarbled : ¬ parts.Garbled sharedTextsPart) (h : Opens parts sheets) :
    ¬ Lacks parts := by
  rintro (⟨hpart, hroot⟩ | ⟨hworkbook, hrelations, helement, hnone⟩)
  · obtain ⟨root, hholds⟩ := h.exists_holds hgarbled hpart
    exact hroot root hholds
  · obtain ⟨-, -, -, id, part, -, hid, hpart, -⟩ := h.exists_lists hworkbook hrelations helement
    exact hnone id part hid hpart

/-! ## What is wrong with a workbook -/

/-- A fault tells what is wrong with the parts of a workbook. -/
inductive Explains (parts : Parts) : WorkbookFault → Prop
  | partMissing {part : String} (h : Consults parts part)
    (hnone : parts.get? part = none ∨ parts.Garbled part) : Explains parts (.partMissing part)
  | partMalformed {part text : String} (h : Consults parts part)
    (hget : parts.get? part = some text.toUTF8) (hread : Node.read? text = none) :
    Explains parts (.partMalformed part)
  | relationMissing {workbook element : Node} (hworkbook : parts.Holds workbookPart workbook)
    (helement : element ∈ workbook.elementsNamed "sheet") (hid : relationOf? element = none) :
    Explains parts (.relationMissing ((element.attribute? "name").getD ""))
  | relationUnknown {workbook relations element : Node} {id : String}
    (hworkbook : parts.Holds workbookPart workbook)
    (hrelations : parts.Holds relationsPart relations)
    (helement : element ∈ workbook.elementsNamed "sheet") (hid : relationOf? element = some id)
    (hpart : ∀ part, ¬ LeadsTo relations id part) :
    Explains parts (.relationUnknown ((element.attribute? "name").getD "") id)
  | grid {part : String} {root : Node} {shared : Array String} {fault : WorkbookFault}
    (h : Consults parts part) (hroot : parts.Holds part root) (hshared : SharesTexts parts shared)
    (hgrid : gridOf part shared root = .error fault) : Explains parts fault

/-- A part that is consulted is the reason of a fault unless it is held. -/
theorem explains_or_exists_holds {α : Type} {f : Node → Except WorkbookFault α}
    (hpart : Consults parts part)
    (h : requirePart parts part >>= (fun text => readXml part text >>= f) = .error fault) :
    Explains parts fault ∨ ∃ root, parts.Holds part root ∧ f root = .error fault := by
  rcases bind_eq_error_iff.1 h with h | ⟨text, htext, h⟩
  · obtain ⟨hnone, rfl⟩ := requirePart_eq_error_iff.1 h
    exact .inl (.partMissing hpart hnone)
  · rw [requirePart_eq_ok_iff] at htext
    rcases bind_eq_error_iff.1 h with h | ⟨root, hroot, h⟩
    · obtain ⟨hread, rfl⟩ := readXml_eq_error_iff.1 h
      exact .inl (.partMalformed hpart htext hread)
    · exact .inr ⟨root, ⟨text, htext, readXml_eq_ok_iff.1 hroot⟩, h⟩

theorem explains_of_sharedTexts_eq_error (h : sharedTexts parts = .error fault) :
    Explains parts fault := by
  rw [sharedTexts] at h
  split at h
  · next text htext =>
    rw [Parts.text?_eq_some_iff] at htext
    obtain ⟨hread, rfl⟩ := readXml_eq_error_iff.1 (map_eq_error_iff.1 h)
    exact .partMalformed (.sharedTexts (by simp [htext])) htext hread
  · cases h

theorem explains_of_worksheetOf_eq_error (hworkbook : parts.Holds workbookPart workbook)
    (hrelations : parts.Holds relationsPart relations) (hshared : SharesTexts parts shared)
    (helement : element ∈ workbook.elementsNamed "sheet")
    (h : worksheetOf parts (relationsOf relations) shared element = .error fault) :
    Explains parts fault := by
  cases hid : relationOf? element with
  | none =>
    rw [worksheetOf_of_relationOf?_eq_none hid] at h
    cases h
    exact .relationMissing hworkbook helement hid
  | some id =>
    by_cases hpart : ∃ part, LeadsTo relations id part
    · obtain ⟨part, hpart⟩ := hpart
      have hconsults := Consults.sheet hworkbook hrelations helement hid hpart
      rw [worksheetOf_of_leadsTo hid hpart] at h
      obtain hexplains | ⟨root, hroot, h⟩ := explains_or_exists_holds hconsults h
      · exact hexplains
      · refine .grid hconsults hroot hshared ?_
        exact (bind_eq_error_iff.1 h).resolve_right fun ⟨rows, _, hpure⟩ => pure_ne_error hpure
    · rw [not_exists] at hpart
      rw [worksheetOf_of_not_leadsTo hid hpart] at h
      cases h
      exact .relationUnknown hworkbook hrelations helement hid hpart

theorem exists_of_worksheetsFrom_eq_error {relations : KeyMap String} {elements : List Node}
    (h : worksheetsFrom parts relations shared elements = .error fault) :
    ∃ element ∈ elements, worksheetOf parts relations shared element = .error fault := by
  induction elements with
  | nil => cases h
  | cons n rest ih =>
    simp only [worksheetsFrom, bind_eq_error_iff] at h
    rcases h with h | ⟨sheet, -, h | ⟨sheets, -, h⟩⟩
    · exact ⟨n, by simp, h⟩
    · obtain ⟨element, hmem, helement⟩ := ih h
      exact ⟨element, List.mem_cons_of_mem _ hmem, helement⟩
    · exact absurd h pure_ne_error

/-- Every fault tells what is wrong with the parts. -/
theorem explains_of_worksheetsOf_eq_error (h : worksheetsOf parts = .error fault) :
    Explains parts fault := by
  -- Each step either fails for a reason of its own or hands the fault on to the steps after it.
  obtain hexplains | ⟨workbook, hworkbook, h⟩ := explains_or_exists_holds .workbook h
  · exact hexplains
  obtain hexplains | ⟨relations, hrelations, h⟩ := explains_or_exists_holds .relations h
  · exact hexplains
  obtain h | ⟨shared, hshared, h⟩ := bind_eq_error_iff.1 h
  · exact explains_of_sharedTexts_eq_error h
  obtain ⟨element, helement, h⟩ := exists_of_worksheetsFrom_eq_error h
  exact explains_of_worksheetOf_eq_error hworkbook hrelations (sharedTexts_eq_ok_iff.1 hshared)
    helement h

/-! ## Parts that are not UTF-8 -/

theorem worksheetsOf_congr (h : ∀ part, parts'.text? part = parts.text? part) :
    worksheetsOf parts' = worksheetsOf parts := by
  have hrequire : ∀ part, requirePart parts' part = requirePart parts part := by
    intro part
    rw [requirePart, requirePart, h]
  have hsheets : ∀ relations shared elements,
      worksheetsFrom parts' relations shared elements =
        worksheetsFrom parts relations shared elements := by
    intro relations shared elements
    induction elements with
    | nil => rfl
    | cons n rest ih => simp only [worksheetsFrom, worksheetOf, hrequire, ih]
  simp only [worksheetsOf, sharedTexts, hrequire, hsheets, h]

/-- A part that is not UTF-8 counts as missing. -/
theorem worksheetsOf_eq_of_garbled (h : parts.Garbled part) (hnone : parts'.get? part = none)
    (hsame : ∀ other, other ≠ part → parts'.get? other = parts.get? other) :
    worksheetsOf parts' = worksheetsOf parts := by
  refine worksheetsOf_congr fun other => ?_
  by_cases hother : other = part
  · subst hother
    rw [Parts.text?_eq_none_iff.2 (.inl hnone), Parts.text?_eq_none_iff.2 (.inr h)]
  · rw [Parts.text?, Parts.text?, hsame other hother]

/-- Unless the part of the shared texts is not UTF-8, worksheets are read only when every part that
is consulted is held, and when something is lacking there is a fault. The worksheets are those that
the elements of the workbook list, and every fault tells what is wrong. A part of the shared texts
that is not UTF-8 makes no difference to having none. -/
theorem worksheetsOf_reads (parts : Parts) :
    (¬ parts.Garbled sharedTextsPart →
      (∀ sheets, worksheetsOf parts = .ok sheets →
        ∀ part, Consults parts part → ∃ root, parts.Holds part root) ∧
      (Lacks parts → ∃ fault, worksheetsOf parts = .error fault)) ∧
    (∀ sheets, worksheetsOf parts = .ok sheets ↔ Opens parts sheets) ∧
    (∀ fault, worksheetsOf parts = .error fault → Explains parts fault) ∧
    (parts.Garbled sharedTextsPart → ∀ parts' : Parts, parts'.get? sharedTextsPart = none →
      (∀ part, part ≠ sharedTextsPart → parts'.get? part = parts.get? part) →
      worksheetsOf parts' = worksheetsOf parts) := by
  refine ⟨fun hgarbled => ⟨fun sheets h part hpart => ?_, fun hlacks => ?_⟩,
    fun sheets => worksheetsOf_eq_ok_iff, fun fault h => explains_of_worksheetsOf_eq_error h,
    fun h parts' hnone hsame => worksheetsOf_eq_of_garbled h hnone hsame⟩
  · exact (worksheetsOf_eq_ok_iff.1 h).exists_holds hgarbled hpart
  · cases hsheets : worksheetsOf parts with
    | error fault => exact ⟨fault, rfl⟩
    | ok sheets => exact absurd hlacks ((worksheetsOf_eq_ok_iff.1 hsheets).not_lacks hgarbled)

/-- The parts of a workbook with a worksheet that refers to a shared text. The part of the shared
texts is not UTF-8. -/
def garbledParts : Parts :=
  .ofList [("xl/workbook.xml", "<w><sheet name=\"Orders\" id=\"r\"/></w>".toUTF8),
    ("xl/_rels/workbook.xml.rels", "<r><Relationship Id=\"r\" Target=\"s\"/></r>".toUTF8),
    ("xl/s", ("<s><row><c t=\"s\"><v>0</v></c>" ++
      "<c t=\"str\"><v>x</v></c></row></s>").toUTF8),
    ("xl/sharedStrings.xml", "<sst><si><t>caf".toUTF8 ++ ⟨#[0xe9]⟩ ++ "</t></si></sst>".toUTF8)]

/-- The same workbook without that part. -/
def unsharedParts : Parts :=
  ⟨garbledParts.entries.filter (·.1 != sharedTextsPart), garbledParts.increasing.filter _⟩

theorem garbled_garbledParts : garbledParts.Garbled sharedTextsPart := by
  have htext : garbledParts.text? sharedTextsPart = none := by decide +kernel
  have hsome : (garbledParts.get? sharedTextsPart).isSome := by decide +kernel
  refine (Parts.text?_eq_none_iff.1 htext).resolve_left fun hnone => ?_
  rw [hnone] at hsome
  cases hsome

theorem get?_unsharedParts (part : String) : unsharedParts.get? part =
    if part != sharedTextsPart then garbledParts.get? part else none :=
  entryValue?_filter (p := (· != sharedTextsPart)) part garbledParts.entries

/-- All parts that the worksheet of the second workbook is read from are there, and it is the
worksheet of the first one as well. -/
theorem worksheetsOf_reads_unsharedParts :
    worksheetsOf unsharedParts = .ok [⟨"Orders", [[.empty, .text "x"]]⟩] ∧
    (∀ part, Consults unsharedParts part → ∃ root, unsharedParts.Holds part root) ∧
    worksheetsOf garbledParts = worksheetsOf unsharedParts ∧
    Explains (.ofList []) (.partMissing workbookPart) := by
  have hok : (worksheetsOf unsharedParts).toOption =
      some [⟨"Orders", [[.empty, .text "x"]]⟩] := by
    decide +kernel
  have hsheets := toOption_eq_some_iff.1 hok
  have hnone : unsharedParts.get? sharedTextsPart = none := by
    rw [get?_unsharedParts, if_neg (by simp)]
  have hsame : ∀ part, part ≠ sharedTextsPart →
      unsharedParts.get? part = garbledParts.get? part := fun part hpart => by
    rw [get?_unsharedParts, if_pos (by simpa using hpart)]
  have hvalid : ¬ unsharedParts.Garbled sharedTextsPart := by
    rintro ⟨content, hcontent, -⟩
    rw [hnone] at hcontent
    cases hcontent
  obtain ⟨hreads, -⟩ := worksheetsOf_reads unsharedParts
  obtain ⟨-, -, -, hgarbled⟩ := worksheetsOf_reads garbledParts
  obtain ⟨-, -, hexplains, -⟩ := worksheetsOf_reads (.ofList [])
  exact ⟨hsheets, (hreads hvalid).1 _ hsheets,
    (hgarbled garbled_garbledParts unsharedParts hnone hsame).symm, hexplains _ rfl⟩

/-- A text that worksheets share is lost without a fault. -/
theorem exists_shared_text_lost : ∃ sheet : Worksheet, worksheetsOf garbledParts = .ok [sheet] ∧
    sheet.cell 0 0 = .empty ∧ (garbledParts.get? sharedTextsPart).isSome ∧
    ∀ root, ¬ garbledParts.Holds sharedTextsPart root := by
  have hsheets : (worksheetsOf garbledParts).toOption =
      some [⟨"Orders", [[.empty, .text "x"]]⟩] := by
    decide +kernel
  have htext : garbledParts.text? sharedTextsPart = none := by decide +kernel
  refine ⟨_, toOption_eq_some_iff.1 hsheets, rfl, by decide +kernel, ?_⟩
  rintro root ⟨text, hget, -⟩
  rw [Parts.text?_eq_some_iff.2 hget] at htext
  cases htext

end Intake
