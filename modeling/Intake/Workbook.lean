import Intake.KeyMap
import Intake.Worksheet
import Intake.Worksheet.Grid

/-!
# Workbooks

A workbook is a container of named parts (`Parts`). One part lists the worksheets and another says
which part holds each of them; the texts that worksheets share are in a third, if any
(`worksheetsOf`). A part that is not UTF-8 counts as missing.
-/

namespace Intake

open Xml (Node)

/-- The parts of a container by name. -/
abbrev Parts := KeyMap ByteArray

/-- The text of a part. -/
def Parts.text? (parts : Parts) (name : String) : Option String :=
  (parts.get? name).bind String.fromUTF8?

/-- The part that lists the worksheets. -/
def workbookPart : String := "xl/workbook.xml"

/-- The part with the relationships of the workbook. -/
def relationsPart : String := "xl/_rels/workbook.xml.rels"

/-- The part with the shared texts. -/
def sharedTextsPart : String := "xl/sharedStrings.xml"

/-- Reads a part as an XML document. -/
def readXml (part text : String) : Except WorkbookFault Node :=
  match Node.read? text with
  | some root => .ok root
  | none => .error (.partMalformed part)

/-- Reads a part that has to be there as text. -/
def requirePart (parts : Parts) (part : String) : Except WorkbookFault String :=
  match parts.text? part with
  | some text => .ok text
  | none => .error (.partMissing part)

/-- The part that the target of a relationship means: beside the workbook unless it is absolute. -/
def partOfTarget (target : String) : String :=
  match target.toList with
  | '/' :: absolute => String.ofList absolute
  | _ => "xl/" ++ target

/-- The parts by the names of the relationships that lead to them. -/
def relationsOf (root : Node) : KeyMap String :=
  KeyMap.ofList <| (root.elementsNamed "Relationship").filterMap fun n =>
    match n.attribute? "Id", n.attribute? "Target" with
    | some id, some target => some (id, partOfTarget target)
    | _, _ => none

/-- The name of the relationship of a worksheet's element, whatever its namespace. -/
def relationOf? (sheet : Node) : Option String :=
  (sheet.attributes.find? fun a => a.name == "id").map (·.value)

/-- Reads the worksheet that an element of the workbook lists. -/
def worksheetOf (parts : Parts) (relations : KeyMap String) (shared : Array String) (sheet : Node) :
    Except WorkbookFault Worksheet := do
  let title := (sheet.attribute? "name").getD ""
  let relation ← match relationOf? sheet with
    | some id => .ok id
    | none => .error (.relationMissing title)
  let part ← match relations.get? relation with
    | some part => .ok part
    | none => .error (.relationUnknown title relation)
  let root ← readXml part (← requirePart parts part)
  return ⟨title, ← gridOf part shared root⟩

/-- Reads the shared texts; there are none without their part. -/
def sharedTexts (parts : Parts) : Except WorkbookFault (Array String) :=
  match parts.text? sharedTextsPart with
  | some text => (readXml sharedTextsPart text).map fun root => (sharedTextsOf root).toArray
  | none => .ok #[]

/-- Reads the worksheets of a list of elements, in order. -/
def worksheetsFrom (parts : Parts) (relations : KeyMap String) (shared : Array String) :
    List Node → Except WorkbookFault (List Worksheet)
  | [] => .ok []
  | n :: rest => do
    let sheet ← worksheetOf parts relations shared n
    let sheets ← worksheetsFrom parts relations shared rest
    return sheet :: sheets

/-- Reads the worksheets of a workbook, in order. -/
def worksheetsOf (parts : Parts) : Except WorkbookFault (List Worksheet) := do
  let workbook ← readXml workbookPart (← requirePart parts workbookPart)
  let relations ← readXml relationsPart (← requirePart parts relationsPart)
  let shared ← sharedTexts parts
  worksheetsFrom parts (relationsOf relations) shared (workbook.elementsNamed "sheet")

end Intake
