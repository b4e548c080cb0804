import Intake.Config.Yaml
import Intake.Failure
import Intake.FileStore
import Intake.Mapping.Build
import Intake.Mapping.Json
import Intake.Output
import Intake.Source.Yaml
import Intake.Workbook
import Intake.Yaml.Layout
import Intake.Zip.Archive

/-!
# Compiling workbooks

What the program does with files: it reads a configuration (`loadConfig`) and a workbook
(`openWorkbook`), compiles the mapping of a flow (`checkMapping`), writes the source documents
(`generateSources`) and the metadata document (`writeMetadata`), and reads the latter back
(`loadMapping`). `compileMapping` does all of the writing: nothing is written before the mapping has
been compiled, and the metadata document comes last.
-/

namespace Intake

open FileStore

/-- An action on files that may fail. -/
abbrev Action (m : Type → Type) := ExceptT Failure m

variable {m : Type → Type} [Monad m] [FileStore m]

/-- Fails unless a flag is set. -/
def requires (worked : Bool) (failure : Failure) : Action m Unit :=
  if worked then pure () else throw failure

/-- A result without any action on files. -/
def orFail {α : Type} (r : Except Failure α) : Action m α := ExceptT.mk (pure r)

/-- Reads a file as text. -/
def readText (path : String) (failure : Failure) : Action m String := do
  match ← readFile path with
  | .bytes content =>
    match String.fromUTF8? content with
    | some text => return text
    | none => throw failure
  | _ => throw failure

/-- Reads the configuration. -/
def loadConfig (path : String) : Action m Config := do
  let text ← readText path (.configUnreadable path)
  match Config.ofText? text with
  | some config => return config
  | none => throw (.configInvalid path)

/-! ## Workbooks -/

/-- The parts of the container that a file holds. -/
def partsOf (path : String) (content : ByteArray) : Except Failure Parts :=
  match Zip.read content with
  | .ok parts => .ok (KeyMap.ofList parts)
  | .error (.invalid fault) => .error (.workbookInvalid path fault)
  | .error .damaged => .error (.workbookUnreadable path)

/-- The worksheets of the workbook that a file holds. -/
def worksheetsIn (path : String) (content : ByteArray) : Except Failure (List Worksheet) :=
  match partsOf path content with
  | .error e => .error e
  | .ok parts =>
    match worksheetsOf parts with
    | .ok sheets => .ok sheets
    | .error fault => .error (.workbookInvalid path fault)

/-- Reads the worksheets of a workbook. -/
def openWorkbook (path : String) : Action m (List Worksheet) := do
  match ← readFile path with
  | .bytes content => orFail (worksheetsIn path content)
  | .directory => throw (.workbookInvalid path .notContainer)
  | .nothing => throw (.workbookUnreadable path)

/-- Compiles the mapping of a workbook without writing anything. -/
def checkMapping (workbook flow : String) (config : Config) : Action m Mapping := do
  let sheets ← openWorkbook workbook
  orFail ((Mapping.build sheets flow config).mapError .rejected)

/-! ## Documents -/

/-- The bytes of the source document of a table. -/
def Table.sourceText (t : Table) (kind : SourceKind) : ByteArray :=
  (t.sourceDocument kind).toTree.write.toUTF8

/-- Writes the source documents of tables into a directory; the result is their paths. -/
def writeSources (kind : SourceKind) (dir : String) : List Table → Action m (List String)
  | [] => return []
  | t :: rest => do
    let path := t.documentPath kind dir
    requires (← writeFile path (t.sourceText kind)) (.sourceUnwritten path)
    return path :: (← writeSources kind dir rest)

/-- Writes the source documents of a kind in place of all that were there. Nothing is touched when
two tables have the same document. -/
def generateSources (mapping : Mapping) (kind : SourceKind) (flow out : String) :
    Action m (List String) := do
  orFail (mapping.checkDocuments.mapError .rejected)
  let dir := sourcesDir out kind flow
  requires (← removeDir dir) (.sourceUnwritten dir)
  requires (← makeDirs dir) (.sourceUnwritten dir)
  writeSources kind dir mapping.tables

/-- Writes the metadata document of a flow; the result is its path. -/
def writeMetadata (mapping : Mapping) (flow out : String) : Action m String := do
  let path := metadataPath out flow
  match Path.parent? path with
  | some dir => requires (← makeDirs dir) (.metadataUnwritten path)
  | none => pure ()
  requires (← writeFile path mapping.document.toUTF8) (.metadataUnwritten path)
  return path

/-- The tables with the given names, in that order. A name may lack the prefix of the flow. -/
def selectTables (mapping : Mapping) (flow : String) : List String → Except Failure (List Table)
  | [] => .ok []
  | name :: rest =>
    let name := withFlowPrefix (Text.trim name) flow
    match mapping.get? name with
    | none => .error (.tableUnknown flow name)
    | some t => (selectTables mapping flow rest).map (t :: ·)

/-- Reads the metadata document of a flow; with a list of names only those tables. -/
def loadMapping (out flow : String) (names : List String) : Action m Mapping := do
  let flow := Text.lower flow
  let path := metadataPath out flow
  let text ← readText path (.metadataUnreadable path)
  match Mapping.ofText? text with
  | none => throw (.metadataInvalid path)
  | some mapping =>
    if names.isEmpty then return mapping
    else return ⟨← orFail (selectTables mapping flow names)⟩

/-! ## Compiling -/

/-- What has been compiled. -/
structure Compilation where
  mapping : Mapping
  metadataPath : String
  /-- The paths of the batch documents, and after them those of the datalake documents. -/
  sourcePaths : List String
  deriving Repr

/-- Compiles a workbook and writes all of its documents. Where no workbook is given, its place is
that of the flow as it is named; the documents go by the flow without blanks around it. -/
def compileMapping (workbook : Option String) (flow out : String) (config : Config) :
    Action m Compilation := do
  let path := workbook.getD (config.workbookPath flow)
  let flow := normalFlow flow
  let mapping ← checkMapping path flow config
  let batch ← generateSources mapping .batch flow out
  let datalake ← generateSources mapping .datalake flow out
  let metadata ← writeMetadata mapping flow out
  return ⟨mapping, metadata, batch ++ datalake⟩

end Intake
