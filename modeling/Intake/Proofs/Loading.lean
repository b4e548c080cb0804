import Intake.Proofs.Generation
import Intake.Proofs.Metadata

/-!
# Loading what was stored

Loading a flow only reads (`Action.on_loadMapping`). Where its metadata document is that of a
mapping, the result is this mapping, or a selection of its tables when names are given
(`on_loadMapping_of_stored`), and there it is once the document has been written
(`on_loadMapping_of_writeMetadata`).
-/

namespace Intake

open FileStore Intake.Path

/-- The mapping of a metadata document, from what comes of reading its file. -/
def mappingStoredIn (path : String) : FileContent → Except Failure Mapping
  | .bytes content =>
    match String.fromUTF8? content with
    | some text =>
      match Mapping.ofText? text with
      | some m => .ok m
      | none => .error (.metadataInvalid path)
    | none => .error (.metadataUnreadable path)
  | _ => .error (.metadataUnreadable path)

/-- The mapping with only the tables of the given names; with all of them if no name is given. -/
def Mapping.select (m : Mapping) (flow : String) (names : List String) : Except Failure Mapping :=
  if names.isEmpty then .ok m else (selectTables m flow names).map Mapping.mk

variable {fs fs' : FileSystem} {m : Mapping} {flow out path : String} {names : List String}

theorem metadataPath_lower (out flow : String) :
    metadataPath out (Text.lower flow) = metadataPath out flow := by
  rw [metadataPath, metadataPath, Text.lower_lower]

/-- Loading a flow changes nothing. -/
theorem Action.on_loadMapping : (loadMapping out flow names : Action OnFiles Mapping).on fs =
    ((mappingStoredIn (metadataPath out flow) (fs.readFile (metadataPath out flow))).bind
      fun m => m.select (Text.lower flow) names, fs) := by
  rw [loadMapping, readText]
  rw [metadataPath_lower, Action.on_bind, Action.on_bind, Action.on_readFile]
  cases fs.readFile (metadataPath out flow) with
  | directory => rfl
  | nothing => rfl
  | bytes content =>
    dsimp only [mappingStoredIn]
    cases htext : String.fromUTF8? content with
    | none => rfl
    | some text =>
      dsimp only
      rw [Action.on_pure]
      dsimp only
      cases hm : Mapping.ofText? text with
      | none => rfl
      | some m =>
        dsimp only [Except.bind]
        rw [Mapping.select]
        split
        · rfl
        · rw [Action.on_bind, Action.on_orFail]
          cases selectTables m (Text.lower flow) names <;> rfl

theorem mappingStoredIn_document (hstorable : m.Storable) (hf : m.FloatsReadBack) :
    mappingStoredIn path (.bytes m.document.toUTF8) = .ok m := by
  rw [mappingStoredIn, fromUTF8?_eq_some_iff.2 rfl]
  dsimp only
  rw [Mapping.ofText?_document hstorable hf]

/-- Loading a flow whose document is in place gives its mapping. -/
theorem on_loadMapping_of_stored (names : List String) (hstorable : m.Storable)
    (hf : m.FloatsReadBack)
    (hread : fs.readFile (metadataPath out flow) = .bytes m.document.toUTF8) :
    (loadMapping out flow names : Action OnFiles Mapping).on fs =
      (m.select (Text.lower flow) names, fs) := by
  rw [Action.on_loadMapping, hread, mappingStoredIn_document hstorable hf]
  rfl

/-- Loading a flow whose document has been written gives its mapping. -/
theorem on_loadMapping_of_writeMetadata (names : List String) (hstorable : m.Storable)
    (hf : m.FloatsReadBack)
    (hrun : (writeMetadata m flow out : Action OnFiles String).on fs = (.ok path, fs')) :
    (loadMapping out flow names : Action OnFiles Mapping).on fs' =
      (m.select (Text.lower flow) names, fs') := by
  obtain ⟨dir, hdir⟩ := parent?_metadataPath out flow
  exact on_loadMapping_of_stored names hstorable hf
    (readFile_of_records (Action.records_on hdir hrun)).2

end Intake
