import Intake.Naming
import Intake.Path
import Intake.Source.Render

/-!
# Where documents are written

Below an output directory, each flow has one metadata document and a directory of source documents
for each kind.
-/

namespace Intake

/-- The place of the metadata document of a flow. -/
def metadataPath (out flow : String) : String :=
  Path.join (Path.join out "flows") (Text.lower flow ++ ".cfg.json")

/-- The directory of the source documents of a kind. -/
def sourcesDir (out : String) (kind : SourceKind) (flow : String) : String :=
  Path.join (Path.join (Path.join out "models/sources") kind.name) flow

namespace Table

/-- The place of a source document in the directory of its kind. -/
def documentPath (t : Table) (kind : SourceKind) (dir : String) : String :=
  Path.join dir (t.documentName kind ++ ".yml")

end Table

end Intake
