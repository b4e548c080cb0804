import Intake.Path
import Intake.Text.Blank
import Intake.Text.Casing

/-!
# Names and locations

Every table of a flow carries the name of the flow in front of its own (`withFlowPrefix`), once
and not twice. The storage location of a table that declares none is made of a base location, the
flow and the name without the prefix (`tableLocation`); locations end with a slash.
-/

namespace Intake

/-- What stands before the names of the tables of a flow. -/
def flowPrefix (flow : String) : String := flow ++ "_"

/-- The name in lower case, with the prefix of the flow unless it has it already. -/
def withFlowPrefix (name flow : String) : String :=
  let name := Text.lower name
  match Text.dropStart? (flowPrefix flow).toList name.toList with
  | some _ => name
  | none => flowPrefix flow ++ name

/-- The name without the prefix of the flow, if it has it. -/
def stripFlowPrefix (name flow : String) : String :=
  match Text.dropStart? (flowPrefix flow).toList name.toList with
  | some rest => String.ofList rest
  | none => name

/-- The location with a slash at its end. -/
def ensureTrailingSlash (location : String) : String :=
  if Path.endsWithSlash location then location else location ++ "/"

/-- The location without the slashes at its end. -/
def trimSlashes (location : String) : String :=
  String.ofList (location.toList.reverse.dropWhile (· == '/')).reverse

/-- The location of a table below a base location. -/
def tableLocation (base flow table : String) : String :=
  trimSlashes base ++ "/" ++ flow ++ "/" ++ stripFlowPrefix table flow ++ "/"

/-- The form of a flow's name that all names and paths are made with. -/
def normalFlow (flow : String) : String := Text.lower (Text.trim flow)

/-- The names in a list separated by commas, trimmed; blank ones do not count. -/
def splitPartitions (list : String) : List String :=
  (Text.splitOn ',' list.toList).filterMap fun piece => Text.trimmed? (String.ofList piece)

end Intake
