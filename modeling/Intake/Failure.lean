import Intake.Rejection
import Intake.Workbook.Fault

/-!
# Failures

Everything that can keep a command from being carried out: a workbook that is rejected for its
content, and files that cannot be read or written or do not hold what they should.
`Failure.message` is the wording.
-/

namespace Intake

/-- Why a command fails. -/
inductive Failure where
  | rejected (r : Rejection)
  | workbookUnreadable (path : String)
  | workbookInvalid (path : String) (fault : WorkbookFault)
  | configUnreadable (path : String)
  | configInvalid (path : String)
  | sourceUnwritten (path : String)
  | metadataUnwritten (path : String)
  | metadataUnreadable (path : String)
  | metadataInvalid (path : String)
  | tableUnknown (flow table : String)
  deriving DecidableEq, Repr

namespace Failure

/-- The wording of a failure. -/
def message : Failure → String
  | rejected r => r.message
  | workbookUnreadable path => "Failed to read workbook: " ++ path
  | workbookInvalid path fault => "Invalid workbook " ++ path ++ ": " ++ fault.message
  | configUnreadable path => "Failed to read config file: " ++ path
  | configInvalid path => "Failed to parse config file: " ++ path
  | sourceUnwritten path => "Failed to write source document " ++ path
  | metadataUnwritten path => "Failed to write metadata document " ++ path
  | metadataUnreadable path => "Failed to read metadata document " ++ path
  | metadataInvalid path => "Failed to parse metadata document " ++ path
  | tableUnknown flow table => "Table " ++ table ++ " not found in flow " ++ flow

end Failure

end Intake
