import Intake.Naming
import Intake.PartitionStyle
import Intake.Path

/-!
# Configuration

What all tables of a run have in common, and the values that apply where a worksheet sets none.
Values given on the command line replace those of the configuration (`Config.override`).
-/

namespace Intake

/-- The settings of a run. -/
structure Config where
  sourceSchema : String := ""
  targetSchema : String := ""
  batchProfile : String := ""
  datalakeProfile : String := ""
  batchLocation : String := ""
  datalakeLocation : String := ""
  /-- The partition keys of worksheets that declare none. -/
  defaultPartitions : List String := ["year", "month", "day"]
  defaultPartitionStyle : PartitionStyle := .hive
  defaultSourceFormat : String := "csv"
  defaultFieldDelimiter : String := "|"
  /-- The directory of the workbooks. -/
  ingestionPath : String := "ingestion"
  deriving DecidableEq, Repr, Inhabited

/-- Values that replace those of a configuration. -/
structure Overrides where
  sourceSchema : Option String := none
  targetSchema : Option String := none
  batchProfile : Option String := none
  datalakeProfile : Option String := none
  batchLocation : Option String := none
  datalakeLocation : Option String := none
  deriving DecidableEq, Repr, Inhabited

namespace Config

/-- The configuration with the values that are given. -/
def override (c : Config) (o : Overrides) : Config :=
  { c with
    sourceSchema := o.sourceSchema.getD c.sourceSchema
    targetSchema := o.targetSchema.getD c.targetSchema
    batchProfile := o.batchProfile.getD c.batchProfile
    datalakeProfile := o.datalakeProfile.getD c.datalakeProfile
    batchLocation := o.batchLocation.getD c.batchLocation
    datalakeLocation := o.datalakeLocation.getD c.datalakeLocation }

/-- Where the workbook of a flow is, unless another place is given. -/
def workbookPath (c : Config) (flow : String) : String :=
  Path.join c.ingestionPath (Text.lower flow ++ ".xlsx")

end Config

end Intake
