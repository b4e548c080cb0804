import Intake.Command
import Intake.Main
import Intake.Source.Reading
import Intake.Zip.Write
import Intake.Proofs.Column
import Intake.Proofs.Assembly
import Intake.Proofs.Consistency
import Intake.Proofs.Declaration
import Intake.Proofs.Json.Number
import Intake.Proofs.Json.Quoted
import Intake.Proofs.Json.Layout
import Intake.Proofs.Json.Settled
import Intake.Proofs.Json.Fields
import Intake.Proofs.Table
import Intake.Proofs.Metadata
import Intake.Proofs.Source.Names
import Intake.Proofs.Source.Closed
import Intake.Proofs.Casing
import Intake.Proofs.FileSystem
import Intake.Proofs.Directories
import Intake.Proofs.Output
import Intake.Proofs.Run
import Intake.Proofs.Atomicity
import Intake.Proofs.Isolation
import Intake.Proofs.Generation
import Intake.Proofs.Legible
import Intake.Proofs.Composition
import Intake.Proofs.Confinement
import Intake.Proofs.Loading
import Intake.Proofs.Lookup
import Intake.Proofs.Source.Coverage
import Intake.Proofs.FileStem
import Intake.Proofs.Workbook
import Intake.Proofs.Worksheet.Grid
import Intake.Proofs.Placeholder
import Intake.Proofs.Repetition
import Intake.Proofs.RowFault
import Intake.Proofs.BlankRow
import Intake.Proofs.Rerun
import Intake.Proofs.Addressing
import Intake.Proofs.Worksheet.Bounds
import Intake.Proofs.Source.Separation
import Intake.Proofs.ColumnOrder
import Intake.Proofs.CellType
import Intake.Proofs.Worksheet.Numeral
import Intake.Proofs.Yaml.Keys
import Intake.Proofs.Config
import Intake.Proofs.Partitions
import Intake.Proofs.Source.Reading
import Intake.Proofs.Namespace
import Intake.Proofs.Source.Condition
