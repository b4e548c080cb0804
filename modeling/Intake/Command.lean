import Intake.Command.Options
import Intake.Compilation

/-!
# Commands

The program compiles a workbook and writes its documents, or only checks it, or lists the tables of
a flow that has been compiled. `Command.ofArguments` reads a command from the arguments, and
`Command.run` carries it out; its result is what is printed. `outcomeOf` does both, and says what a
run leaves behind besides the files.
-/

namespace Intake

/-- What compiling and checking need. -/
structure InputChoice where
  flow : String
  /-- The workbook, if not the one of the flow. -/
  workbook : Option String
  configPath : String
  overrides : Overrides
  deriving DecidableEq, Repr

/-- What is to be done. -/
inductive Command where
  | compile (input : InputChoice) (out : String)
  | check (input : InputChoice)
  | tables (flow out : String) (names : List String)
  deriving DecidableEq, Repr

/-- The commands by name. -/
inductive CommandName where
  | compile
  | check
  | tables
  deriving DecidableEq, Repr

namespace CommandName

/-- The command with a name. -/
def ofText? : String → Option CommandName
  | "compile" => some compile
  | "check" => some check
  | "tables" => some tables
  | _ => none

/-- The options that say what is compiled. -/
def inputOptions : List CommandOption :=
  [.flow, .workbook, .config, .sourceSchema, .targetSchema, .batchProfile, .datalakeProfile,
    .batchLocation, .datalakeLocation]

/-- The options of a command. -/
def options : CommandName → List CommandOption
  | compile => .verbose :: .help :: .outputDir :: inputOptions
  | check => .verbose :: .help :: inputOptions
  | tables => [.verbose, .help, .flow, .outputDir, .table]

end CommandName

/-- What compiling and checking need, from the options. -/
def InputChoice.ofOptions (flow : String) (given : Options) : InputChoice where
  flow := flow
  workbook := given.get? .workbook
  configPath := (given.get? .config).getD "config/ingest.yml"
  overrides :=
    { sourceSchema := given.get? .sourceSchema
      targetSchema := given.get? .targetSchema
      batchProfile := given.get? .batchProfile
      datalakeProfile := given.get? .datalakeProfile
      batchLocation := given.get? .batchLocation
      datalakeLocation := given.get? .datalakeLocation }

namespace Command

/-- The output directory, which is the current one unless another is given. -/
def outOf (given : Options) : String := (given.get? .outputDir).getD "."

/-- Reads the options of a command, which needs a flow. -/
def ofOptions (name : CommandName) (arguments : List String) : Except Stop Command :=
  match readOptions name.options arguments with
  | .error stop => .error stop
  | .ok (given, rest) =>
    if rest ≠ [] ∧ rest ≠ ["--"] then .error .misuse
    else
      match given.get? .flow with
      | none => .error .misuse
      | some flow =>
        match name with
        | .compile => .ok (.compile (.ofOptions flow given) (outOf given))
        | .check => .ok (.check (.ofOptions flow given))
        | .tables => .ok (.tables flow (outOf given) (given.getAll .table))

/-- What comes of asking for the usage, of the program or of a command. -/
def stopOfHelp : List String → Stop
  | [] => .help
  | [name] => if (CommandName.ofText? name).isSome || name == "help" then .help else .misuse
  | _ => .misuse

/-- Reads a command from the arguments of the program. -/
def ofArguments (arguments : List String) : Except Stop Command :=
  match readOptions [.verbose, .help, .version] arguments with
  | .error stop => .error stop
  | .ok (_, []) => .error .misuse
  | .ok (_, name :: rest) =>
    if name = "help" then .error (stopOfHelp rest)
    else
      match CommandName.ofText? name with
      | some name => ofOptions name rest
      | none => .error .misuse

/-! ## Carrying out a command -/

/-- The line that says what has been compiled. -/
def compiledLine (c : Compilation) : String :=
  "Compiled " ++ toString c.mapping.tables.length ++ " tables: " ++
    toString c.sourcePaths.length ++ " source documents, metadata " ++ c.metadataPath ++ "\n"

/-- The line on a table that has been checked. -/
def checkedLine (t : Table) : String :=
  t.targetTable ++ " (" ++ t.worksheet ++ "): " ++ toString t.columns.length ++ " columns\n"

/-- The line on a table of a compiled flow. -/
def tableLine (t : Table) : String :=
  t.targetTable ++ "\t" ++ t.sourceLocation ++ "\t" ++ t.targetLocation ++ "\n"

variable {m : Type → Type} [Monad m] [FileStore m]

/-- The configuration for an input. -/
def configFor (input : InputChoice) : Action m Config := do
  return (← loadConfig input.configPath).override input.overrides

/-- Carries out a command; the result is what is printed. -/
def run : Command → Action m String
  | compile input out => do
    let config ← configFor input
    return compiledLine (← compileMapping input.workbook input.flow out config)
  | check input => do
    let config ← configFor input
    let workbook := input.workbook.getD (config.workbookPath input.flow)
    let mapping ← checkMapping workbook input.flow config
    return String.join (mapping.tables.map checkedLine)
  | tables flow out names => do
    let mapping ← loadMapping out flow names
    return String.join (mapping.tables.map tableLine)

end Command

/-! ## A run of the program -/

/-- What a run of the program leaves behind besides files. -/
structure Outcome where
  exitCode : Nat
  output : String := ""
  errorOutput : String := ""
  deriving DecidableEq, Repr

/-- How the program is used. -/
def usage : String :=
  "Usage: ingest-mapping [--verbose] <compile|check|tables> --flow <flow> [options]\n"

/-- What is left behind when there is no command. -/
def Stop.outcome : Stop → Outcome
  | .misuse => { exitCode := 2, errorOutput := usage }
  | .help => { exitCode := 0, output := usage }
  | .version => { exitCode := 0, output := "ingest-mapping 0.1.0\n" }

/-- Runs the program on its arguments. -/
def outcomeOf {m : Type → Type} [Monad m] [FileStore m] (arguments : List String) : m Outcome :=
  match Command.ofArguments arguments with
  | .error stop => pure stop.outcome
  | .ok command => do
    match ← (command.run : Action m String) with
    | .ok output => return { exitCode := 0, output }
    | .error failure =>
      return { exitCode := 1, errorOutput := "Error: " ++ failure.message ++ "\n" }

end Intake
