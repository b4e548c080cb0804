/-!
# Options

Arguments of a command are options, some of which have a value. An option is written out after two
hyphens, with its value after an equals sign or in the next argument; most have a letter as well,
and letters of options without a value may be put together after one hyphen. The rest of such an
argument is the value of an option that needs one.

`readOptions` reads the options at the beginning of a list of arguments. A value that is an argument
of its own does not begin with a hyphen, unless it is one hyphen.
-/

namespace Intake

/-- The options that there are. -/
inductive CommandOption where
  | verbose
  | help
  | version
  | flow
  | workbook
  | config
  | sourceSchema
  | targetSchema
  | batchProfile
  | datalakeProfile
  | batchLocation
  | datalakeLocation
  | outputDir
  | table
  deriving DecidableEq, Repr

/-- The value that an option has. -/
inductive Operand where
  | nothing
  | text
  /-- A text that is not empty. -/
  | path
  deriving DecidableEq, Repr

/-- Why there is no command to carry out. -/
inductive Stop where
  /-- The arguments are not those of a command. -/
  | misuse
  /-- The usage is asked for. -/
  | help
  /-- The version is asked for. -/
  | version
  deriving DecidableEq, Repr

namespace CommandOption

/-- The name of an option. -/
def name : CommandOption → String
  | verbose => "verbose"
  | help => "help"
  | version => "version"
  | flow => "flow"
  | workbook => "workbook"
  | config => "config"
  | sourceSchema => "source-schema"
  | targetSchema => "target-schema"
  | batchProfile => "batch-profile"
  | datalakeProfile => "datalake-profile"
  | batchLocation => "batch-location"
  | datalakeLocation => "datalake-location"
  | outputDir => "output-dir"
  | table => "table"

/-- The letter of an option. -/
def letter? : CommandOption → Option Char
  | verbose => some 'v'
  | help => some 'h'
  | version => some 'V'
  | flow => some 'f'
  | workbook => some 'w'
  | config => some 'c'
  | outputDir => some 'o'
  | table => some 't'
  | _ => none

/-- What an option has as its value. -/
def operand : CommandOption → Operand
  | verbose | help | version => .nothing
  | workbook | config | outputDir => .path
  | _ => .text

/-- May an option be given more than once? -/
def mayRepeat (o : CommandOption) : Bool := o == table

end CommandOption

/-- The options that have been given, with their values, in order. -/
abbrev Options := List (CommandOption × String)

namespace Options

/-- The value of an option. -/
def get? (given : Options) (o : CommandOption) : Option String := given.lookup o

/-- All values of an option. -/
def getAll (given : Options) (o : CommandOption) : List String :=
  (given.filter fun g => g.1 == o).map (·.2)

/-- The options with one more. Asking for the usage or the version ends the reading. -/
def add (given : Options) (o : CommandOption) (value : String) : Except Stop Options :=
  if o = .help then .error .help
  else if o = .version then .error .version
  else if !o.mayRepeat && (given.get? o).isSome then .error .misuse
  else if o.operand = .path ∧ value = "" then .error .misuse
  else .ok (given ++ [(o, value)])

end Options

/-- What an argument looks like. -/
inductive ArgumentForm where
  /-- The name of an option, and the value after the equals sign. -/
  | named (name : String) (value? : Option String)
  /-- Letters after one hyphen. -/
  | letters (cs : List Char)
  /-- Two hyphens alone, after which there are no options. -/
  | separator
  | plain
  deriving DecidableEq, Repr

/-- What an argument looks like. -/
def ArgumentForm.of (argument : String) : ArgumentForm :=
  match argument.toList with
  | '-' :: '-' :: [] => .separator
  | '-' :: '-' :: cs =>
    match cs.dropWhile (· != '=') with
    | [] => .named (String.ofList cs) none
    | _ :: value =>
      .named (String.ofList (cs.takeWhile (· != '='))) (some (String.ofList value))
  | '-' :: c :: cs => .letters (c :: cs)
  | _ => .plain

/-- Reads letters after one hyphen. The result says which option takes the next argument as its
value, if any does. -/
def readLetters (known : List CommandOption) :
    Options → List Char → Except Stop (Options × Option CommandOption)
  | given, [] => .ok (given, none)
  | given, c :: cs =>
    match known.find? fun o => o.letter? == some c with
    | none => .error .misuse
    | some o =>
      if o.operand = .nothing then
        match given.add o "" with
        | .ok given => readLetters known given cs
        | .error stop => .error stop
      else
        match cs with
        | [] => .ok (given, some o)
        | '=' :: value => (given.add o (String.ofList value)).map fun given => (given, none)
        | value => (given.add o (String.ofList value)).map fun given => (given, none)

/-- Reads an option by its name. The result says whether it takes the next argument as its value. -/
def readNamed (known : List CommandOption) (given : Options) (name : String)
    (value? : Option String) : Except Stop (Options × Option CommandOption) :=
  match known.find? fun o => o.name == name with
  | none => .error .misuse
  | some o =>
    match o.operand, value? with
    | .nothing, none => (given.add o "").map fun given => (given, none)
    | .nothing, some _ => .error .misuse
    | _, none => .ok (given, some o)
    | _, some value => (given.add o value).map fun given => (given, none)

/-- Reads arguments as long as they are options, after one that may still need its value. The
result is the options and the other arguments. -/
def readOptionsAfter (known : List CommandOption) :
    (pending : Option CommandOption) → Options → List String →
      Except Stop (Options × List String)
  | none, given, [] => .ok (given, [])
  | some _, _, [] => .error .misuse
  | some o, given, argument :: rest =>
    if ArgumentForm.of argument = .plain then
      match given.add o argument with
      | .ok given => readOptionsAfter known none given rest
      | .error stop => .error stop
    else .error .misuse
  | none, given, argument :: rest =>
    let step := match ArgumentForm.of argument with
      | .named name value? => some (readNamed known given name value?)
      | .letters cs => some (readLetters known given cs)
      | .separator | .plain => none
    match step with
    | none => .ok (given, argument :: rest)
    | some (.error stop) => .error stop
    | some (.ok (given, pending)) => readOptionsAfter known pending given rest

/-- Reads arguments as long as they are options. The result is the options and the other
arguments. -/
def readOptions (known : List CommandOption) (arguments : List String) :
    Except Stop (Options × List String) :=
  readOptionsAfter known none [] arguments

end Intake
