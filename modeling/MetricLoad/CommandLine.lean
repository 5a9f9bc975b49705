import MetricLoad.Settings

/-!
# The command line

Options stand before the command: a settings file, and a workload file and an identity that
override the settings.  `help` in any place shows the usage of what stands before it or, in front
of a command, of the command.  Behind `--` nothing is an option any more.

A command line that cannot be understood is refused at the first argument that is wrong.
-/

namespace MetricLoad.CommandLine

/-- The name of the program. -/
def programName : String := "benchtool"

/-- The version of the program. -/
def version : String := "0.1.0"

/-- What the program is asked to do. -/
inductive Command
  | run
  | showVersion
  deriving DecidableEq, Repr

/-- An option of the program. -/
inductive OptionName
  | config
  | workloadFile
  | id
  deriving DecidableEq, Repr

/-- The values of the options. -/
structure Options where
  config : Option String := none
  workloadFile : Option String := none
  id : Option String := none
  deriving DecidableEq, Repr

/-- A command line that is understood. -/
structure Invocation where
  options : Options
  command : Command
  deriving DecidableEq, Repr

/-- A command line that ends before anything is done. -/
inductive EarlyExit
  /-- The usage was asked for. -/
  | usage (text : String)
  | misuse (reason : String)
  deriving DecidableEq, Repr

/-- The commands in the order in which they are shown. -/
def Command.all : List Command :=
  [.run, .showVersion]

/-- The name of a command. -/
def Command.name : Command → String
  | .run => "run"
  | .showVersion => "version"

/-- What a command does. -/
def Command.purpose : Command → String
  | .run => "run the benchmark until interrupted"
  | .showVersion => "print the benchtool version"

/-- The spellings of the options. -/
def optionNames : List (String × OptionName) :=
  [("-c", .config), ("--config", .config), ("--workload-file", .workloadFile), ("--id", .id)]

/-- The arguments that ask for the usage. -/
def helpNames : List String :=
  ["--help", "help"]

/-- The line about help. -/
def helpLine (width : Nat) : String :=
  "  --help, help" ++ "".pushn ' ' (width - 12) ++ "display usage information\n"

/-- The usage of the program. -/
def usage : String :=
  "Usage: benchtool [-c <config>] [--workload-file <workload-file>] [--id <id>] " ++
    "<command> [<args>]\n" ++
    "\nLoad generator for Prometheus remote-write backends.\n" ++
    "\nOptions:\n" ++
    "  -c, --config      path to the YAML configuration file\n" ++
    "  --workload-file   path to the workload file, overrides the configuration\n" ++
    "  --id              identity of the benchmark run, overrides the configuration\n" ++
    helpLine 18 ++
    "\nCommands:\n" ++
    String.join (Command.all.map fun c =>
      "  " ++ c.name ++ "".pushn ' ' (18 - c.name.length) ++ c.purpose ++ "\n")

/-- The usage of a command. -/
def Command.usage (c : Command) : String :=
  "Usage: " ++ programName ++ " " ++ c.name ++ "\n\n" ++ c.purpose ++ "\n\nOptions:\n" ++
    helpLine 18

/-- The refusal of an argument. -/
def unrecognized (argument : String) : EarlyExit :=
  .misuse ("Unrecognized argument: " ++ argument ++ "\n")

/-- The refusal of an option behind a request for help. -/
def trailing : EarlyExit :=
  .misuse "Trailing arguments are not allowed after \x60help\x60."

/-- The refusal of an option without a value. -/
def noValue (argument : String) : EarlyExit :=
  .misuse ("No value provided for option '" ++ argument ++ "'.\n")

/-- The refusal of an option that is given again. -/
def repeated (argument value : String) : EarlyExit :=
  .misuse ("Error parsing option '" ++ argument ++ "' with value '" ++ value ++
    "': duplicate values provided\n")

/-- The refusal of a command line without a command. -/
def noCommand : EarlyExit :=
  .misuse ("One of the following subcommands must be present:\n    help" ++
    String.join (Command.all.map fun c => "\n    " ++ c.name) ++ "\n")

/-- Whether an argument looks like an option. -/
def looksLikeOption (argument : String) : Bool :=
  argument.toList.head? == some '-'

/-- The options with a value for one that has none yet. -/
def Options.set? (o : Options) (name : OptionName) (value : String) : Option Options :=
  match name with
  | .config => if o.config.isSome then none else some { o with config := some value }
  | .workloadFile =>
    if o.workloadFile.isSome then none else some { o with workloadFile := some value }
  | .id => if o.id.isSome then none else some { o with id := some value }

/-- Reads the arguments of a command, which has none but help.  `help` tells whether the usage has
been asked for, `ended` whether the options have ended. -/
def readCommand (c : Command) (help ended : Bool) : List String → Except EarlyExit Command
  | [] => if help then .error (.usage c.usage) else .ok c
  | argument :: rest =>
    if helpNames.contains argument && !ended then readCommand c true ended rest
    else if looksLikeOption argument && !ended then
      if argument == "--" then readCommand c help true rest
      else .error (if help then trailing else unrecognized argument)
    else .error (unrecognized argument)

/-- Reads arguments.  `help` tells whether the usage has been asked for, `ended` whether the options
have ended. -/
def read (help ended : Bool) (o : Options) : List String → Except EarlyExit Invocation
  | [] => .error (if help then .usage usage else noCommand)
  | argument :: rest =>
    if helpNames.contains argument && !ended then read true ended o rest
    else if looksLikeOption argument && !ended then
      if argument == "--" then read help true o rest
      else if help then .error trailing
      else match optionNames.lookup argument, rest with
        | none, _ => .error (unrecognized argument)
        | some _, [] => .error (noValue argument)
        | some name, value :: rest =>
          match o.set? name value with
          | none => .error (repeated argument value)
          | some o => read help ended o rest
    else match Command.all.find? fun c => c.name == argument with
      | some c => (readCommand c help false rest).map fun c => ⟨o, c⟩
      | none => .error (unrecognized argument)

/-- The invocation of a command line. -/
def parse (arguments : List String) : Except EarlyExit Invocation :=
  read false false {} arguments

/-- Settings with the overrides of the command line. -/
def Options.onto (o : Options) (s : Settings) : Settings :=
  { s with workloadFile := o.workloadFile.getD s.workloadFile, id := o.id.getD s.id }

end MetricLoad.CommandLine
