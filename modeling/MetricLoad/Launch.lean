import MetricLoad.CommandLine
import MetricLoad.Settings.Load
import MetricLoad.Setup
import MetricLoad.Workload.Source

/-!
# From a command line to a run

Launching reads the command line, the settings and the workload, sets up the benchmarks and opens
the address where metrics are served.  It either ends with what is to be printed or comes to a
run.  The workload file is read before anything else is tried, and the address is opened last.

What a launch meets outside the program is given by its surroundings.
-/

namespace MetricLoad

/-- What stands around the program; `m` tells how it is asked. -/
structure Surroundings (m : Type → Type) where
  machine : Machine
  /-- The variables of the environment. -/
  bindings : List (String × String)
  /-- The text of a file, or why it cannot be read. -/
  file : String → m (Except String String)
  /-- The outcome of resolving an endpoint. -/
  resolve : String → m Resolution
  /-- Why an address cannot be opened, if it cannot. -/
  listen : SocketAddress → m (Option String)

/-- What the program leaves behind when it ends. -/
structure Outcome where
  code : Nat
  output : String
  errors : String
  deriving DecidableEq, Repr

/-- A run with everything set up. -/
structure Run where
  settings : Settings
  benchmarks : Benchmarks
  metrics : Metrics

/-- Why a run does not begin. -/
inductive LaunchError
  | settings (cause : SettingsError)
  | workloadFile (path reason : String)
  | workloadText (path : String) (cause : Yaml.TextError)
  | setup (cause : SetupError)
  | listen (address : SocketAddress) (reason : String)
  deriving DecidableEq, Repr

namespace LaunchError

/-- The texts of an error and of the errors that caused it, outermost first. -/
def chain : LaunchError → List String
  | settings cause => [cause.message]
  | workloadFile path reason =>
    ["failed to load workload from " ++ path, "failed to read workload file: " ++ reason, reason]
  | workloadText path cause =>
    ["failed to load workload from " ++ path,
      "failed to parse workload description: " ++ cause.message, cause.message]
  | setup cause => cause.chain
  | listen address reason =>
    ["failed to start TCP listener", "failed to bind " ++ address.text, reason]

/-- A text with blanks in front of every line but the first. -/
def indented (blanks : Nat) (s : String) : String :=
  ("\n" ++ "".pushn ' ' blanks).intercalate (s.splitOn "\n")

/-- The lines of several causes, which are numbered. -/
def numberedCauses (number : Nat) : List String → String
  | [] => ""
  | cause :: rest =>
    let label := toString number
    "\n" ++ "".pushn ' ' (5 - label.length) ++ label ++ ": " ++ indented 7 cause ++
      numberedCauses (number + 1) rest

/-- The report of a chain of texts. -/
def report : List String → String
  | [] => ""
  | [only] => only
  | [outer, cause] => outer ++ "\n\nCaused by:\n    " ++ indented 4 cause
  | outer :: causes => outer ++ "\n\nCaused by:" ++ numberedCauses 0 causes

/-- What the program leaves behind. -/
def outcome (e : LaunchError) : Outcome :=
  ⟨1, "", "Error: " ++ report e.chain ++ "\n"⟩

end LaunchError

/-- What the program leaves behind for a command line that ends early. -/
def CommandLine.EarlyExit.outcome : CommandLine.EarlyExit → Outcome
  | .usage text => ⟨0, text ++ "\n", ""⟩
  | .misuse reason =>
    ⟨1, "", reason ++ "\nRun " ++ CommandLine.programName ++ " --help for more information.\n"⟩

namespace Setup

/-- The endpoints that a set-up resolves, in order. -/
def endpoints (s : Settings) : List String :=
  (if s.query.enabled then [s.query.endpoint] else []) ++
    (if s.write.enabled then [s.write.endpoint] else [])

/-- Finding addresses in a table of outcomes. -/
def tableDiscovery (table : List (String × Resolution)) : Discovery PUnit := fun endpoint s =>
  ((table.lookup endpoint).getD .late, s)

end Setup

/-- The run of some settings and a workload, when their endpoints resolve as a table says.  The
address of the metrics is not opened yet. -/
def Run.setUp (settings : Settings) (workload : Workload) (seed : UInt64)
    (table : List (String × Resolution)) : Except SetupError Run :=
  match Benchmarks.setUp (Setup.tableDiscovery table) settings workload seed Metrics.empty ⟨⟩ with
  | (.error cause, _) => .error cause
  | (.ok benchmarks, metrics, _) => .ok ⟨settings, benchmarks, metrics⟩

/-- The settings of options, over those of a file, if there is one, and of some variables. -/
def CommandLine.Options.settings (o : Options) (machine : Machine)
    (file : Option (String × String)) (bindings : List (String × String)) :
    Except SettingsError Settings :=
  (Settings.load machine file bindings).map o.onto

/-- A path as it is shown in messages about settings: its parts with single slashes between them,
without those that lead nowhere. -/
def Setting.shownPath (path : String) : String :=
  let parts := (path.splitOn "/").filter fun part => !part.isEmpty && part != "."
  (if path.startsWith "/" then "/" else "") ++ "/".intercalate parts

/-- The workload in a file that could be read or not. -/
def Workload.ofFile (path : String) : Except String String → Except LaunchError Workload
  | .error reason => .error (.workloadFile path reason)
  | .ok text => (Workload.ofText text).mapError (.workloadText path)

namespace Surroundings

variable {m : Type → Type} [Monad m]

/-- The settings file with a path; one that cannot be read counts as none. -/
def settingsFile (s : Surroundings m) : Option String → m (Option (String × String))
  | none => return none
  | some path => return (← s.file path).toOption.map fun text => (Setting.shownPath path, text)

/-- The text of a workload file.  A name that no file can have is refused without asking. -/
def workloadFile (s : Surroundings m) (path : String) : m (Except String String) :=
  if path.contains '\x00' then return .error "file name contained an unexpected NUL byte"
  else s.file path

/-- The run that options ask for, with the seed of its values. -/
def start (s : Surroundings m) (seed : UInt64) (o : CommandLine.Options) :
    ExceptT LaunchError m Run := do
  let file ← s.settingsFile o.config
  let settings ← ExceptT.mk (pure ((o.settings s.machine file s.bindings).mapError .settings))
  let text ← s.workloadFile settings.workloadFile
  let workload ← ExceptT.mk (pure (Workload.ofFile settings.workloadFile text))
  let table ← (Setup.endpoints settings).mapM fun endpoint =>
    return (endpoint, ← s.resolve endpoint)
  let run ← ExceptT.mk (pure ((Run.setUp settings workload seed table).mapError .setup))
  match ← s.listen settings.address with
  | some reason => throw (.listen settings.address reason)
  | none => return run

/-- What a command line comes to: what the program leaves behind, or a run. -/
def launch (s : Surroundings m) (seed : UInt64) (arguments : List String) : m (Outcome ⊕ Run) :=
  match CommandLine.parse arguments with
  | .error exit => return .inl exit.outcome
  | .ok ⟨_, .showVersion⟩ =>
    return .inl ⟨0, CommandLine.programName ++ " " ++ CommandLine.version ++ "\n", ""⟩
  | .ok ⟨options, .run⟩ => do
    match ← (s.start seed options).run with
    | .error e => return .inl e.outcome
    | .ok run => return .inr run

end Surroundings
end MetricLoad
