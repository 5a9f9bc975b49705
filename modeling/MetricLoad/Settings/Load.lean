import MetricLoad.Settings.Environment
import MetricLoad.Settings.File
import MetricLoad.Settings.Reading
import MetricLoad.Settings.Schema

/-!
# Loading settings

The environment is laid over the file, and what neither gives keeps its standard value.  Settings
without threads, or with no time between two ring checks, are refused.

An error about a value names the value, in the notation of the layer it comes from.
-/

namespace MetricLoad

open Document

/-- Why settings cannot be started with. -/
inductive SettingsRefusal
  | noThreads
  | zeroRingCheckInterval
  deriving DecidableEq, Repr

/-- The wording of a refusal. -/
def SettingsRefusal.message : SettingsRefusal → String
  | .noThreads => "runtime.worker_threads must be at least 1"
  | .zeroRingCheckInterval => "ring_check.interval must be greater than zero"

/-- Why settings cannot be loaded. -/
inductive SettingsError
  | file (path : String) (cause : Yaml.TextError)
  /-- A value that the schema refuses, with the layer it comes from. -/
  | value (fault : Fault) (layer : Layer)
  | refused (cause : SettingsRefusal)
  deriving DecidableEq, Repr

namespace SettingsError

/-- A plain decimal form of a double; a whole number is written without a point. -/
def bareNumber : Decimal.Layout := ⟨none, none, false⟩

/-- The description of what was found. -/
def foundText : Found → String
  | .flag content => "bool " ++ (if content then "true" else "false")
  | .unsigned content =>
    if content < UInt64.size then "unsigned int \x60" ++ toString content ++ "\x60"
    else Found.description (.unsigned content)
  | .signed content =>
    if -9223372036854775808 ≤ content then "signed int \x60" ++ toString content ++ "\x60"
    else Found.description (.signed content)
  | .real bits => "float \x60" ++ bareNumber.float (Float.ofBits bits) ++ "\x60"
  | .text content => "string " ++ Text.quoted content
  | .nothing => "unit"
  | .sequence => "sequence"
  | .mapping => "map"

/-- Some names to choose from, in words. -/
def oneOf : List String → String
  | [] => "none"
  | [a] => ticked a
  | [a, b] => ticked a ++ " or " ++ ticked b
  | names => "one of " ++ ", ".intercalate (names.map ticked)

/-- The wording of what is wrong with a value. -/
def kindText : FaultKind → String
  | .wrongType found expected =>
    "invalid type: found " ++ foundText found ++ ", expected " ++ expected
  | .wrongValue found expected => "invalid value " ++ foundText found ++ ", expected " ++ expected
  | .wrongLength length expected =>
    "invalid length " ++ toString length ++ ", expected " ++ expected
  | .unknownVariant name expected =>
    "unknown variant: found " ++ ticked name ++ ", expected " ++ ticked (oneOf expected)
  | .missingField name => "missing field " ++ ticked name
  | .repeatedField name => "duplicate field " ++ ticked name
  | kind => kind.text

/-- The name of the setting at a path, as its layer writes it. -/
def nameText (path : String) : Layer → String
  | .file _ => "default." ++ path
  | .environment => path.map Char.toUpper

/-- The name of a layer. -/
def layerText : Layer → String
  | .file path => path ++ " YAML file"
  | .environment => "\x60BENCH__\x60 environment variable(s)"

/-- The wording of an error. -/
def message : SettingsError → String
  | file path cause => cause.message ++ " in " ++ layerText (.file path)
  | value fault layer =>
    let path := Fault.dottedPath fault.path
    let key := if path.isEmpty then "" else " for key " ++ Text.quoted (nameText path layer)
    kindText fault.kind ++ key ++ " in " ++ layerText layer
  | refused cause => cause.message

end SettingsError

namespace Setting

/-- A step of a path, when it is one into a value. -/
def stepOf : PathStep → String ⊕ Nat
  | .field name => .inl name
  | .item index => .inr index
  | .nameless => .inl ""

/-- The layer of the value at a path, or of the value around it. -/
def layerAt (path : List PathStep) (value : Setting) : Layer :=
  ((at? (path.map stepOf) value).getD value).layer

end Setting

namespace Settings

/-- Settings that can be started with. -/
def check (s : Settings) : Except SettingsRefusal Settings :=
  if s.threads = 0 then .error .noThreads
  else if s.ringCheck.interval.isZero then .error .zeroRingCheckInterval
  else .ok s

/-- The settings of a value. -/
def ofSetting (machine : Machine) (value : Setting) : Except SettingsError Settings :=
  match ((record machine).read value).outcome with
  | .error fault => .error (.value fault (value.layerAt fault.path))
  | .ok settings => (settings.check).mapError .refused

/-- The settings of a file, given by its path and its text, and of some variables. -/
def load (machine : Machine) (file : Option (String × String))
    (bindings : List (String × String)) : Except SettingsError Settings :=
  let environment := Setting.ofEnvironment bindings
  match file with
  | none => ofSetting machine environment
  | some (path, text) =>
    match Setting.ofFile path text with
    | .error cause => .error (.file path cause)
    | .ok content => ofSetting machine (content.overlay environment)

end Settings
end MetricLoad
