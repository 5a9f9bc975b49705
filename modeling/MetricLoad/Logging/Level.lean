import MetricLoad.Text.Digit

/-!
# Log levels

A level lets records through from errors only to everything.  It is written by name, in any case, or
by its number; an empty text stands for errors only.
-/

namespace MetricLoad.Logging

/-- How much is logged. -/
inductive Level
  | off
  | error
  | warn
  | info
  | debug
  | trace
  deriving DecidableEq, Repr, Inhabited

namespace Level

/-- The levels in order of their numbers. -/
def all : List Level :=
  [off, error, warn, info, debug, trace]

/-- The name of a level. -/
def name : Level → String
  | off => "off"
  | error => "error"
  | warn => "warn"
  | info => "info"
  | debug => "debug"
  | trace => "trace"

/-- The level that a number stands for. -/
def ofNumber? (s : List Char) : Option Level :=
  (Text.unsigned? s).bind fun n => all[n]?

/-- The level that a text stands for. -/
def ofText? (s : String) : Option Level :=
  match ofNumber? s.toList with
  | some level => some level
  | none =>
    if s.isEmpty then some error
    else all.find? fun level => level.name == s.map Char.toLower

/-- The wording for a text that is no level. -/
def unreadable : String :=
  "error parsing level filter: expected one of \"off\", \"error\", \"warn\", \"info\", " ++
    "\"debug\", \"trace\", or a number 0-5"

end Level

/-- The form of log records. -/
inductive Format
  | auto
  | pretty
  | simplified
  | json
  deriving DecidableEq, Repr, Inhabited

namespace Format

/-- The forms in order of declaration. -/
def all : List Format :=
  [auto, pretty, simplified, json]

/-- The name of a form. -/
def name : Format → String
  | auto => "auto"
  | pretty => "pretty"
  | simplified => "simplified"
  | json => "json"

/-- The form with a name. -/
def ofName? (s : String) : Option Format :=
  all.find? fun format => format.name == s

end Format
end MetricLoad.Logging
