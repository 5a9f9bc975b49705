import MetricLoad.Text.Blank
import MetricLoad.Text.Digit
import MetricLoad.Text.Split

/-!
# Endpoint targets

A target says how the addresses of an endpoint are found.  Behind `dns+` stands a host whose
addresses are looked up and a port; behind `dnssrv+` a service whose hosts are looked up in turn;
behind `dnssrvnoa+` a service whose hosts are taken by name.  Any other text is an address itself.
Blanks around a target do not count.
-/

namespace MetricLoad

open Text

/-- How the addresses of an endpoint are found. -/
inductive Target
  | address (text : String)
  | host (name : String) (port : UInt16)
  | service (name : String)
  | serviceByName (name : String)
  deriving DecidableEq, Repr

/-- Why a text is no target. -/
inductive TargetError
  | empty
  | invalid (target : String)
  deriving DecidableEq, Repr

/-- The wording of an error. -/
def TargetError.message : TargetError → String
  | .empty => "no endpoint configured"
  | .invalid target =>
    "invalid dns target \x60" ++ target ++ "\x60, expected \x60dns+<host>:<port>\x60"

namespace Target

/-- A host that is not empty and a port behind the last colon. -/
def hostAndPort? (s : List Char) : Option Target := do
  let (name, digits) ← splitLast? ':' s
  let port ← unsigned? digits
  if name.isEmpty || 65535 < port then none
  else return .host (String.ofList name) port.toUInt16

/-- The target of a text without blanks around it. -/
def ofTrimmed (s : List Char) : Except TargetError Target :=
  if s.isEmpty then .error .empty
  else match dropStem? "dnssrvnoa+".toList s with
    | some name => .ok (.serviceByName (String.ofList name))
    | none =>
      match dropStem? "dnssrv+".toList s with
      | some name => .ok (.service (String.ofList name))
      | none =>
        match dropStem? "dns+".toList s with
        | none => .ok (.address (String.ofList s))
        | some rest =>
          match hostAndPort? rest with
          | some target => .ok target
          | none => .error (.invalid (String.ofList s))

/-- The target of a text. -/
def parse (s : String) : Except TargetError Target :=
  ofTrimmed (trim s.toList)

end Target
end MetricLoad
