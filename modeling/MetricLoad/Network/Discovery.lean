import MetricLoad.Network.Address
import MetricLoad.Network.Target

/-!
# Discovery of backend addresses

A name service answers with the addresses of a host and with the hosts and ports of a service;
either question may fail.  A host that is written as an address is answered without the name
service.  The addresses found are sorted and each is listed once.
-/

namespace MetricLoad

/-- A name service. -/
structure NameService where
  hosts : String → Except String (List HostAddress)
  services : String → Except String (List (String × UInt16))

/-- A name service that knows no names. -/
def NameService.silent : NameService :=
  ⟨fun _ => .error "no name service", fun _ => .error "no name service"⟩

/-- Why the addresses of an endpoint cannot be found. -/
inductive DiscoveryError
  | target (cause : TargetError)
  | lookup (target : String) (reason : String)
  deriving DecidableEq, Repr

/-- The wording of an error. -/
def DiscoveryError.message : DiscoveryError → String
  | .target cause => cause.message
  | .lookup name reason => "failed to resolve \x60" ++ name ++ "\x60: " ++ reason

namespace NameService

/-- The socket addresses of a host. -/
def addresses (names : NameService) (host : String) (port : UInt16) :
    Except String (List String) :=
  match HostAddress.ofText? host.toList with
  | some address => .ok [(SocketAddress.mk address 0 port).text]
  | none => (names.hosts host).map fun found =>
      found.map fun address => (SocketAddress.mk address 0 port).text

/-- A host name without the dots at its end. -/
def withoutFinalDots (host : String) : String :=
  String.ofList (host.toList.reverse.dropWhile (· == '.')).reverse

/-- The addresses of some hosts of a service. -/
def serviceAddresses (names : NameService) (byName : Bool) :
    List (String × UInt16) → Except String (List String)
  | [] => .ok []
  | (host, port) :: rest => do
    let host := withoutFinalDots host
    let first ←
      if byName then pure [host ++ ":" ++ toString port.toNat] else names.addresses host port
    return first ++ (← serviceAddresses names byName rest)

/-- The addresses that a target stands for, as they are found. -/
def find (names : NameService) : Target → Except String (List String)
  | .address text => .ok [text]
  | .host name port => names.addresses name port
  | .service name => (names.services name).bind (names.serviceAddresses false)
  | .serviceByName name => (names.services name).bind (names.serviceAddresses true)

/-- Sorted texts without repetitions. -/
def sortedOnce (texts : List String) : List String :=
  (texts.mergeSort fun a b => a ≤ b).eraseReps

/-- The addresses of an endpoint. -/
def resolve (names : NameService) (target : String) : Except DiscoveryError (List String) :=
  match Target.parse target with
  | .error e => .error (.target e)
  | .ok parsed =>
    match names.find parsed with
    | .error reason => .error (.lookup target reason)
    | .ok found => .ok (sortedOnce found)

end NameService
end MetricLoad
