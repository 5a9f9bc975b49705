import MetricLoad.Network.Discovery
import MetricLoad.Random.Uniform
import MetricLoad.Random.Xoshiro

/-!
# Balancing over the addresses of an endpoint

A balancer knows the addresses of one endpoint and keeps a client for each of them that has been
picked.  A resolution that finds addresses replaces the list and drops the clients of addresses that
are gone.  A resolution that fails, takes too long or finds nothing changes nothing, so a balancer
never runs out of addresses.

Clients are numbered in the order in which they are made, so two picks give the same client exactly
when the numbers agree.
-/

namespace MetricLoad

open MetricLoad.Random

/-- Why the addresses of a balancer cannot be replaced. -/
inductive BalancerError
  | discovery (cause : DiscoveryError)
  | timeout (target : String)
  | noAddresses (target : String)
  deriving DecidableEq, Repr

/-- The wording of an error. -/
def BalancerError.message : BalancerError → String
  | .discovery cause => cause.message
  | .timeout target => "timed out resolving \x60" ++ target ++ "\x60"
  | .noAddresses target => "no addresses found for \x60" ++ target ++ "\x60"

/-- The outcome of a resolution. -/
inductive Resolution
  | failed (cause : DiscoveryError)
  | late
  | found (addresses : List String)
  deriving DecidableEq, Repr

/-- A client for one address. -/
structure PooledClient where
  /-- The address that it was made for. -/
  address : String
  /-- How many clients were made before it. -/
  serial : Nat
  deriving DecidableEq, Repr, Inhabited

/-- A balancer over the addresses of one endpoint. -/
structure Balancer where
  target : String
  addresses : List String
  /-- The clients by their addresses. -/
  clients : List (String × PooledClient)
  /-- The number of clients made so far. -/
  created : Nat
  /-- The published number of addresses. -/
  gauge : Nat
  deriving DecidableEq, Repr

namespace Balancer

/-- A balancer before its first resolution. -/
def unresolved (target : String) : Balancer :=
  ⟨target, [], [], 0, 0⟩

/-- The error of a resolution, or the addresses it has found. -/
def outcome (target : String) : Resolution → Except BalancerError (List String)
  | .failed cause => .error (.discovery cause)
  | .late => .error (.timeout target)
  | .found [] => .error (.noAddresses target)
  | .found addresses => .ok addresses

/-- The balancer with new addresses. -/
def replace (b : Balancer) (addresses : List String) : Balancer :=
  { b with
    addresses := addresses
    clients := b.clients.filter fun (address, _) => addresses.contains address
    gauge := addresses.length }

/-- Applies a resolution: the number of addresses or the error, and the balancer after it. -/
def resolve (b : Balancer) (r : Resolution) : Except BalancerError Nat × Balancer :=
  match outcome b.target r with
  | .error e => (.error e, b)
  | .ok addresses => (.ok addresses.length, b.replace addresses)

/-- A balancer whose first resolution had the given outcome. -/
def create (target : String) (r : Resolution) : Except BalancerError Balancer :=
  (outcome target r).map (unresolved target).replace

/-- The client of an address, if there is one. -/
def client? (b : Balancer) (address : String) : Option PooledClient :=
  (b.clients.find? fun entry => entry.1 == address).map (·.2)

/-- The client of an address, made now if there is none, and the balancer after it. -/
def client (b : Balancer) (address : String) : PooledClient × Balancer :=
  match b.client? address with
  | some c => (c, b)
  | none =>
    let c : PooledClient := ⟨address, b.created⟩
    (c, { b with clients := (address, c) :: b.clients, created := b.created + 1 })

/-- Picks the address at a position and its client. -/
def pickAt (b : Balancer) (position : Nat) : Option (String × PooledClient) × Balancer :=
  match b.addresses[position]? with
  | none => (none, b)
  | some address =>
    let (c, b) := b.client address
    (some (address, c), b)

/-- Picks a random address and its client. -/
def pick (b : Balancer) (random : Xoshiro) :
    Option (String × PooledClient) × Balancer × Xoshiro :=
  if b.addresses.isEmpty then (none, b, random)
  else
    let (position, random) := drawIndex b.addresses.length random
    let (picked, b) := b.pickAt position
    (picked, b, random)

/-- Picks a number of times; the picks in order. -/
def picks : Nat → Balancer → Xoshiro → List (String × PooledClient) × Balancer × Xoshiro
  | 0, b, random => ([], b, random)
  | count + 1, b, random =>
    let (picked, b, random) := b.pick random
    let (rest, b, random) := picks count b random
    (picked.toList ++ rest, b, random)

end Balancer
end MetricLoad
