import MetricLoad.Ring.Tokens

/-!
# The ring of instances

A ring is an increasing list of tokens, each owned by an instance.  An instance claims the tokens it
is configured with, or tokens generated from its address; a token claimed by several instances
belongs to the first of them.

`Ring.owners` walks clockwise from the first token that is not below the key and collects different
owners until the replication factor is reached.  A lookup makes room for as many owners as the
replication factor asks for before it begins to walk, so a factor beyond all capacity ends it.
-/

namespace MetricLoad

/-- A configured member of a ring. -/
structure Instance where
  address : String
  /-- The tokens it claims; when empty they are generated from the address. -/
  tokens : List UInt32
  deriving DecidableEq, Repr, Inhabited

/-- Why a ring cannot be built. -/
inductive RingError
  | empty
  | zeroReplicationFactor
  /-- The generation of an instance's tokens did not come to an end. -/
  | endlessGeneration
  deriving DecidableEq, Repr

/-- The wording of an error. -/
def RingError.message : RingError → String
  | .empty => "empty ring"
  | .zeroReplicationFactor => "replication factor must be greater than zero"
  | .endlessGeneration => "token generation did not end"

/-- Why a lookup has no answer. -/
inductive LookupFailure
  | refused (cause : RingError)
  /-- There is no list with room for as many owners as are asked for.  This is no answer of the ring
  but the end of whoever looks up. -/
  | capacityOverflow
  deriving DecidableEq, Repr

/-- A token and the position of the instance that owns it. -/
structure OwnedToken where
  token : UInt32
  owner : Nat
  deriving DecidableEq, Repr, Inhabited

/-- A ring of tokens. -/
structure Ring where
  /-- The tokens in increasing order. -/
  tokens : List OwnedToken
  /-- The addresses of all configured instances. -/
  addresses : List String
  replicationFactor : Nat
  deriving Repr

namespace Ring

/-- The tokens an instance claims. -/
def claims? (tokenCount : Nat) (i : Instance) : Option (List UInt32) :=
  if i.tokens.isEmpty then generateTokens? i.address tokenCount else some i.tokens

/-- The claims of some instances, each with the position of its claimant. -/
def claimsFrom? (tokenCount : Nat) : Nat → List Instance → Option (List OwnedToken)
  | _, [] => some []
  | position, i :: rest => do
    let tokens ← claims? tokenCount i
    let others ← claimsFrom? tokenCount (position + 1) rest
    return tokens.map (fun token => ⟨token, position⟩) ++ others

/-- The order by token and then by owner. -/
def OwnedToken.le (a b : OwnedToken) : Bool :=
  a.token < b.token || (a.token == b.token && a.owner ≤ b.owner)

/-- Keeps the first of successive claims to the same token. -/
def firstClaims : List OwnedToken → List OwnedToken
  | [] => []
  | [claim] => [claim]
  | claim :: next :: rest =>
    if claim.token == next.token then firstClaims (claim :: rest)
    else claim :: firstClaims (next :: rest)
termination_by claims => claims.length

/-- The tokens with their owners, in increasing order of the tokens. -/
def ownedTokens (claims : List OwnedToken) : List OwnedToken :=
  firstClaims (claims.mergeSort OwnedToken.le)

/-- Builds a ring from its instances.  Instances without tokens of their own claim `tokenCount`
generated ones. -/
def build (instances : List Instance) (replicationFactor tokenCount : Nat) :
    Except RingError Ring :=
  if replicationFactor == 0 then .error .zeroReplicationFactor
  else match claimsFrom? tokenCount 0 instances with
    | none => .error .endlessGeneration
    | some [] => .error .empty
    | some claims => .ok ⟨ownedTokens claims, instances.map (·.address), replicationFactor⟩

/-- The tokens in the order of a walk that begins at the first one not below the key and goes once
around the ring. -/
def walk (r : Ring) (key : UInt32) : List OwnedToken :=
  r.tokens.dropWhile (·.token < key) ++ r.tokens.takeWhile (·.token < key)

/-- Collects different owners in order of appearance until there are `limit`. -/
def collectOwners (limit : Nat) (owners : List Nat) : List OwnedToken → List Nat
  | [] => owners
  | t :: rest =>
    if owners.length == limit then owners
    else if owners.contains t.owner then collectOwners limit owners rest
    else collectOwners limit (owners ++ [t.owner]) rest

/-- The positions of the owners of a key, the primary owner first. -/
def owners (r : Ring) (key : UInt32) : List Nat :=
  collectOwners r.replicationFactor [] (r.walk key)

/-- The greatest number of owners that there can be room for: a list takes less than `2 ^ 63` bytes,
and an owner eight of them. -/
def ownerCapacity : Nat :=
  (UInt64.size / 2 - 1) / 8

/-- The addresses of the owners of a key, the primary owner first. -/
def get (r : Ring) (key : UInt32) : Except LookupFailure (List String) :=
  if r.tokens.isEmpty then .error (.refused .empty)
  else if ownerCapacity < r.replicationFactor then .error .capacityOverflow
  else .ok ((r.owners key).filterMap fun owner => r.addresses[owner]?)

end Ring
end MetricLoad
