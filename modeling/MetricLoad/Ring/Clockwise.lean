import MetricLoad.Ring

/-!
# Owners by clockwise distance

The owners of a key, said without sorting claims and without a walk: a token belongs to the first
instance that claims it; list the claimed tokens by their clockwise distance from the key, replace
each by its owner, keep the first appearance of each owner, and take as many as the replication
factor asks for, or all that own a token.
-/

namespace MetricLoad.Ring

/-- How far a token lies clockwise from a key, modulo the size of the ring. -/
def clockwiseDistance (key token : UInt32) : UInt32 :=
  token - key

/-- The tokens that an instance claims; none if their generation does not end. -/
def claims (tokenCount : Nat) (i : Instance) : List UInt32 :=
  (claims? tokenCount i).getD []

/-- The position of the first instance that claims a token. -/
def firstClaimant? (tokenCount : Nat) (instances : List Instance) (token : UInt32) : Option Nat :=
  instances.findIdx? fun i => (claims tokenCount i).contains token

/-- The tokens that the instances claim, each of them once. -/
def claimedTokens (tokenCount : Nat) (instances : List Instance) : List UInt32 :=
  (instances.flatMap (claims tokenCount)).eraseDups

/-- The claimed tokens by increasing clockwise distance from a key. -/
def tokensByDistance (tokenCount : Nat) (instances : List Instance) (key : UInt32) : List UInt32 :=
  (claimedTokens tokenCount instances).mergeSort fun a b =>
    clockwiseDistance key a ≤ clockwiseDistance key b

/-- The positions of the instances that own at least one token. -/
def owningPositions (tokenCount : Nat) (instances : List Instance) : List Nat :=
  (List.range instances.length).filter fun position =>
    (claimedTokens tokenCount instances).any fun token =>
      firstClaimant? tokenCount instances token == some position

/-- The first different owners by clockwise distance: as many as the replication factor, or all. -/
def clockwiseOwners (tokenCount : Nat) (instances : List Instance) (replicationFactor : Nat)
    (key : UInt32) : List Nat :=
  ((tokensByDistance tokenCount instances key).filterMap
    (firstClaimant? tokenCount instances)).eraseDups.take
      (min replicationFactor (owningPositions tokenCount instances).length)

end MetricLoad.Ring
