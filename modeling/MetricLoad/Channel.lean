/-!
# Bounded channels

A channel keeps items in the order in which they were accepted and gives each of them to one
receiver.  It holds at most as many items as its capacity.  A sender that finds it full parks with
its item and is let in, in order, when a receiver makes room; the sender may not notice this at
once. A parked sender may take its item back as long as it has not been let in.
-/

namespace MetricLoad

/-- A channel with its parked senders, who are told apart by numbers. -/
structure Channel (α : Type) where
  capacity : Nat
  queue : List α
  parked : List (Nat × α)
  deriving Repr

namespace Channel

variable {α : Type}

/-- A channel without items. -/
def empty (capacity : Nat) : Channel α :=
  ⟨capacity, [], []⟩

/-- Whether an item is accepted at once. -/
def hasRoom (c : Channel α) : Prop :=
  c.queue.length < c.capacity

/-- The channel with an item accepted. -/
def push (c : Channel α) (item : α) : Channel α :=
  { c with queue := c.queue ++ [item] }

/-- The channel with a sender parked. -/
def park (c : Channel α) (sender : Nat) (item : α) : Channel α :=
  { c with parked := c.parked ++ [(sender, item)] }

/-- Whether a sender is parked. -/
def isParked (c : Channel α) (sender : Nat) : Prop :=
  sender ∈ c.parked.map (·.1)

/-- The channel after a parked sender took its item back. -/
def withdraw (c : Channel α) (sender : Nat) : Channel α :=
  { c with parked := c.parked.filter (·.1 != sender) }

/-- Lets in parked senders, in order, as long as there is room. -/
def refill (c : Channel α) : Channel α :=
  let room := c.capacity - c.queue.length
  { c with
    queue := c.queue ++ (c.parked.take room).map (·.2)
    parked := c.parked.drop room }

/-- Takes the first item; parked senders may move up. -/
def receive? (c : Channel α) : Option (α × Channel α) :=
  match c.queue with
  | [] => none
  | item :: rest => some (item, refill { c with queue := rest })

end Channel
end MetricLoad
