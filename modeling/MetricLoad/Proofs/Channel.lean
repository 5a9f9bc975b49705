import MetricLoad.Channel
import Mathlib.Data.List.Basic

/-!
# Channels keep the order

`offered` lists everything that a channel has accepted and not given away, followed by what its
parked senders offer.  Letting in parked senders does not change this list, and a receiver takes its
first element, so items leave a channel in the order in which they were sent or parked.

What the receivers have got is logged with their numbers, and so is what they have finished.  For
each of them the one log is the other and then what it still holds.  Two logs in which every
receiver has the same items are the same up to order.
-/

namespace MetricLoad.Channel

variable {α : Type}

/-- The items in the channel and then those of the parked senders, in order. -/
def offered (c : Channel α) : List α :=
  c.queue ++ c.parked.map (·.2)

@[simp]
theorem offered_push_of_not_parked {c : Channel α} (hparked : c.parked = []) (item : α) :
    (c.push item).offered = c.offered ++ [item] := by
  simp [offered, push, hparked]

@[simp]
theorem offered_park (c : Channel α) (sender : Nat) (item : α) :
    (c.park sender item).offered = c.offered ++ [item] := by
  simp [offered, park]

@[simp]
theorem offered_refill (c : Channel α) : c.refill.offered = c.offered := by
  simp only [offered, refill, List.append_assoc, ← List.map_append, List.take_append_drop]

/-- An item that is accepted stands behind the queue and before the parked senders. -/
theorem offered_push_perm (c : Channel α) (item : α) :
    (c.push item).offered.Perm (item :: c.offered) := by
  simp only [offered, push, List.append_assoc, List.singleton_append]
  exact List.perm_middle

theorem offered_park_perm (c : Channel α) (sender : Nat) (item : α) :
    (c.park sender item).offered.Perm (item :: c.offered) := by
  rw [offered_park]
  exact List.perm_append_singleton _ _

theorem offered_withdraw_sublist (c : Channel α) (sender : Nat) :
    (c.withdraw sender).offered.Sublist c.offered :=
  (List.Sublist.refl _).append (List.filter_sublist.map _)

/-- What a sender leaves of a channel that it turns to: whatever it adds stands behind the items that
are there, and there was room for it. -/
structure Feeds (c d : Channel α) : Prop where
  capacity_eq : d.capacity = c.capacity
  queue_prefix : c.queue <+: d.queue
  length_le : d.queue.length ≤ max c.queue.length c.capacity

theorem feeds_push {c : Channel α} (room : c.hasRoom) (item : α) : c.Feeds (c.push item) where
  capacity_eq := rfl
  queue_prefix := List.prefix_append _ _
  length_le := by
    show (c.queue ++ [item]).length ≤ _
    rw [List.length_append, List.length_singleton]
    exact Nat.le_trans (Nat.succ_le_of_lt room) (Nat.le_max_right _ _)

/-- Whoever parks, or takes an item back, leaves the queue alone. -/
theorem feeds_of_queue_eq {c d : Channel α} (hcapacity : d.capacity = c.capacity)
    (hqueue : d.queue = c.queue) : c.Feeds d where
  capacity_eq := hcapacity
  queue_prefix := hqueue ▸ List.prefix_refl _
  length_le := hqueue ▸ Nat.le_max_left _ _

/-- A channel within its capacity stays within it when parked senders move up. -/
theorem length_queue_refill_le {c : Channel α} (h : c.queue.length ≤ c.capacity) :
    c.refill.queue.length ≤ c.capacity := by
  simp only [refill, List.length_append, List.length_map, List.length_take]
  omega

/-- A receiver takes the first item, and parked senders move up. -/
theorem receive?_eq_some_iff {c d : Channel α} {item : α} :
    c.receive? = some (item, d) ↔
      ∃ rest, c.queue = item :: rest ∧ d = refill { c with queue := rest } := by
  unfold receive?
  split
  · simp_all
  · rename_i first rest hqueue
    simp only [hqueue, Option.some.injEq, Prod.mk.injEq, List.cons.injEq]
    constructor
    · rintro ⟨rfl, rfl⟩
      exact ⟨rest, ⟨rfl, rfl⟩, rfl⟩
    · rintro ⟨_, ⟨rfl, rfl⟩, rfl⟩
      exact ⟨rfl, rfl⟩

section Receive

variable {c d : Channel α} {item : α} (h : c.receive? = some (item, d))
include h

theorem offered_of_receive? : c.offered = item :: d.offered := by
  obtain ⟨rest, hqueue, rfl⟩ := receive?_eq_some_iff.1 h
  rw [offered_refill]
  simp [offered, hqueue]

theorem capacity_of_receive? : d.capacity = c.capacity := by
  obtain ⟨rest, -, rfl⟩ := receive?_eq_some_iff.1 h
  rfl

theorem length_queue_le_of_receive? (hlength : c.queue.length ≤ c.capacity) :
    d.queue.length ≤ d.capacity := by
  obtain ⟨rest, hqueue, rfl⟩ := receive?_eq_some_iff.1 h
  apply length_queue_refill_le
  rw [hqueue, List.length_cons] at hlength
  exact Nat.le_of_succ_le hlength

/-- A single parked sender is let in as soon as an item is taken. -/
theorem offered_eq_cons_queue_of_receive? (hlength : c.queue.length ≤ c.capacity)
    (hparked : c.parked.length ≤ 1) : c.offered = item :: d.queue ∧ d.parked = [] := by
  obtain ⟨rest, hqueue, rfl⟩ := receive?_eq_some_iff.1 h
  rw [hqueue, List.length_cons] at hlength
  have hroom : c.parked.length ≤ c.capacity - rest.length := by omega
  simp only [offered, refill, hqueue, List.take_of_length_le hroom, List.drop_of_length_le hroom,
    List.cons_append, and_self]

theorem parked_subset_of_receive? : d.parked ⊆ c.parked := by
  obtain ⟨rest, -, rfl⟩ := receive?_eq_some_iff.1 h
  exact List.drop_subset _ _

end Receive

/-! ## Logs of receivers -/

section Logs

variable {got finished : List (Nat × α)} {held held' : Nat → List (Nat × α)} {receiver : Nat}
  {item : α}
  (h : ∀ number, got.filter (·.1 == number) = finished.filter (·.1 == number) ++ held number)
include h

/-- A receiver that holds nothing gets an item, and then it holds this item. -/
theorem filter_receiver_got (idle : held receiver = [])
    (hheld : ∀ number, held' number = if number = receiver then [(number, item)] else held number)
    (number : Nat) :
    (got ++ [(receiver, item)]).filter (·.1 == number) =
      finished.filter (·.1 == number) ++ held' number := by
  rw [List.filter_append, h number, hheld number]
  by_cases heq : number = receiver
  · subst heq
    simp [idle]
  · simp [heq, Ne.symm heq]

/-- A receiver is done with the item that it holds. -/
theorem filter_receiver_finished (holds : held receiver = [(receiver, item)])
    (hheld : ∀ number, held' number = if number = receiver then [] else held number)
    (number : Nat) :
    got.filter (·.1 == number) =
      (finished ++ [(receiver, item)]).filter (·.1 == number) ++ held' number := by
  rw [List.filter_append, h number, hheld number]
  by_cases heq : number = receiver
  · subst heq
    simp [holds]
  · simp [heq, Ne.symm heq]

end Logs

/-- Two logs with the same items for every receiver have the same items. -/
theorem perm_of_filter_receiver_eq [BEq α] [LawfulBEq α] {first second : List (Nat × α)}
    (h : ∀ number, first.filter (·.1 == number) = second.filter (·.1 == number)) :
    first.Perm second := by
  rw [List.perm_iff_count]
  intro entry
  have hown (log : List (Nat × α)) :
      log.count entry = (log.filter (·.1 == entry.1)).count entry := by
    rw [List.count_filter]
    exact beq_self_eq_true entry.1
  rw [hown first, hown second, h entry.1]

end MetricLoad.Channel
