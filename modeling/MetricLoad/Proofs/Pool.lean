import MetricLoad.Proofs.Balancer
import MetricLoad.Proofs.Channel
import MetricLoad.Worker

/-!
# Workers at a channel

Workers that share a channel lose, double and swap nothing, whatever they work on and whoever sends
it to them.  A `Pool` is what is left of a running benchmark when its senders are taken away: the
channel, the workers, the balancer that they ask for addresses, and the logs of what they have taken
and what they have done.  The senders show only in what they do to the channel, and in whether they
have ended.

`Move` has one rule for everything that can happen to a pool.  `IsSound` holds at the start and
every move keeps it, so it holds after any interleaving.  What has entered the channel stays on
record, and once all workers have finished it has all been done.
-/

namespace MetricLoad

/-- The item that a worker has taken and is not done with, with the number of the worker. -/
def Worker.heldBy {α : Type} (number : Nat) : Option (Worker α) → List (Nat × α)
  | some (.holding item) => [(number, item)]
  | _ => []

/-- Another state of one worker changes what that worker holds. -/
theorem Worker.heldBy_getElem?_set {α : Type} {workers : List (Worker α)} {worker : Nat}
    (h : worker < workers.length) (w : Worker α) (number : Nat) :
    heldBy number (workers.set worker w)[number]? =
      if number = worker then heldBy number (some w) else heldBy number workers[number]? := by
  by_cases heq : number = worker
  · subst heq
    rw [if_pos rfl, List.getElem?_set_self h]
  · rw [if_neg heq, List.getElem?_set_ne (Ne.symm heq)]

/-- Workers at a channel. -/
structure Pool (α : Type) where
  /-- Whether all senders have ended. -/
  isClosed : Prop
  channel : Channel α
  workers : List (Worker α)
  balancer : Balancer
  /-- The items that workers have taken, with the workers, in order. -/
  taken : List (Nat × α)
  /-- The items that workers are done with, with the workers, in order. -/
  done : List (Nat × α)

namespace Pool

variable {α : Type}

/-- The items that workers have taken, in order. -/
def dequeued (p : Pool α) : List α :=
  p.taken.map (·.2)

/-- The items that have ever entered the channel, in order. -/
def entered (p : Pool α) : List α :=
  p.dequeued ++ p.channel.queue

/-- A pool in which nothing has happened. -/
def start (isClosed : Prop) (workers : Nat) (balancer : Balancer) : Pool α :=
  ⟨isClosed, .empty workers, List.replicate workers .idle, balancer, [], []⟩

/-- A worker has taken an item out of the channel. -/
def take (p : Pool α) (worker : Nat) (item : α) (channel : Channel α) : Pool α :=
  { p with
    channel := channel
    workers := p.workers.set worker (.holding item)
    taken := p.taken ++ [(worker, item)] }

@[simp]
theorem dequeued_take (p : Pool α) (worker : Nat) (item : α) (channel : Channel α) :
    (p.take worker item channel).dequeued = p.dequeued ++ [item] := by
  simp [take, dequeued]

/-- An item moves from the front of what is offered to the end of what was taken. -/
theorem dequeued_take_append_offered {p : Pool α} {item : α} {channel : Channel α}
    (first : p.channel.receive? = some (item, channel)) (worker : Nat) :
    (p.take worker item channel).dequeued ++ channel.offered =
      p.dequeued ++ p.channel.offered := by
  rw [dequeued_take, Channel.offered_of_receive? first, List.append_assoc, List.singleton_append]

/-- What can happen to a pool. -/
inductive Move : Pool α → Pool α → Prop
  | rest (p : Pool α) : Move p p
  /-- The addresses are refreshed. -/
  | refresh (p : Pool α) (r : Resolution) : Move p { p with balancer := (p.balancer.resolve r).2 }
  /-- A sender turns to the channel, or ends. -/
  | feed (p : Pool α) (isClosed : Prop) (channel : Channel α) (runs : ¬p.isClosed)
      (feeds : p.channel.Feeds channel) :
      Move p { p with isClosed := isClosed, channel := channel }
  | take (p : Pool α) (worker : Nat) (item : α) (channel : Channel α)
      (idle : p.workers[worker]? = some .idle)
      (first : p.channel.receive? = some (item, channel)) : Move p (p.take worker item channel)
  /-- A worker is done with its item, for which it has asked for an address. -/
  | work (p : Pool α) (worker : Nat) (item : α) (balancer : Balancer)
      (holds : p.workers[worker]? = some (.holding item))
      (addresses_eq : balancer.addresses = p.balancer.addresses) :
      Move p { p with
        workers := p.workers.set worker .idle
        balancer := balancer
        done := p.done ++ [(worker, item)] }
  | finish (p : Pool α) (worker : Nat) (idle : p.workers[worker]? = some .idle)
      (closed : p.isClosed) (isEmpty : p.channel.queue = []) :
      Move p { p with workers := p.workers.set worker .finished }

/-- The invariant of a pool with a number of workers: there are addresses, the channel keeps within
one place for every worker, what a worker has taken is what it is done with and then what it holds,
and workers finish only behind senders that have ended and a channel that is empty. -/
structure IsSound (count : Nat) (p : Pool α) : Prop where
  addresses_ne_nil : p.balancer.addresses ≠ []
  capacity_eq : p.channel.capacity = count
  length_le : p.channel.queue.length ≤ p.channel.capacity
  length_workers : p.workers.length = count
  worker_lt : ∀ entry ∈ p.taken, entry.1 < count
  taken_eq : ∀ number, p.taken.filter (·.1 == number) =
    p.done.filter (·.1 == number) ++ Worker.heldBy number p.workers[number]?
  settled : .finished ∈ p.workers → p.isClosed ∧ p.channel.queue = []

theorem isSound_start {balancer : Balancer} (h : balancer.addresses ≠ []) (isClosed : Prop)
    (count : Nat) : (start (α := α) isClosed count balancer).IsSound count where
  addresses_ne_nil := h
  capacity_eq := rfl
  length_le := Nat.zero_le _
  length_workers := List.length_replicate
  worker_lt := fun _ hentry => nomatch hentry
  taken_eq := fun number => by
    show [] = [] ++ Worker.heldBy number (List.replicate count Worker.idle)[number]?
    rw [List.getElem?_replicate]
    split <;> rfl
  settled := fun hfinished => nomatch List.eq_of_mem_replicate hfinished

variable {p q : Pool α} {count : Nat}

/-- Where a worker does not finish, the finished workers were there before. -/
theorem finished_mem_of_mem_set {workers : List (Worker α)} {worker : Nat} (w : Worker α)
    (hw : w ≠ .finished) (h : .finished ∈ workers.set worker w) : .finished ∈ workers :=
  (List.mem_or_eq_of_mem_set h).resolve_right hw.symm

theorem Move.isSound (move : Move p q) (h : p.IsSound count) : q.IsSound count := by
  cases move with
  | rest => exact h
  | refresh r =>
    exact { h with addresses_ne_nil := Balancer.addresses_resolve_ne_nil h.addresses_ne_nil r }
  | feed isClosed channel runs feeds =>
    exact { h with
      capacity_eq := feeds.capacity_eq.trans h.capacity_eq
      length_le := by
        rw [feeds.capacity_eq]
        exact Nat.le_trans feeds.length_le (Nat.max_le.2 ⟨h.length_le, Nat.le_refl _⟩)
      -- While a sender runs, no worker has finished.
      settled := fun hfinished => absurd (h.settled hfinished).1 runs }
  | take worker item channel idle first =>
    obtain ⟨hworker, -⟩ := List.getElem?_eq_some_iff.1 idle
    have hidle : Worker.heldBy worker p.workers[worker]? = [] := by rw [idle]; rfl
    exact { h with
      capacity_eq := (Channel.capacity_of_receive? first).trans h.capacity_eq
      length_le := Channel.length_queue_le_of_receive? first h.length_le
      length_workers := (List.length_set ..).trans h.length_workers
      worker_lt := fun entry hentry => by
        rcases List.mem_append.1 hentry with hbefore | hnow
        · exact h.worker_lt entry hbefore
        · cases List.mem_singleton.1 hnow
          exact h.length_workers ▸ hworker
      taken_eq := Channel.filter_receiver_got h.taken_eq hidle
        (Worker.heldBy_getElem?_set hworker (.holding item))
      settled := fun hfinished => by
        -- Behind a finished worker the queue is empty, so there is nothing to take.
        obtain ⟨rest, hqueue, -⟩ := Channel.receive?_eq_some_iff.1 first
        have hbefore := finished_mem_of_mem_set (.holding item) (fun heq => nomatch heq) hfinished
        rw [(h.settled hbefore).2] at hqueue
        cases hqueue }
  | work worker item balancer holds addresses_eq =>
    obtain ⟨hworker, -⟩ := List.getElem?_eq_some_iff.1 holds
    have hheld : Worker.heldBy worker p.workers[worker]? = [(worker, item)] := by rw [holds]; rfl
    exact { h with
      addresses_ne_nil := addresses_eq ▸ h.addresses_ne_nil
      length_workers := (List.length_set ..).trans h.length_workers
      taken_eq := Channel.filter_receiver_finished h.taken_eq hheld
        (Worker.heldBy_getElem?_set hworker .idle)
      settled := fun hfinished =>
        h.settled (finished_mem_of_mem_set .idle (fun heq => nomatch heq) hfinished) }
  | finish worker idle closed isEmpty =>
    obtain ⟨hworker, -⟩ := List.getElem?_eq_some_iff.1 idle
    exact { h with
      length_workers := (List.length_set ..).trans h.length_workers
      taken_eq := fun number => by
        rw [h.taken_eq number, Worker.heldBy_getElem?_set hworker]
        by_cases heq : number = worker
        · subst heq
          simp [Worker.heldBy, idle]
        · simp [heq]
      settled := fun _ => ⟨closed, isEmpty⟩ }

/-- Behind workers that have all finished there is nothing left in the channel and in their hands. -/
theorem IsSound.of_finished (h : p.IsSound count) (hcount : 0 < count)
    (hfinished : ∀ w ∈ p.workers, w = .finished) :
    p.channel.queue = [] ∧
      ∀ number, p.done.filter (·.1 == number) = p.taken.filter (·.1 == number) := by
  have hworkers : 0 < p.workers.length := h.length_workers ▸ hcount
  have hmem := List.getElem_mem hworkers
  refine ⟨(h.settled (hfinished _ hmem ▸ hmem)).2, fun number => ?_⟩
  have hheld : Worker.heldBy number p.workers[number]? = [] := by
    cases hworker : p.workers[number]? with
    | none => rfl
    | some w => rw [hfinished w (List.mem_of_getElem? hworker)]; rfl
  rw [h.taken_eq number, hheld, List.append_nil]

end Pool
end MetricLoad
