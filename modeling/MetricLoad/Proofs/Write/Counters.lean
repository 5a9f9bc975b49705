import MetricLoad.Proofs.Write.Dispatch
import Mathlib.Algebra.Ring.Nat
import Mathlib.Logic.Relation

/-!
# What the counters say about a run

A batch that finds room enters the channel and is counted in one go.  A batch with which the loop
has parked enters when a worker makes room, and it is counted when the loop looks again.  In between
it is unnoticed.  While the loop runs, the counters therefore follow what has entered the channel
but for the unnoticed batch, if there is one.

A cancellation may stop the loop just then.  The batch is in the channel, a worker pushes it, and
nobody counts it any more.  So a run that has come back has pushed what it has counted and what was
unnoticed when its loop stopped, and nothing else.
-/

namespace MetricLoad.Write

/-- The loop is not parked when it turns to its next batches. -/
theorem Loop.ofBatches_ne_parked (batches : List Batch) (batch : Batch) (later : List Batch) :
    Loop.ofBatches batches ≠ .sending batch later true := by
  cases batches <;> exact fun h => nomatch h

theorem Loop.ofBatches_ne_stopped (batches : List Batch) : Loop.ofBatches batches ≠ .stopped := by
  cases batches <;> exact Loop.noConfusion

namespace Dispatch

/-- The batch that has been let into the channel while the loop is still parked with it. -/
def unnoticed (d : Dispatch) : List Batch :=
  match d.loop with
  | .sending batch _ true => if d.channel.parked.isEmpty then [batch] else []
  | _ => []

/-- The counters have grown by the number of some batches and by the number of their series. -/
structure HasCounted (m : Metrics) (batches : List Batch) (d : Dispatch) : Prop where
  writeBatches_eq : d.metrics.writeBatches = m.writeBatches + batches.length.toUInt64
  writeSeries_eq :
    d.metrics.writeSeries = m.writeSeries + (batches.map List.length).sum.toUInt64

theorem HasCounted.count {m : Metrics} {counted : List Batch} {d : Dispatch}
    (h : d.HasCounted m counted) (batch : Batch) (later : List Batch) :
    (d.count batch later).HasCounted m (counted ++ [batch]) := by
  constructor
  case writeBatches_eq =>
    show d.metrics.writeBatches + 1 = m.writeBatches + (counted ++ [batch]).length.toUInt64
    rw [h.writeBatches_eq, List.length_append, List.length_singleton, UInt64.add_assoc]
    exact congrArg _ (UInt64.ofNat_add _ _).symm
  case writeSeries_eq =>
    show d.metrics.writeSeries + batch.length.toUInt64 =
      m.writeSeries + ((counted ++ [batch]).map List.length).sum.toUInt64
    rw [h.writeSeries_eq, List.map_append, List.sum_append, List.map_singleton,
      List.sum_singleton, UInt64.add_assoc]
    exact congrArg _ (UInt64.ofNat_add _ _).symm

/-- A push touches no counter. -/
theorem counters_push (d : Dispatch) (worker : Nat) (batch : Batch) (position : Nat)
    (peer : Http.Peer) (elapsed : Float) :
    (d.push worker batch position peer elapsed).metrics.writeBatches = d.metrics.writeBatches ∧
      (d.push worker batch position peer elapsed).metrics.writeSeries = d.metrics.writeSeries := by
  unfold push
  split
  · exact ⟨rfl, rfl⟩
  · unfold PushClient.store
    cases Wire.encodeBody batch <;> exact ⟨rfl, rfl⟩

/-! ## What is uncounted -/

/-- The batches that are in the channel without having been counted. -/
inductive Uncounted (d : Dispatch) : List Batch → Prop
  | none (nobody : d.channel.parked = [])
      (notParked : ∀ batch later, d.loop ≠ .sending batch later true) : Uncounted d []
  /-- The batch of a parked loop is not in the channel yet. -/
  | parked (batch : Batch) (later : List Batch) (sends : d.loop = .sending batch later true)
      (waits : d.channel.parked = [(loopSender, batch)]) : Uncounted d []
  /-- The loop has not seen that its batch has been let in. -/
  | letIn (batch : Batch) (later : List Batch) (sends : d.loop = .sending batch later true)
      (nobody : d.channel.parked = []) : Uncounted d [batch]
  /-- The loop has stopped without seeing it. -/
  | missed (batch : Batch) (stopped : d.loop = .stopped) (nobody : d.channel.parked = []) :
      Uncounted d [batch]

section Uncounted

variable {d e : Dispatch} {late : List Batch} (h : d.Uncounted late)
include h

/-- A loop that runs and is not parked has left nothing uncounted. -/
theorem Uncounted.eq_nil (running : d.loop ≠ .stopped)
    (notParked : ∀ batch later, d.loop ≠ .sending batch later true) :
    late = [] ∧ d.channel.parked = [] := by
  cases h with
  | none nobody _ => exact ⟨rfl, nobody⟩
  | parked batch later sends _ => exact absurd sends (notParked batch later)
  | letIn batch later sends _ => exact absurd sends (notParked batch later)
  | missed _ stopped _ => exact absurd stopped running

theorem Uncounted.eq_unnoticed (running : d.loop ≠ .stopped) : late = d.unnoticed := by
  unfold unnoticed
  cases h with
  | none nobody notParked =>
    split
    · rename_i batch later sends
      exact absurd sends (notParked batch later)
    · rfl
  | parked batch later sends waits => simp [sends, waits]
  | letIn batch later sends nobody => simp [sends, nobody]
  | missed _ stopped _ => exact absurd stopped running

theorem Uncounted.length_parked_le : d.channel.parked.length ≤ 1 := by
  cases h with
  | none nobody _ => simp [nobody]
  | parked _ _ _ waits => simp [waits]
  | letIn _ _ _ nobody => simp [nobody]
  | missed _ _ nobody => simp [nobody]

/-- A step that leaves the loop and its parked batch alone leaves the same uncounted. -/
theorem Uncounted.congr (hloop : e.loop = d.loop)
    (hparked : e.channel.parked = d.channel.parked) : e.Uncounted late := by
  cases h with
  | none nobody notParked => exact .none (hparked.trans nobody) (hloop ▸ notParked)
  | parked batch later sends waits =>
    exact .parked batch later (hloop.trans sends) (hparked.trans waits)
  | letIn batch later sends nobody =>
    exact .letIn batch later (hloop.trans sends) (hparked.trans nobody)
  | missed batch stopped nobody =>
    exact .missed batch (hloop.trans stopped) (hparked.trans nobody)

end Uncounted

/-- What has entered the channel has been counted, but for some batches. -/
def IsCountedBut (m : Metrics) (late : List Batch) (d : Dispatch) : Prop :=
  d.Uncounted late ∧ ∃ counted, d.pool.entered = counted ++ late ∧ d.HasCounted m counted

end Dispatch

/-! ## Every step keeps the counters -/

variable {b : Benchmark} {m : Metrics} {d e : Dispatch}

/-- A loop that stops takes a parked batch with it, but not one that has been let in. -/
theorem Dispatch.IsCountedBut.stop {late : List Batch} (h : d.IsCountedBut m late) :
    d.stop.IsCountedBut m late := by
  obtain ⟨huncounted, counted, hentered, hcounted⟩ := h
  refine ⟨?_, counted, hentered, { hcounted with }⟩
  have hstopped : ∀ batch later, Loop.stopped ≠ .sending batch later true :=
    fun _ _ h => nomatch h
  cases huncounted with
  | none nobody _ => exact .none (by simp [Dispatch.stop, Channel.withdraw, nobody]) hstopped
  | parked batch later _ waits =>
    exact .none (by simp [Dispatch.stop, Channel.withdraw, waits]) hstopped
  | letIn batch later _ nobody =>
    exact .missed batch rfl (by simp [Dispatch.stop, Channel.withdraw, nobody])
  | missed batch _ nobody =>
    exact .missed batch rfl (by simp [Dispatch.stop, Channel.withdraw, nobody])

/-- A worker that takes a batch lets in the batch of a parked loop. -/
theorem Dispatch.IsCountedBut.take {late : List Batch} (h : d.IsCountedBut m late)
    (hlength : d.channel.queue.length ≤ d.channel.capacity) {worker : Nat} {batch : Batch}
    {channel : Channel Batch} (first : d.channel.receive? = some (batch, channel)) :
    ∃ late', (d.take worker batch channel).IsCountedBut m late' ∧
      (d.loop = .stopped → late' = late) := by
  obtain ⟨huncounted, counted, hentered, hcounted⟩ := h
  obtain ⟨hoffered, hnobody⟩ :=
    Channel.offered_eq_cons_queue_of_receive? first hlength huncounted.length_parked_le
  have hgrown : (d.take worker batch channel).pool.entered =
      counted ++ late ++ d.channel.parked.map (·.2) := by
    calc (d.take worker batch channel).pool.entered
      _ = d.pool.dequeued ++ [batch] ++ channel.queue := by
        rw [← Pool.dequeued_take d.pool worker batch channel]
        rfl
      _ = d.pool.dequeued ++ d.channel.offered := by
        rw [hoffered, List.append_assoc, List.singleton_append]
      _ = d.pool.entered ++ d.channel.parked.map (·.2) :=
        (List.append_assoc ..).symm
      _ = counted ++ late ++ d.channel.parked.map (·.2) := by rw [hentered]
  cases huncounted with
  | none nobody notParked =>
    refine ⟨[], ⟨.none hnobody notParked, counted, ?_, { hcounted with }⟩, fun _ => rfl⟩
    simpa [nobody] using hgrown
  | parked entering later sends waits =>
    refine ⟨[entering], ⟨.letIn entering later sends hnobody, counted, ?_, { hcounted with }⟩,
      fun hstopped => by cases sends.symm.trans hstopped⟩
    simpa [waits] using hgrown
  | letIn entering later sends nobody =>
    refine ⟨[entering], ⟨.letIn entering later sends hnobody, counted, ?_, { hcounted with }⟩,
      fun _ => rfl⟩
    simpa [nobody] using hgrown
  | missed entering stopped nobody =>
    refine ⟨[entering], ⟨.missed entering stopped hnobody, counted, ?_, { hcounted with }⟩,
      fun _ => rfl⟩
    simpa [nobody] using hgrown

/-- A step keeps the counters in line with the channel; once the loop has stopped, what is uncounted
stays so. -/
theorem Step.isCountedBut {late : List Batch} (step : Step d e)
    (haddresses : d.balancer.addresses ≠ [])
    (hlength : d.channel.queue.length ≤ d.channel.capacity) (h : d.IsCountedBut m late) :
    ∃ late', e.IsCountedBut m late' ∧ (d.loop = .stopped → late' = late) := by
  obtain ⟨huncounted, counted, hentered, hcounted⟩ := h
  cases step with
  | cancel =>
    exact ⟨late, ⟨huncounted.congr rfl rfl, counted, hentered, { hcounted with }⟩, fun _ => rfl⟩
  | refresh r =>
    exact ⟨late, ⟨huncounted.congr rfl rfl, counted, hentered, { hcounted with }⟩, fun _ => rfl⟩
  | finish worker idle closed isEmpty =>
    exact ⟨late, ⟨huncounted.congr rfl rfl, counted, hentered, { hcounted with }⟩, fun _ => rfl⟩
  | take worker batch channel idle first =>
    exact Dispatch.IsCountedBut.take ⟨huncounted, counted, hentered, hcounted⟩ hlength first
  | push worker batch position peer elapsed holds inRange =>
    obtain ⟨hbatches, hseries⟩ := d.counters_push worker batch position peer elapsed
    obtain ⟨balancer, metrics, -, heq⟩ :=
      Dispatch.exists_push_eq haddresses inRange worker batch peer elapsed
    rw [heq] at hbatches hseries ⊢
    exact ⟨late, ⟨huncounted.congr rfl rfl, counted, hentered,
      ⟨hbatches.trans hcounted.writeBatches_eq, hseries.trans hcounted.writeSeries_eq⟩⟩,
      fun _ => rfl⟩
  | tick now waits =>
    obtain ⟨rfl, nobody⟩ := huncounted.eq_nil (Loop.ne_stopped_of_waiting waits)
      (by rw [waits]; exact fun _ _ => Loop.noConfusion)
    exact ⟨[], ⟨.none nobody (Loop.ofBatches_ne_parked _), counted, hentered, { hcounted with }⟩,
      fun _ => rfl⟩
  | send batch later sends room =>
    obtain ⟨rfl, nobody⟩ := huncounted.eq_nil (Loop.ne_stopped_of_sending sends)
      (by rw [sends]; exact fun _ _ h => nomatch h)
    refine ⟨[], ⟨.none nobody (Loop.ofBatches_ne_parked _), counted ++ [batch], ?_,
      { hcounted.count batch later with }⟩, fun _ => rfl⟩
    calc d.pool.dequeued ++ (d.channel.queue ++ [batch])
      _ = d.pool.entered ++ [batch] := (List.append_assoc ..).symm
      _ = counted ++ [batch] ++ [] := by rw [hentered, List.append_nil, List.append_nil]
  | park batch later sends full =>
    obtain ⟨rfl, nobody⟩ := huncounted.eq_nil (Loop.ne_stopped_of_sending sends)
      (by rw [sends]; exact fun _ _ h => nomatch h)
    refine ⟨[], ⟨.parked batch later rfl ?_, counted, hentered, { hcounted with }⟩, fun _ => rfl⟩
    show d.channel.parked ++ [(loopSender, batch)] = _
    rw [nobody, List.nil_append]
  | resume batch later sends letIn =>
    cases huncounted with
    | none nobody notParked => exact absurd sends (notParked batch later)
    | parked waiting rest sends' waits =>
      -- A loop that sees its batch in the channel is not waiting in front of it.
      refine absurd ?_ letIn
      simp [Channel.isParked, waits]
    | letIn entering rest sends' nobody =>
      cases sends.symm.trans sends'
      exact ⟨[], ⟨.none nobody (Loop.ofBatches_ne_parked _), counted ++ [batch],
        by rw [List.append_nil]; exact hentered, hcounted.count batch later⟩,
        fun hstopped => by cases sends.symm.trans hstopped⟩
    | missed _ stopped _ => cases sends.symm.trans stopped
  | stop cancelled runs =>
    exact ⟨late, Dispatch.IsCountedBut.stop ⟨huncounted, counted, hentered, hcounted⟩,
      fun _ => rfl⟩

/-- Only a stop ends the loop, and it follows a cancellation. -/
theorem Step.eq_stop (step : Step d e) (haddresses : d.balancer.addresses ≠ [])
    (runs : d.loop ≠ .stopped) (hstopped : e.loop = .stopped) :
    d.cancelled = true ∧ e = d.stop := by
  cases step with
  | stop cancelled _ => exact ⟨cancelled, rfl⟩
  | tick => exact absurd hstopped (Loop.ofBatches_ne_stopped _)
  | send => exact absurd hstopped (Loop.ofBatches_ne_stopped _)
  | resume => exact absurd hstopped (Loop.ofBatches_ne_stopped _)
  | park => cases hstopped
  | push worker batch position peer elapsed holds inRange =>
    obtain ⟨balancer, metrics, -, heq⟩ :=
      Dispatch.exists_push_eq haddresses inRange worker batch peer elapsed
    rw [heq] at hstopped
    exact absurd hstopped runs
  | _ => exact absurd hstopped runs

/-- A loop that has stopped does not run again. -/
theorem Step.stopped (step : Step d e) (haddresses : d.balancer.addresses ≠ [])
    (hstopped : d.loop = .stopped) : e.loop = .stopped := by
  cases step with
  | tick now waits => cases hstopped.symm.trans waits
  | send batch later sends room => cases hstopped.symm.trans sends
  | park batch later sends full => cases hstopped.symm.trans sends
  | resume batch later sends letIn => cases hstopped.symm.trans sends
  | stop => rfl
  | push worker batch position peer elapsed holds inRange =>
    obtain ⟨balancer, metrics, -, heq⟩ :=
      Dispatch.exists_push_eq haddresses inRange worker batch peer elapsed
    rw [heq]
    exact hstopped
  | _ => exact hstopped

/-! ## Whole runs -/

/-- What is uncounted: the unnoticed batch while the loop runs, and from its end on the batch that
was unnoticed when it stopped. -/
theorem Reachable.isCountedBut (reached : Reachable b m d) (hready : Setup.IsReady b.workers b.balancer) :
    (d.loop ≠ .stopped → d.IsCountedBut m d.unnoticed) ∧
      (d.loop = .stopped → ∃ p, Reachable b m p ∧ p.loop ≠ .stopped ∧ p.cancelled = true ∧
        Relation.ReflTransGen Step p.stop d ∧ d.IsCountedBut m p.unnoticed) := by
  induction reached with
  | start =>
    refine ⟨fun _ => ⟨.none rfl (fun _ _ h => nomatch h), [], rfl, ?_⟩, fun h => nomatch h⟩
    exact ⟨(UInt64.add_zero _).symm, (UInt64.add_zero _).symm⟩
  | @next d e reached step ih =>
    have hsound := reached.isSound hready
    by_cases hbefore : d.loop = .stopped
    case pos =>
      -- The loop has stopped earlier, and what it missed stays uncounted.
      obtain ⟨p, hp, hruns, hcancelled, hsteps, hcounted⟩ := ih.2 hbefore
      obtain ⟨late, hlate, hsame⟩ :=
        step.isCountedBut hsound.pool.addresses_ne_nil hsound.pool.length_le hcounted
      cases hsame hbefore
      exact ⟨fun hrunning => absurd (step.stopped hsound.pool.addresses_ne_nil hbefore) hrunning,
        fun _ => ⟨p, hp, hruns, hcancelled, hsteps.tail step, hlate⟩⟩
    case neg =>
      have hcounted := ih.1 hbefore
      constructor
      · intro hrunning
        obtain ⟨late, hlate, -⟩ :=
          step.isCountedBut hsound.pool.addresses_ne_nil hsound.pool.length_le hcounted
        exact hlate.1.eq_unnoticed hrunning ▸ hlate
      · intro hstopped
        obtain ⟨hcancelled, rfl⟩ := step.eq_stop hsound.pool.addresses_ne_nil hbefore hstopped
        exact ⟨d, reached, hbefore, hcancelled, .refl, hcounted.stop⟩

theorem Dispatch.length_unnoticed_le (d : Dispatch) : d.unnoticed.length ≤ 1 := by
  unfold unnoticed
  split
  · split <;> simp
  · exact Nat.zero_le 1

/-- While the loop runs, the counters have grown by what has entered the channel but for the
unnoticed batch.  A run that has come back has pushed what it has counted and the batch, if any,
that was unnoticed when a cancellation stopped its loop; without such a batch the counters are
exact. -/
theorem counters_miss_unnoticed_batch {σ : Type} {discover : Setup.Discovery σ} {s : WriteSettings}
    {run : String} {g : Generator} {m₀ : Metrics} {state : σ} {b : Benchmark} {m : Metrics}
    {d : Dispatch} (hsetUp : (Setup.write discover s run g m₀ state).1 = .ok b)
    (reached : Reachable b m d) :
    (d.loop ≠ .stopped → ∃ counted, d.pool.entered = counted ++ d.unnoticed ∧ d.HasCounted m counted) ∧
      (d.hasReturned → ∃ p counted, Reachable b m p ∧ p.loop ≠ .stopped ∧ p.cancelled = true ∧
        Relation.ReflTransGen Step p.stop d ∧ p.unnoticed.length ≤ 1 ∧
        (d.stored.map (·.2)).Perm (counted ++ p.unnoticed) ∧ d.HasCounted m counted) := by
  have hready := isReady_of_setUp hsetUp
  obtain ⟨hrunning, hstopped⟩ := reached.isCountedBut hready
  refine ⟨fun hruns => (hrunning hruns).2, fun hreturned => ?_⟩
  obtain ⟨p, hp, hruns, hcancelled, hsteps, -, counted, hentered, hcounted⟩ := hstopped hreturned.1
  obtain ⟨hqueue, hworkers⟩ := (reached.isSound hready).pool.of_finished hready.workers_pos hreturned.2
  refine ⟨p, counted, hp, hruns, hcancelled, hsteps, p.length_unnoticed_le, ?_, hcounted⟩
  rw [← hentered, Pool.entered, hqueue, List.append_nil]
  exact (Channel.perm_of_filter_receiver_eq hworkers).map _

/-! ## A run with an unnoticed batch -/

/-- One series for two replicas, in batches of one. -/
def pairGenerator : Generator :=
  .ofWorkload ⟨2, [⟨"up", .gaugeZero, .empty, []⟩], [], {}⟩ ⟨.ofSeconds 1, .ofSeconds 1, 1⟩ 0

/-- A write benchmark with two batches a tick, one worker and one address. -/
def pairBenchmark : Benchmark :=
  ⟨"run", 1, pairGenerator, ⟨"backend", ["10.0.0.1:80"], [], 0, 1⟩, ⟨.ofSeconds 1, none, none⟩⟩

/-- A run of one tick: the loop parks with the second batch, the worker takes the first and so lets
the second in, and the run is cancelled before the loop looks. -/
theorem exists_returned_pair :
    ∃ d, Reachable pairBenchmark .empty d ∧ d.hasReturned ∧ d.stored.map (·.2.length) = [1, 1] ∧
      d.metrics.writeBatches = 1 ∧ d.metrics.writeSeries = 1 := by
  obtain ⟨first, second, hseries⟩ :
      ∃ first second, (pairGenerator.tick "run" .epoch).1 = [first, second] := ⟨_, _, rfl⟩
  let d := (Dispatch.start pairBenchmark .empty).tick .epoch
  have hsending : d.loop = .sending [first] [[second]] false := by
    show Loop.ofBatches (splitBatches 1 (pairGenerator.tick "run" .epoch).1) = _
    rw [hseries, show splitBatches 1 [first, second] = [[first], [second]] by simp [splitBatches]]
    rfl
  let full := (d.send [first] [[second]]).park [second] []
  let unseen := { full.take 0 [first] ⟨1, [[second]], []⟩ with cancelled := true }
  let emptied := (unseen.stop.push 0 [first] 0 .unreachable 0).take 0 [second] ⟨1, [], []⟩
  have ticked : Reachable pairBenchmark .empty d := .next .start (.tick _ _ rfl)
  have sent := ticked.next (.send _ [first] [[second]] hsending Nat.zero_lt_one)
  have parked : Reachable pairBenchmark .empty full :=
    sent.next (.park _ [second] [] rfl (Nat.lt_irrefl 1))
  have cancelled : Reachable pairBenchmark .empty unseen :=
    (parked.next (.take _ 0 [first] _ rfl rfl)).next (.cancel _)
  have stopped := cancelled.next (.stop _ rfl Loop.noConfusion)
  have pushed := stopped.next (.push _ 0 [first] 0 .unreachable 0 rfl (.inl Nat.zero_lt_one))
  have taken : Reachable pairBenchmark .empty emptied :=
    pushed.next (.take _ 0 [second] _ rfl rfl)
  have pushedNext := taken.next (.push _ 0 [second] 0 .unreachable 0 rfl (.inl Nat.zero_lt_one))
  have finished := pushedNext.next (.finish _ 0 rfl rfl rfl)
  obtain ⟨hbatches, hseries⟩ := unseen.stop.counters_push 0 [first] 0 .unreachable 0
  obtain ⟨hbatches', hseries'⟩ := emptied.counters_push 0 [second] 0 .unreachable 0
  exact ⟨_, finished, ⟨rfl, fun w hw => List.mem_singleton.1 hw⟩, rfl, hbatches'.trans hbatches,
    hseries'.trans hseries⟩

/-- Both batches of that run are pushed, and one is counted. -/
theorem unnoticed_batch_pushed_uncounted :
    (Setup.write (fun _ s => (.found ["10.0.0.1:80"], s)) { workers := 1, endpoint := "backend" }
      "run" pairGenerator .empty ()).1 = .ok pairBenchmark ∧
    ∃ d, Reachable pairBenchmark .empty d ∧ d.hasReturned ∧
      d.stored.map (·.2.length) = [1, 1] ∧ d.metrics.writeBatches = 1 ∧
      d.metrics.writeSeries = 1 ∧ ¬d.HasCounted .empty (d.stored.map (·.2)) := by
  obtain ⟨d, reached, hreturned, hstored, hbatches, hseries⟩ := exists_returned_pair
  refine ⟨rfl, d, reached, hreturned, hstored, hbatches, hseries, fun hcounted => ?_⟩
  have hlength : (d.stored.map (·.2)).length = 2 := by
    simpa using congrArg List.length hstored
  have htwo := hcounted.writeBatches_eq
  rw [hbatches, hlength] at htwo
  exact absurd htwo (by decide)

theorem counters_miss_unnoticed_batch_pair :
    (Setup.write (fun _ s => (.found ["10.0.0.1:80"], s)) { workers := 1, endpoint := "backend" }
      "run" pairGenerator .empty ()).1 = .ok pairBenchmark ∧
    ∃ d p counted, Reachable pairBenchmark .empty d ∧ Reachable pairBenchmark .empty p ∧
      p.cancelled = true ∧ (d.stored.map (·.2)).Perm (counted ++ p.unnoticed) ∧
      counted.length = 1 ∧ p.unnoticed.length = 1 ∧ d.HasCounted .empty counted := by
  have hsetUp : (Setup.write (fun _ s => (.found ["10.0.0.1:80"], s))
      { workers := 1, endpoint := "backend" } "run" pairGenerator .empty ()).1 =
        .ok pairBenchmark := rfl
  obtain ⟨d, reached, hreturned, hstored, hbatches, -⟩ := exists_returned_pair
  obtain ⟨p, counted, hp, -, hcancelled, -, hle, hperm, hcounted⟩ :=
    (counters_miss_unnoticed_batch hsetUp reached).2 hreturned
  have hlength : counted.length + p.unnoticed.length = 2 := by
    simpa using hperm.length_eq.symm.trans (by simpa using congrArg List.length hstored)
  have hone : counted.length ≠ 2 := fun htwo => by
    have heq := hcounted.writeBatches_eq
    rw [hbatches, htwo] at heq
    exact absurd heq (by decide)
  exact ⟨hsetUp, d, p, counted, reached, hp, hcancelled, hperm, by omega, by omega, hcounted⟩

end MetricLoad.Write
