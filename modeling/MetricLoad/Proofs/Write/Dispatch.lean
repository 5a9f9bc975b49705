import MetricLoad.Proofs.Pool
import MetricLoad.Proofs.Setup.Endpoint
import MetricLoad.Proofs.Workload.Ticks

/-!
# No batch is lost, doubled or moved

The ticks of a run determine one stream of batches.  In every state that a benchmark can come to,
what the workers have taken and what still lies in the channel is a beginning of that stream; every
batch that was taken is either pushed, once and by the worker that took it, or still in the hands of
that worker; and a run that has come back leaves nothing behind in the channel.

Three invariants carry this.  `IsFed` ties the generated batches to the ticks.  `InOrder` relates
them to the channel and to what the loop has yet to send.  What the workers take and push is the
invariant of their pool.  Every single step keeps each of them, so they hold after any interleaving
of the loop, the workers, the refreshing and the cancellation.

A batch that is parked when the run is cancelled is dropped, and with it the rest of its tick: these
batches belong to the stream and never enter the channel.
-/

namespace MetricLoad.Write

/-! ## Benchmarks that are set up -/

theorem isReady_of_setUp {σ : Type} {discover : Setup.Discovery σ} {s : WriteSettings}
    {run : String} {g : Generator} {m : Metrics} {state : σ} {b : Benchmark}
    (hsetUp : (Setup.write discover s run g m state).1 = .ok b) :
    Setup.IsReady b.workers b.balancer := by
  obtain ⟨balancer, rfl, hready⟩ := Setup.exists_of_overEndpoint hsetUp
  exact hready

/-! ## The stream of batches -/

/-- The batches of some ticks, one tick after the other. -/
def Benchmark.stream (b : Benchmark) (ticks : List Instant) : List Batch :=
  (b.generator.emissions (ticks.map (b.run, ·))).flatMap
    (splitBatches b.generator.options.batchSize.toNat)

/-- The batches of the current tick that the loop has not offered to the channel. -/
def Loop.unsent : Loop → List Batch
  | .waiting => []
  | .sending batch later false => batch :: later
  | .sending _ later true => later
  | .stopped => []

/-- A loop that sends runs. -/
theorem Loop.ne_stopped_of_sending {loop : Loop} {batch : Batch} {later : List Batch}
    {hasParked : Bool} (sends : loop = .sending batch later hasParked) : loop ≠ .stopped := by
  rw [sends]
  exact Loop.noConfusion

theorem Loop.ne_stopped_of_waiting {loop : Loop} (waits : loop = .waiting) : loop ≠ .stopped := by
  rw [waits]
  exact Loop.noConfusion

@[simp]
theorem Loop.unsent_ofBatches (batches : List Batch) :
    (Loop.ofBatches batches).unsent = batches := by
  cases batches <;> rfl

namespace Dispatch

/-! ## Pushes -/

/-- A worker with an address in range pushes its batch and is idle again. -/
theorem exists_push_eq {d : Dispatch} {position : Nat} (haddresses : d.balancer.addresses ≠ [])
    (inRange : position < d.balancer.addresses.length ∨ d.balancer.addresses = []) (worker : Nat)
    (batch : Batch) (peer : Http.Peer) (elapsed : Float) :
    ∃ balancer metrics, balancer.addresses = d.balancer.addresses ∧
      d.push worker batch position peer elapsed =
        { d with
          workers := d.workers.set worker .idle
          balancer := balancer
          metrics := metrics
          stored := d.stored ++ [(worker, batch)] } := by
  obtain ⟨c, balancer, hpick, hsame⟩ :=
    Balancer.exists_pickAt_eq (inRange.resolve_right haddresses)
  rw [push, hpick]
  exact ⟨balancer, _, hsame, rfl⟩

/-- The workers at the channel, whose sender is the loop. -/
def pool (d : Dispatch) : Pool Batch :=
  ⟨d.loop = .stopped, d.channel, d.workers, d.balancer, d.taken, d.stored⟩

/-! ## Ticks and the stream -/

/-- The generated batches are the stream of the ticks so far. -/
structure IsFed (b : Benchmark) (d : Dispatch) : Prop where
  run_eq : d.run = b.run
  generator_eq : d.generator = b.generator.after (d.ticks.map (b.run, ·))
  generated_eq : d.generated = b.stream d.ticks

/-! ## The order of the batches -/

/-- Taken, offered and unsent batches make up what was generated, in this order.  Only the loop
parks, and only while it waits for room; once it has stopped, what it had not sent is gone. -/
structure InOrder (d : Dispatch) : Prop where
  sender_eq : ∀ entry ∈ d.channel.parked, entry.1 = loopSender
  parked_eq_nil : (∀ batch later, d.loop ≠ .sending batch later true) → d.channel.parked = []
  isPrefix : d.pool.dequeued ++ d.channel.offered <+: d.generated
  generated_eq : d.loop ≠ .stopped →
    d.generated = d.pool.dequeued ++ d.channel.offered ++ d.loop.unsent

end Dispatch

/-! ## Every step keeps the invariants -/

variable {b : Benchmark} {d e : Dispatch}

/-- Every step is a move of the pool. -/
theorem Step.move (step : Step d e) (haddresses : d.balancer.addresses ≠ []) :
    d.pool.Move e.pool := by
  cases step with
  | cancel => exact .rest _
  | refresh r => exact .refresh _ r
  | tick now waits =>
    exact .feed _ _ _ (Loop.ne_stopped_of_waiting waits) (Channel.feeds_of_queue_eq rfl rfl)
  | send batch later sends room =>
    exact .feed _ _ _ (Loop.ne_stopped_of_sending sends) (Channel.feeds_push room batch)
  | park batch later sends full =>
    exact .feed _ _ _ (Loop.ne_stopped_of_sending sends) (Channel.feeds_of_queue_eq rfl rfl)
  | resume batch later sends letIn =>
    exact .feed _ _ _ (Loop.ne_stopped_of_sending sends) (Channel.feeds_of_queue_eq rfl rfl)
  | stop cancelled runs => exact .feed _ _ _ runs (Channel.feeds_of_queue_eq rfl rfl)
  | take worker batch channel idle first => exact .take _ worker batch channel idle first
  | push worker batch position peer elapsed holds inRange =>
    obtain ⟨balancer, metrics, hsame, heq⟩ :=
      Dispatch.exists_push_eq haddresses inRange worker batch peer elapsed
    rw [heq]
    exact .work _ worker batch balancer holds hsame
  | finish worker idle closed isEmpty => exact .finish _ worker idle closed isEmpty

/-- Only a tick changes the generator, and it appends its batches to the stream. -/
theorem Step.isFed (step : Step d e) (haddresses : d.balancer.addresses ≠ [])
    (h : d.IsFed b) : e.IsFed b := by
  cases step with
  | tick now waits =>
    have hgenerator := h.generator_eq
    constructor
    · exact h.run_eq
    · show (d.generator.tick d.run now).2 = b.generator.after ((d.ticks ++ [now]).map (b.run, ·))
      rw [List.map_append, List.map_singleton, Generator.after_concat, ← hgenerator, h.run_eq]
    · show d.generated ++ splitBatches d.generator.options.batchSize.toNat
        (d.generator.tick d.run now).1 = b.stream (d.ticks ++ [now])
      rw [Benchmark.stream, List.map_append, List.map_singleton, Generator.emissions_concat,
        ← hgenerator, List.flatMap_append, List.flatMap_singleton, h.generated_eq, h.run_eq,
        Benchmark.stream]
      rw [hgenerator, (Generator.continues_after ..).options_eq]
  | push worker batch position peer elapsed holds inRange =>
    obtain ⟨balancer, metrics, -, heq⟩ :=
      Dispatch.exists_push_eq haddresses inRange worker batch peer elapsed
    rw [heq]
    exact ⟨h.run_eq, h.generator_eq, h.generated_eq⟩
  | _ => exact ⟨h.run_eq, h.generator_eq, h.generated_eq⟩

/-- A loop that has not parked yet leaves no parked sender. -/
theorem Dispatch.InOrder.parked_eq_nil_of_sending (h : d.InOrder) {batch : Batch}
    {later : List Batch} (sends : d.loop = .sending batch later false) :
    d.channel.parked = [] := by
  apply h.parked_eq_nil
  intro other rest heq
  rw [sends] at heq
  cases heq

theorem Step.inOrder (step : Step d e) (haddresses : d.balancer.addresses ≠ [])
    (h : d.InOrder) : e.InOrder := by
  cases step with
  | cancel => exact { h with }
  | refresh r => exact { h with }
  | finish worker idle closed isEmpty => exact { h with }
  | push worker batch position peer elapsed holds inRange =>
    obtain ⟨balancer, metrics, -, heq⟩ :=
      Dispatch.exists_push_eq haddresses inRange worker batch peer elapsed
    rw [heq]
    exact { h with }
  | tick now waits =>
    have hparked : d.channel.parked = [] := by
      apply h.parked_eq_nil
      intro batch later heq
      rw [waits] at heq
      cases heq
    have hgenerated := h.generated_eq (Loop.ne_stopped_of_waiting waits)
    rw [waits, Loop.unsent, List.append_nil] at hgenerated
    exact
      { sender_eq := h.sender_eq
        parked_eq_nil := fun _ => hparked
        isPrefix := h.isPrefix.trans (List.prefix_append _ _)
        generated_eq := fun _ => by
          show d.generated ++ _ = d.pool.dequeued ++ d.channel.offered ++ (Loop.ofBatches _).unsent
          rw [Loop.unsent_ofBatches, hgenerated] }
  | send batch later sends room =>
    have hparked := h.parked_eq_nil_of_sending sends
    have hgenerated : d.generated =
        d.pool.dequeued ++ (d.channel.push batch).offered ++ (Loop.ofBatches later).unsent := by
      rw [h.generated_eq (Loop.ne_stopped_of_sending sends), sends,
        Channel.offered_push_of_not_parked hparked, Loop.unsent_ofBatches]
      simp [Loop.unsent]
    exact
      { sender_eq := h.sender_eq
        parked_eq_nil := fun _ => hparked
        isPrefix := ⟨_, hgenerated.symm⟩
        generated_eq := fun _ => hgenerated }
  | park batch later sends full =>
    have hparked := h.parked_eq_nil_of_sending sends
    have hgenerated : d.generated =
        d.pool.dequeued ++ (d.channel.park loopSender batch).offered ++ later := by
      rw [h.generated_eq (Loop.ne_stopped_of_sending sends), sends, Channel.offered_park]
      simp [Loop.unsent]
    exact
      { sender_eq := by
          show ∀ entry ∈ d.channel.parked ++ [(loopSender, batch)], entry.1 = loopSender
          simp [hparked]
        parked_eq_nil := fun hnot => absurd rfl (hnot batch later)
        isPrefix := ⟨later, hgenerated.symm⟩
        generated_eq := fun _ => hgenerated }
  | resume batch later sends letIn =>
    -- Only the loop parks, so a loop that is not parked leaves no parked sender at all.
    have hparked : d.channel.parked = [] := by
      apply List.eq_nil_iff_forall_not_mem.2
      intro entry hentry
      apply letIn
      rw [← h.sender_eq entry hentry]
      exact List.mem_map_of_mem hentry
    have hgenerated : d.generated =
        d.pool.dequeued ++ d.channel.offered ++ (Loop.ofBatches later).unsent := by
      rw [h.generated_eq (Loop.ne_stopped_of_sending sends), sends, Loop.unsent_ofBatches]
      rfl
    exact
      { sender_eq := h.sender_eq
        parked_eq_nil := fun _ => hparked
        isPrefix := ⟨_, hgenerated.symm⟩
        generated_eq := fun _ => hgenerated }
  | stop cancelled runs =>
    have hparked : (d.channel.withdraw loopSender).parked = [] := by
      show d.channel.parked.filter (·.1 != loopSender) = []
      rw [List.filter_eq_nil_iff]
      intro entry hentry
      simp [h.sender_eq entry hentry]
    -- A parked batch leaves with its sender; the queue stays as it is.
    have hoffered : (d.channel.withdraw loopSender).offered <+: d.channel.offered := by
      rw [Channel.offered, hparked, List.map_nil, List.append_nil]
      exact List.prefix_append _ _
    exact
      { sender_eq := by
          show ∀ entry ∈ (d.channel.withdraw loopSender).parked, entry.1 = loopSender
          simp [hparked]
        parked_eq_nil := fun _ => hparked
        isPrefix := ((List.prefix_append_right_inj _).2 hoffered).trans h.isPrefix
        generated_eq := fun hrunning => absurd rfl hrunning }
  | take worker batch channel idle first =>
    have hmoved : (d.take worker batch channel).pool.dequeued ++ channel.offered =
        d.pool.dequeued ++ d.channel.offered :=
      Pool.dequeued_take_append_offered (p := d.pool) first worker
    have hsubset := Channel.parked_subset_of_receive? first
    exact
      { sender_eq := fun entry hentry => h.sender_eq entry (hsubset hentry)
        parked_eq_nil := fun hnot => List.subset_nil.1 (h.parked_eq_nil hnot ▸ hsubset)
        isPrefix := hmoved ▸ h.isPrefix
        generated_eq := fun hrunning => hmoved ▸ h.generated_eq hrunning }

/-! ## Whole runs -/

/-- All invariants of a run. -/
structure Dispatch.IsSound (b : Benchmark) (d : Dispatch) : Prop where
  pool : d.pool.IsSound b.workers
  isFed : d.IsFed b
  inOrder : d.InOrder

theorem isSound_start (h : Setup.IsReady b.workers b.balancer) (m : Metrics) :
    (Dispatch.start b m).IsSound b where
  pool := Pool.isSound_start h.addresses_ne_nil _ _
  isFed := ⟨rfl, rfl, rfl⟩
  inOrder :=
    { sender_eq := fun _ hentry => nomatch hentry
      parked_eq_nil := fun _ => rfl
      isPrefix := List.prefix_refl _
      generated_eq := fun _ => rfl }

theorem Step.isSound (step : Step d e) (h : d.IsSound b) : e.IsSound b where
  pool := (step.move h.pool.addresses_ne_nil).isSound h.pool
  isFed := step.isFed h.pool.addresses_ne_nil h.isFed
  inOrder := step.inOrder h.pool.addresses_ne_nil h.inOrder

theorem Reachable.isSound {m : Metrics} (reached : Reachable b m d)
    (h : Setup.IsReady b.workers b.balancer) : d.IsSound b := by
  induction reached with
  | start => exact isSound_start h m
  | next _ step ih => exact step.isSound ih

end MetricLoad.Write
