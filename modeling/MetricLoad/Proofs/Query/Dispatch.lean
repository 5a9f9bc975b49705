import MetricLoad.Proofs.Metrics
import MetricLoad.Proofs.Pool
import MetricLoad.Proofs.Setup.Endpoint

/-!
# No query runs more often than it is due

Every ticker offers its query at most once for each time it has fired, so the executions of a query
that have begun or are queued are never more than its ticks.  What enters the channel is taken by
one worker, which executes it once and records it under its type and its outcome.  A run that has
come back leaves nothing behind in the channel, and it has recorded as many queries as ever entered.

Three invariants carry this.  `IsScheduled` relates the jobs that tickers have issued to how often
they have fired.  `IsRecorded` relates the executions to the metrics.  What the workers take and
execute is the invariant of their pool.  Every single step keeps each of them, so they hold after
any interleaving of the tickers, the workers, the refreshing and the cancellation.

A query that is parked when its ticker stops is taken back, so a tick may come to nothing; it never
comes to two executions.
-/

namespace MetricLoad.Query

/-! ## Benchmarks that are set up -/

theorem isReady_of_setUp {σ : Type} {discover : Setup.Discovery σ} {s : QuerySettings}
    {queries : List Query} {m : Metrics} {state : σ} {b : Benchmark}
    (hsetUp : (Setup.query discover s queries m state).1 = .ok b) :
    Setup.IsReady b.workers b.balancer ∧ b.queries = queries ∧ b.workers = s.workers.toNat := by
  obtain ⟨balancer, rfl, hready⟩ := Setup.exists_of_overEndpoint hsetUp
  exact ⟨hready, rfl, rfl⟩

/-- The number of queries that a ticker has yet to offer for the times it has fired. -/
def Ticker.owed (t : Ticker) : Nat :=
  if t.state = .sending then 1 else 0

namespace Dispatch

/-! ## Executions -/

/-- The execution that a worker makes of a job that it holds: the outcome is that of the query, and
one observation is recorded under it. -/
theorem exists_execute_eq {d : Dispatch} {position : Nat} (haddresses : d.balancer.addresses ≠ [])
    (inRange : position < d.balancer.addresses.length ∨ d.balancer.addresses = []) (worker : Nat)
    (job : Job) (peer : Http.Peer) (now : Instant) (elapsed : Float) :
    ∃ balancer result, balancer.addresses = d.balancer.addresses ∧
      d.execute worker job position peer now elapsed =
        { d with
          workers := d.workers.set worker .idle
          balancer := balancer
          metrics := d.metrics.observeQuery result job.2.typeName elapsed
          executed := d.executed ++ [⟨worker, job, result⟩] } := by
  obtain ⟨c, balancer, hpick, hsame⟩ :=
    Balancer.exists_pickAt_eq (inRange.resolve_right haddresses)
  rw [execute, hpick]
  exact ⟨balancer, _, hsame, rfl⟩

/-- The executions as pairs of a worker and a job, in order. -/
def ran (d : Dispatch) : List (Nat × Job) :=
  d.executed.map fun x => (x.worker, x.job)

/-- The workers at the channel, whose senders are the tickers. -/
def pool (d : Dispatch) : Pool Job :=
  ⟨d.isClosed, d.channel, d.workers, d.balancer, d.taken, d.ran⟩

/-! ## The jobs of the tickers -/

/-- The jobs that have entered the channel and those that tickers are parked with. -/
def issued (d : Dispatch) : List Job :=
  d.pool.dequeued ++ d.channel.offered

/-- Jobs are the queries of their tickers, and a ticker has issued at most one for each time it has
fired, with one to spare while it turns to sending. -/
structure IsScheduled (b : Benchmark) (d : Dispatch) : Prop where
  queries_eq : d.tickers.map (·.query) = b.queries
  query_eq : ∀ job ∈ d.issued, b.queries[job.1]? = some job.2
  count_le : ∀ number t, d.tickers[number]? = some t →
    d.issued.countP (·.1 == number) + t.owed ≤ t.fired

/-! ## Records -/

/-- Whether an execution had an outcome, of a query of a type. -/
def isOfKind (status type : String) (x : Execution) : Bool :=
  x.outcome == status && x.job.2.typeName == type

/-- Every execution has added one observation, under its outcome and its type. -/
structure IsRecorded (m : Metrics) (d : Dispatch) : Prop where
  queryCount_eq : ∀ status type, d.metrics.queryCount status type =
    m.queryCount status type + d.executed.countP (isOfKind status type)
  queryObservations_eq : d.metrics.queryObservations = m.queryObservations + d.executed.length

end Dispatch

/-! ## Every step keeps the invariants -/

variable {b : Benchmark} {m : Metrics} {d e : Dispatch}

/-- A ticker that has not stopped keeps the channel open. -/
theorem Dispatch.not_isClosed {number : Nat} {t : Ticker} {state : TickerState}
    (present : d.tickers[number]? = some t) (hstate : t.state = state) (runs : state ≠ .stopped) :
    ¬d.isClosed :=
  fun hclosed => runs (hstate.symm.trans (hclosed t (List.mem_of_getElem? present)))

/-- Every step is a move of the pool. -/
theorem Step.move (step : Step d e) (haddresses : d.balancer.addresses ≠ []) :
    d.pool.Move e.pool := by
  cases step with
  | cancel => exact .rest _
  | refresh r => exact .refresh _ r
  | tick number t present waits =>
    exact .feed _ _ _ (Dispatch.not_isClosed present waits TickerState.noConfusion)
      (Channel.feeds_of_queue_eq rfl rfl)
  | send number t present sends room =>
    exact .feed _ _ _ (Dispatch.not_isClosed present sends TickerState.noConfusion)
      (Channel.feeds_push room _)
  | park number t present sends full =>
    exact .feed _ _ _ (Dispatch.not_isClosed present sends TickerState.noConfusion)
      (Channel.feeds_of_queue_eq rfl rfl)
  | resume number t present parks letIn =>
    exact .feed _ _ _ (Dispatch.not_isClosed present parks TickerState.noConfusion)
      (Channel.feeds_of_queue_eq rfl rfl)
  | stop number t present cancelled runs =>
    exact .feed _ _ _ (Dispatch.not_isClosed present rfl runs) (Channel.feeds_of_queue_eq rfl rfl)
  | take worker job channel idle first => exact .take _ worker job channel idle first
  | execute worker job position peer now elapsed holds inRange =>
    obtain ⟨balancer, result, hsame, heq⟩ :=
      Dispatch.exists_execute_eq haddresses inRange worker job peer now elapsed
    have hran : (d.executed ++ [(⟨worker, job, result⟩ : Execution)]).map
        (fun x => (x.worker, x.job)) = d.ran ++ [(worker, job)] := by
      rw [List.map_append, List.map_singleton, Dispatch.ran]
    rw [heq]
    simp only [Dispatch.pool, Dispatch.ran, hran]
    exact .work _ worker job balancer holds hsame
  | finish worker idle closed isEmpty => exact .finish _ worker idle closed isEmpty

/-! ### The tickers -/

/-- One ticker moves on.  Its jobs grow by no more than what it is owed and what it fires. -/
theorem Dispatch.IsScheduled.turn (h : d.IsScheduled b) {number : Nat} {t t' : Ticker}
    (more : List Job) (present : d.tickers[number]? = some t)
    (htickers : e.tickers = d.tickers.set number t') (hquery : t'.query = t.query)
    (hmore : ∀ job ∈ more, job = (number, t.query)) (hissued : e.issued.Subperm (more ++ d.issued))
    (hfired : more.length + t'.owed + t.fired ≤ t.owed + t'.fired) : e.IsScheduled b := by
  obtain ⟨hnumber, hget⟩ := List.getElem?_eq_some_iff.1 present
  have hqueries : e.tickers.map (·.query) = d.tickers.map (·.query) := by
    rw [htickers, List.map_set, hquery, ← hget, ← List.map_set, List.set_getElem_self]
  constructor
  case queries_eq => exact hqueries.trans h.queries_eq
  case query_eq =>
    intro job hjob
    rcases List.mem_append.1 (hissued.subset hjob) with hnow | hbefore
    · rw [hmore job hnow, ← h.queries_eq, List.getElem?_map, present]
      rfl
    · exact h.query_eq job hbefore
  case count_le =>
    intro other u hu
    have hcount := hissued.countP_le (·.1 == other)
    rw [List.countP_append] at hcount
    rw [htickers] at hu
    by_cases heq : other = number
    · subst heq
      rw [List.getElem?_set_self hnumber] at hu
      cases hu
      have hown := h.count_le other t present
      have hle := List.countP_le_length (p := (·.1 == other)) (l := more)
      omega
    · rw [List.getElem?_set_ne (Ne.symm heq)] at hu
      have hother := h.count_le other u hu
      -- What another ticker issues is not counted here.
      have hzero : more.countP (·.1 == other) = 0 := by
        rw [List.countP_eq_zero]
        intro job hjob
        simp [hmore job hjob, Ne.symm heq]
      omega

theorem Step.isScheduled (step : Step d e) (haddresses : d.balancer.addresses ≠ [])
    (h : d.IsScheduled b) : e.IsScheduled b := by
  cases step with
  | cancel => exact { h with }
  | refresh r => exact { h with }
  | finish worker idle closed isEmpty => exact { h with }
  | execute worker job position peer now elapsed holds inRange =>
    obtain ⟨balancer, result, -, heq⟩ :=
      Dispatch.exists_execute_eq haddresses inRange worker job peer now elapsed
    rw [heq]
    exact { h with }
  | tick number t present waits =>
    refine h.turn [] present rfl rfl (fun _ hjob => nomatch hjob)
      (List.Subperm.refl _) ?_
    simp [Ticker.owed, waits]
    omega
  | send number t present sends room =>
    refine h.turn [(number, t.query)] present rfl rfl
      (fun _ hjob => List.mem_singleton.1 hjob) ?_ ?_
    · exact (((Channel.offered_push_perm _ _).append_left _).trans List.perm_middle).subperm
    · simp [Ticker.owed, sends]
  | park number t present sends full =>
    refine h.turn [(number, t.query)] present rfl rfl
      (fun _ hjob => List.mem_singleton.1 hjob) ?_ ?_
    · exact (((Channel.offered_park_perm _ _ _).append_left _).trans List.perm_middle).subperm
    · simp [Ticker.owed, sends]
  | resume number t present parks letIn =>
    refine h.turn [] present rfl rfl (fun _ hjob => nomatch hjob)
      (List.Subperm.refl _) ?_
    simp [Ticker.owed]
  | stop number t present cancelled runs =>
    refine h.turn [] present rfl rfl (fun _ hjob => nomatch hjob)
      ?_ ?_
    · exact ((List.Sublist.refl _).append (Channel.offered_withdraw_sublist _ _)).subperm
    · simp [Ticker.owed]
  | take worker job channel idle first =>
    have hissued : (d.take worker job channel).issued = d.issued :=
      Pool.dequeued_take_append_offered (p := d.pool) first worker
    exact
      { queries_eq := h.queries_eq
        query_eq := fun job hjob => h.query_eq job (hissued ▸ hjob)
        count_le := fun number t present => hissued ▸ h.count_le number t present }

theorem Step.isRecorded (step : Step d e) (haddresses : d.balancer.addresses ≠ [])
    (h : d.IsRecorded m) : e.IsRecorded m := by
  cases step with
  | execute worker job position peer now elapsed holds inRange =>
    obtain ⟨balancer, result, -, heq⟩ :=
      Dispatch.exists_execute_eq haddresses inRange worker job peer now elapsed
    rw [heq]
    constructor
    case queryCount_eq =>
      intro status type
      show (d.metrics.observeQuery result job.2.typeName elapsed).queryCount status type =
        m.queryCount status type +
          (d.executed ++ [(⟨worker, job, result⟩ : Execution)]).countP
            (Dispatch.isOfKind status type)
      rw [Metrics.queryCount_observeQuery, h.queryCount_eq, List.countP_append,
        List.countP_singleton, Nat.add_assoc]
      simp [Dispatch.isOfKind]
    case queryObservations_eq =>
      show (d.metrics.observeQuery result job.2.typeName elapsed).queryObservations =
        m.queryObservations + (d.executed ++ [(⟨worker, job, result⟩ : Execution)]).length
      rw [Metrics.queryObservations_observeQuery, h.queryObservations_eq, List.length_append,
        List.length_singleton, Nat.add_assoc]
  | _ => exact { h with }

/-! ## Whole runs -/

/-- All invariants of a run. -/
structure Dispatch.IsSound (b : Benchmark) (m : Metrics) (d : Dispatch) : Prop where
  pool : d.pool.IsSound b.workers
  isScheduled : d.IsScheduled b
  isRecorded : d.IsRecorded m

theorem isSound_start (h : Setup.IsReady b.workers b.balancer) (m : Metrics) :
    (Dispatch.start b m).IsSound b m where
  pool := Pool.isSound_start h.addresses_ne_nil _ _
  isScheduled := by
    constructor
    case queries_eq =>
      show (b.queries.map fun q => (⟨q, .waiting, 0⟩ : Ticker)).map (·.query) = b.queries
      rw [List.map_map]
      exact List.map_id _
    case query_eq => exact fun _ hjob => nomatch hjob
    case count_le =>
      intro number t present
      rw [show (Dispatch.start b m).tickers = b.queries.map fun q => ⟨q, .waiting, 0⟩ from rfl,
        List.getElem?_map, Option.map_eq_some_iff] at present
      obtain ⟨q, -, rfl⟩ := present
      exact Nat.le_refl 0
  isRecorded := ⟨fun _ _ => rfl, rfl⟩

theorem Step.isSound (step : Step d e) (h : d.IsSound b m) : e.IsSound b m where
  pool := (step.move h.pool.addresses_ne_nil).isSound h.pool
  isScheduled := step.isScheduled h.pool.addresses_ne_nil h.isScheduled
  isRecorded := step.isRecorded h.pool.addresses_ne_nil h.isRecorded

theorem Reachable.isSound (reached : Reachable b m d) (h : Setup.IsReady b.workers b.balancer) :
    d.IsSound b m := by
  induction reached with
  | start => exact isSound_start h m
  | next _ step ih => exact step.isSound ih

end MetricLoad.Query
