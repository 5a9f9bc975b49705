import MetricLoad.Proofs.Balancer
import MetricLoad.Proofs.Query.Selection
import MetricLoad.Proofs.Ring.Ownership
import MetricLoad.Proofs.Ring.Tokens
import MetricLoad.Settings.Load
import MetricLoad.Setup

/-!
# What a run needs

A run is set up when its requirements are met, and refused for the first one that is not.  They are
listed here one by one, in the order in which set-up looks at them, each with what it asks for and
with the error of a run that lacks it.  Set-up itself is a sequence of stages; each stage decides
about some of the requirements, and stages one after the other decide about all of theirs.
-/

namespace MetricLoad

theorem Duration.ne_zero_iff_isZero {d : Duration} : d ≠ .zero ↔ ¬d.isZero = true :=
  not_congr d.isZero_iff.symm

theorem Duration.totalNanos_ne_zero {d : Duration} (h : d ≠ .zero) : d.totalNanos ≠ 0 := by
  intro hzero
  obtain ⟨hseconds, hnanos⟩ : d.seconds.toNat = 0 ∧ d.nanos.val = 0 := by
    unfold totalNanos nanosPerSecond at hzero
    omega
  cases d
  exact h (mk.injEq .. ▸ ⟨UInt64.toNat_inj.1 hseconds, Fin.ext hnanos⟩)

namespace Setup

/-- A benchmark that sends to an endpoint. -/
inductive Sender
  | query
  | write
  deriving DecidableEq, Repr

namespace Sender

/-- Whether the benchmark is to run. -/
def enabled (s : Settings) : Sender → Bool
  | query => s.query.enabled
  | write => s.write.enabled

/-- The number of its workers. -/
def workers (s : Settings) : Sender → UInt64
  | query => s.query.workers
  | write => s.write.workers

/-- The endpoint that it sends to. -/
def endpoint (s : Settings) : Sender → String
  | query => s.query.endpoint
  | write => s.write.endpoint

/-- An error about its endpoint as one of the run. -/
def error : Sender → EndpointError → SetupError
  | query => .query
  | write => .write

end Sender

/-- What a run needs. -/
inductive Requirement
  | batchSize
  | writeInterval
  | writeTimeout
  | replicationFactor
  /-- The generation of tokens comes to an end; a run that lacks this is never set up. -/
  | generation
  /-- Some instance has a token. -/
  | tokens
  /-- The queries of the workload can be derived. -/
  | queries
  | workers (sender : Sender)
  | addresses (sender : Sender)
  /-- There is something to do. -/
  | benchmark
  deriving DecidableEq, Repr

section Given

variable {σ : Type} (discover : Discovery σ) (s : Settings) (w : Workload) (state : σ)

/-- What the first look at an endpoint finds.  The endpoint of the queries is looked at first. -/
def Sender.resolution : Sender → Resolution
  | query => (discover s.query.endpoint state).1
  | write =>
    (discover s.write.endpoint
      (if s.query.enabled then (discover s.query.endpoint state).2 else state)).1

namespace Requirement

/-- All requirements in order. -/
def all : List Requirement :=
  [batchSize, writeInterval, writeTimeout, replicationFactor, generation, tokens, queries,
    workers .query, addresses .query, workers .write, addresses .write, benchmark]

theorem mem_all (r : Requirement) : r ∈ all := by
  cases r with
  | workers sender => cases sender <;> decide
  | addresses sender => cases sender <;> decide
  | _ => decide

/-- What a requirement asks for. -/
def IsMet : Requirement → Prop
  | batchSize => (w.write.onto s.write.options).batchSize ≠ 0
  | writeInterval => (w.write.onto s.write.options).interval ≠ .zero
  | writeTimeout => (w.write.onto s.write.options).timeout ≠ .zero
  | replicationFactor => s.ringCheck.enabled → s.ringCheck.replicationFactor ≠ 0
  | generation => s.ringCheck.enabled → ∀ i ∈ s.ringCheck.instances, i.tokens = [] →
      (Ring.generateTokens? i.address s.ringCheck.tokenCount.toNat).isSome
  | tokens => s.ringCheck.enabled → (∃ i ∈ s.ringCheck.instances, i.tokens ≠ []) ∨
      (s.ringCheck.instances ≠ [] ∧ s.ringCheck.tokenCount ≠ 0)
  | queries => s.query.enabled → ∃ queries, Query.derive s.id w = .ok queries
  | workers sender => sender.enabled s → sender.workers s ≠ 0
  | addresses sender => sender.enabled s →
      ∃ found, sender.resolution discover s state = .found found ∧ found ≠ []
  | benchmark => s.write.enabled ∨ s.query.enabled ∨ s.ringCheck.enabled

/-- The error of a run that lacks what a requirement asks for. -/
def IsFault : Requirement → SetupError → Prop
  | batchSize, e => e = .workload (.zero .batchSize)
  | writeInterval, e => e = .workload (.zero .writeInterval)
  | writeTimeout, e => e = .workload (.zero .writeTimeout)
  | replicationFactor, e => e = .ring .zeroReplicationFactor
  | generation, e => e = .ring .endlessGeneration
  | tokens, e => e = .ring .empty
  | queries, e => ∃ cause, Query.derive s.id w = .error cause ∧ e = .workload cause
  | workers sender, e => e = sender.error .noWorkers
  | addresses sender, e =>
    ∃ cause, Balancer.outcome (sender.endpoint s) (sender.resolution discover s state) =
      .error cause ∧ e = sender.error (.unresolved cause)
  | benchmark, e => e = .nothingEnabled

end Requirement

/-- A stage decides about some requirements: it accepts when they are met, with a result that has a
property, and refuses for the first one that is not. -/
inductive Decides {α : Type} (requirements : List Requirement) (P : α → Prop) :
    Except SetupError α → Prop
  | accepted {a : α} (met : ∀ r ∈ requirements, r.IsMet discover s w state) (holds : P a) :
      Decides requirements P (.ok a)
  | refused (before : List Requirement) {after : List Requirement} {r : Requirement}
      {e : SetupError} (split : requirements = before ++ r :: after)
      (earlier : ∀ q ∈ before, q.IsMet discover s w state) (unmet : ¬r.IsMet discover s w state)
      (fault : r.IsFault discover s w state e) : Decides requirements P (.error e)

variable {discover s w state} {α β : Type} {requirements later : List Requirement} {P : α → Prop}
  {Q : β → Prop}

/-- A stage is decided about in its turn when all that comes before is met. -/
theorem Decides.after {x : Except SetupError β}
    (met : ∀ r ∈ requirements, r.IsMet discover s w state)
    (h : Decides discover s w state later Q x) :
    Decides discover s w state (requirements ++ later) Q x := by
  cases h with
  | accepted metLater holds => exact .accepted (List.forall_mem_append.2 ⟨met, metLater⟩) holds
  | refused before split earlier unmet fault =>
    exact .refused (requirements ++ before) (by rw [split, ← List.append_assoc])
      (List.forall_mem_append.2 ⟨met, earlier⟩) unmet fault

/-- A stage and the one that follows it decide about the requirements of both. -/
theorem Decides.bind {x : Except SetupError α} {f : α → Except SetupError β}
    (h : Decides discover s w state requirements P x)
    (next : ∀ a, x = .ok a → P a → Decides discover s w state later Q (f a)) :
    Decides discover s w state (requirements ++ later) Q (x.bind f) := by
  cases h with
  | accepted met holds => exact (next _ rfl holds).after met
  | refused before split earlier unmet fault =>
    exact .refused before (by rw [split, List.append_assoc, List.cons_append]) earlier unmet fault

theorem Decides.map {x : Except SetupError α} {f : α → β}
    (h : Decides discover s w state requirements P x) (hf : ∀ a, P a → Q (f a)) :
    Decides discover s w state requirements Q (x.map f) := by
  cases h with
  | accepted met holds => exact .accepted met (hf _ holds)
  | refused before split earlier unmet fault => exact .refused before split earlier unmet fault

/-! ## The stages -/

open Requirement

theorem decides_generator (seed : UInt64) :
    Decides discover s w state [batchSize, writeInterval, writeTimeout]
      (fun g => g.options.interval ≠ .zero) (generator s w seed) := by
  unfold generator WriteOverrides.resolve WriteOptions.fault?
  by_cases hbatch : (w.write.onto s.write.options).batchSize = 0
  case pos =>
    rw [if_pos hbatch]
    exact .refused [] rfl (List.forall_mem_nil _) (fun met => met hbatch) rfl
  have first : ∀ r ∈ [batchSize], r.IsMet discover s w state := List.forall_mem_singleton.2 hbatch
  by_cases hinterval : (w.write.onto s.write.options).interval.isZero
  case pos =>
    rw [if_neg hbatch, if_pos hinterval]
    exact .refused [batchSize] rfl first (fun met => Duration.ne_zero_iff_isZero.1 met hinterval) rfl
  have interval : writeInterval.IsMet discover s w state := Duration.ne_zero_iff_isZero.2 hinterval
  have second : ∀ r ∈ [batchSize, writeInterval], r.IsMet discover s w state :=
    List.forall_mem_append.2 ⟨first, List.forall_mem_singleton.2 interval⟩
  by_cases htimeout : (w.write.onto s.write.options).timeout.isZero
  case pos =>
    rw [if_neg hbatch, if_neg hinterval, if_pos htimeout]
    exact .refused [batchSize, writeInterval] rfl second
      (fun met => Duration.ne_zero_iff_isZero.1 met htimeout) rfl
  have timeout : writeTimeout.IsMet discover s w state := Duration.ne_zero_iff_isZero.2 htimeout
  rw [if_neg hbatch, if_neg hinterval, if_neg htimeout]
  exact .accepted (List.forall_mem_append.2 ⟨second, List.forall_mem_singleton.2 timeout⟩) interval

/-! ### The ring -/

/-- The tokens of all instances are known when generation ends for those that list none. -/
theorem isMet_generation_iff (henabled : s.ringCheck.enabled = true) :
    generation.IsMet discover s w state ↔
      ∀ i ∈ s.ringCheck.instances, (Ring.claims? s.ringCheck.tokenCount.toNat i).isSome := by
  simp only [IsMet, henabled, forall_const, Ring.isSome_claims?_iff]

theorem isMet_tokens_iff (henabled : s.ringCheck.enabled = true)
    (hknown : ∀ i ∈ s.ringCheck.instances,
      (Ring.claims? s.ringCheck.tokenCount.toNat i).isSome) :
    tokens.IsMet discover s w state ↔
      ∃ i ∈ s.ringCheck.instances, Ring.claims s.ringCheck.tokenCount.toNat i ≠ [] := by
  have hcount : s.ringCheck.tokenCount.toNat ≠ 0 ↔ s.ringCheck.tokenCount ≠ 0 := by
    rw [ne_eq, ne_eq, ← UInt64.toNat_inj]
    exact Iff.rfl
  simp only [IsMet, henabled, forall_const]
  constructor
  · rintro (⟨i, hi, htokens⟩ | ⟨hinstances, htokens⟩)
    · exact ⟨i, hi, (Ring.claims_ne_nil_iff (hknown i hi)).2 (.inl htokens)⟩
    · obtain ⟨i, hi⟩ := List.exists_mem_of_ne_nil _ hinstances
      exact ⟨i, hi, (Ring.claims_ne_nil_iff (hknown i hi)).2 (.inr (hcount.2 htokens))⟩
  · rintro ⟨i, hi, hclaims⟩
    rcases (Ring.claims_ne_nil_iff (hknown i hi)).1 hclaims with htokens | htokens
    · exact .inl ⟨i, hi, htokens⟩
    · exact .inr ⟨List.ne_nil_of_mem hi, hcount.1 htokens⟩

theorem decides_ringCheck (hinterval : s.ringCheck.interval ≠ .zero) (g : Generator) :
    Decides discover s w state [replicationFactor, generation, tokens]
      (fun c => c.isSome = s.ringCheck.enabled ∧ ∀ r ∈ c, r.schedule.period ≠ 0)
      (ringCheck s g) := by
  unfold ringCheck
  by_cases henabled : s.ringCheck.enabled = true
  case neg =>
    rw [if_neg henabled]
    refine .accepted ?_ ⟨by simpa using henabled, fun r hr => nomatch hr⟩
    simp [IsMet, henabled]
  have hfactor : replicationFactor.IsMet discover s w state ↔
      s.ringCheck.replicationFactor.toNat ≠ 0 := by
    rw [IsMet, ne_eq, ne_eq, ← UInt64.toNat_inj]
    exact forall_prop_of_true henabled
  rw [if_pos henabled]
  cases hbuild : Ring.build s.ringCheck.instances s.ringCheck.replicationFactor.toNat
    s.ringCheck.tokenCount.toNat with
  | ok ring =>
    obtain ⟨hpositive, hknown, hclaimed⟩ := Ring.exists_build_eq_ok_iff.1 ⟨ring, hbuild⟩
    refine .accepted (List.forall_mem_cons.2 ⟨hfactor.2 hpositive, List.forall_mem_cons.2
      ⟨(isMet_generation_iff henabled).2 hknown, List.forall_mem_singleton.2
        ((isMet_tokens_iff henabled hknown).2 hclaimed)⟩⟩) ⟨henabled.symm, fun r hr => ?_⟩
    cases hr
    exact Duration.totalNanos_ne_zero hinterval
  | error cause =>
    have hcause := Ring.of_build_eq_error hbuild
    cases cause with
    | zeroReplicationFactor =>
      exact .refused [] rfl (List.forall_mem_nil _) (fun met => hfactor.1 met hcause) rfl
    | endlessGeneration =>
      obtain ⟨hpositive, hunknown⟩ := hcause
      exact .refused [replicationFactor] rfl (List.forall_mem_singleton.2 (hfactor.2 hpositive))
        (fun met => hunknown ((isMet_generation_iff henabled).1 met)) rfl
    | empty =>
      obtain ⟨hpositive, hknown, hunclaimed⟩ := hcause
      exact .refused [replicationFactor, generation] rfl
        (List.forall_mem_cons.2 ⟨hfactor.2 hpositive,
          List.forall_mem_singleton.2 ((isMet_generation_iff henabled).2 hknown)⟩)
        (fun met => hunclaimed ((isMet_tokens_iff henabled hknown).1 met)) rfl

/-! ### The benchmarks that send -/

theorem decides_queries :
    Decides discover s w state [.queries]
      (fun l => l.isSome = s.query.enabled ∧ ∀ derived ∈ l, ∀ q ∈ derived, q.interval ≠ .zero)
      (queries s w) := by
  unfold Setup.queries
  by_cases henabled : s.query.enabled = true
  case neg =>
    rw [if_neg henabled]
    exact .accepted (List.forall_mem_singleton.2 fun h => absurd h henabled)
      ⟨by simpa using henabled, fun l hl => nomatch hl⟩
  rw [if_pos henabled]
  cases hderive : Query.derive s.id w with
  | error cause =>
    refine .refused [] rfl (List.forall_mem_nil _) (fun met => ?_) ⟨cause, hderive, rfl⟩
    obtain ⟨derived, hok⟩ := met henabled
    cases hderive.symm.trans hok
  | ok derived =>
    refine .accepted (List.forall_mem_singleton.2 fun _ => ⟨derived, hderive⟩)
      ⟨henabled.symm, fun l hl q hq => ?_⟩
    cases hl
    exact Duration.ne_zero_iff_isZero.2 (by simp [Query.interval_ne_zero_of_derive hderive q hq])

/-- An endpoint is looked at when there are workers for it. -/
theorem decides_balance (sender : Sender) (henabled : sender.enabled s = true) {state' : σ}
    (hresolution : (discover (sender.endpoint s) state').1 = sender.resolution discover s state)
    (m : Metrics) :
    Decides discover s w state [workers sender, addresses sender] (fun _ => True)
      ((balance discover (sender.endpoint s) (sender.workers s) m state').1.mapError
        sender.error) := by
  unfold balance
  by_cases hworkers : sender.workers s = 0
  case pos =>
    rw [if_pos hworkers]
    exact .refused [] rfl (List.forall_mem_nil _) (fun met => met henabled hworkers) rfl
  have first : ∀ r ∈ [workers sender], r.IsMet discover s w state :=
    List.forall_mem_singleton.2 fun _ => hworkers
  rw [if_neg hworkers]
  simp only [Balancer.create, hresolution]
  cases houtcome : Balancer.outcome (sender.endpoint s) (sender.resolution discover s state) with
  | error cause =>
    refine .refused [workers sender] rfl first (fun met => ?_) ⟨cause, houtcome, rfl⟩
    obtain ⟨found, hfound, hne⟩ := met henabled
    cases houtcome.symm.trans (Balancer.outcome_eq_ok_iff.2 ⟨hfound, hne⟩)
  | ok found =>
    have hfound := Balancer.outcome_eq_ok_iff.1 houtcome
    exact .accepted (List.forall_mem_cons.2 ⟨fun _ => hworkers,
      List.forall_mem_singleton.2 fun _ => ⟨found, hfound⟩⟩) trivial

/-- A benchmark that is not to run needs neither workers nor addresses. -/
theorem isMet_of_not_enabled {sender : Sender} (henabled : ¬sender.enabled s = true) :
    ∀ r ∈ [workers sender, addresses sender], r.IsMet discover s w state := by
  simp [IsMet, henabled]

theorem decides_optionalQuery {planned : Option (List Query)}
    (hplanned : planned.isSome = s.query.enabled) (m : Metrics) :
    Decides discover s w state [workers .query, addresses .query]
      (fun b => b.map (·.queries) = planned) (optionalQuery discover s.query planned m state).1 := by
  cases planned with
  | none =>
    have henabled : ¬Sender.query.enabled s = true := by
      rw [Sender.enabled, ← hplanned]
      exact Bool.false_ne_true
    exact .accepted (isMet_of_not_enabled henabled) rfl
  | some derived =>
    have hquery : Decides discover s w state [workers .query, addresses .query]
        (fun b => b.queries = derived) (query discover s.query derived m state).1 :=
      (decides_balance .query hplanned.symm rfl m).map fun _ _ => rfl
    exact hquery.map fun b hqueries => congrArg some hqueries

theorem decides_optionalWrite (g : Generator) (m : Metrics) :
    Decides discover s w state [workers .write, addresses .write]
      (fun b => b.isSome = s.write.enabled ∧ ∀ benchmark ∈ b, benchmark.generator = g)
      (optionalWrite discover s.write s.id g m
        (if s.query.enabled then (discover s.query.endpoint state).2 else state)).1 := by
  by_cases henabled : s.write.enabled = true
  case neg =>
    rw [optionalWrite, if_neg henabled]
    exact .accepted (isMet_of_not_enabled henabled)
      ⟨by simpa using henabled, fun b hb => nomatch hb⟩
  have hwrite : Decides discover s w state [workers .write, addresses .write]
      (fun b => b.generator = g) (write discover s.write s.id g m
        (if s.query.enabled then (discover s.query.endpoint state).2 else state)).1 :=
    (decides_balance .write henabled rfl m).map fun _ _ => rfl
  rw [optionalWrite, if_pos henabled]
  refine hwrite.map fun b hgenerator => ⟨henabled.symm, ?_⟩
  rintro _ ⟨⟩
  exact hgenerator

/-- When the queries have been set up, their endpoint has been looked at. -/
theorem state_optionalQuery {planned : Option (List Query)}
    (hplanned : planned.isSome = s.query.enabled) {m : Metrics} {b : Option Query.Benchmark}
    (hok : (optionalQuery discover s.query planned m state).1 = .ok b) :
    (optionalQuery discover s.query planned m state).2.2 =
      if s.query.enabled then (discover s.query.endpoint state).2 else state := by
  rw [← hplanned]
  cases planned with
  | none => rfl
  | some derived =>
    simp only [optionalQuery, query, overEndpoint, balance] at hok ⊢
    by_cases hworkers : s.query.workers = 0
    · rw [if_pos hworkers] at hok
      cases hok
    · rw [if_neg hworkers] at hok ⊢
      cases hcreate : Balancer.create s.query.endpoint (discover s.query.endpoint state).1 with
      | error cause =>
        rw [hcreate] at hok
        cases hok
      | ok balancer => rfl

/-- What is set up: exactly the benchmarks that are enabled, none of them with a period of zero. -/
structure IsRunnable (s : Settings) (b : Benchmarks) : Prop where
  write_isSome : b.write.isSome = s.write.enabled
  query_isSome : b.query.isSome = s.query.enabled
  ringCheck_isSome : b.ringCheck.isSome = s.ringCheck.enabled
  write_interval : ∀ benchmark ∈ b.write, benchmark.generator.options.interval ≠ .zero
  query_interval : ∀ benchmark ∈ b.query, ∀ q ∈ benchmark.queries, q.interval ≠ .zero
  ringCheck_period : ∀ reporter ∈ b.ringCheck, reporter.schedule.period ≠ 0

theorem decides_nonempty {b : Benchmarks} (h : IsRunnable s b) :
    Decides discover s w state [benchmark] (IsRunnable s) (nonempty b) := by
  have hmet : benchmark.IsMet discover s w state ↔
      ¬(b.write.isNone && b.query.isNone && b.ringCheck.isNone) = true := by
    rw [IsMet, ← h.write_isSome, ← h.query_isSome, ← h.ringCheck_isSome]
    cases b.write <;> cases b.query <;> cases b.ringCheck <;> simp
  unfold nonempty
  split
  · rename_i hnone
    exact .refused [] rfl (List.forall_mem_nil _) (fun met => hmet.1 met hnone) rfl
  · rename_i hsome
    exact .accepted (List.forall_mem_singleton.2 (hmet.2 hsome)) h

/-! ## The whole set-up -/

theorem setUp_eq_bind (seed : UInt64) (m : Metrics) :
    (Benchmarks.setUp discover s w seed m state).1 =
      (generator s w seed).bind fun g => (ringCheck s g).bind fun c =>
        (Setup.queries s w).bind fun planned =>
          (optionalQuery discover s.query planned m state).1.bind fun q =>
            (optionalWrite discover s.write s.id g
              (optionalQuery discover s.query planned m state).2.1
              (optionalQuery discover s.query planned m state).2.2).1.bind fun b =>
                nonempty ⟨b, q, c⟩ := by
  unfold Benchmarks.setUp plan
  cases generator s w seed with
  | error cause => rfl
  | ok g =>
    cases hring : ringCheck s g with
    | error cause => simp only [bind, Except.bind, hring]
    | ok c =>
      cases hqueries : Setup.queries s w with
      | error cause => simp only [bind, Except.bind, hring]
      | ok planned =>
        simp only [bind, Except.bind, hring, pure, Except.pure]
        cases hquery : optionalQuery discover s.query planned m state with
        | mk result rest =>
          cases result with
          | error cause => rfl
          | ok q =>
            obtain ⟨m', state'⟩ := rest
            simp only
            cases hwrite : optionalWrite discover s.write s.id g m' state' with
            | mk result rest => cases result <;> rfl

theorem decides_setUp (hinterval : s.ringCheck.interval ≠ .zero) (seed : UInt64) (m : Metrics) :
    Decides discover s w state all (IsRunnable s) (Benchmarks.setUp discover s w seed m state).1 := by
  rw [setUp_eq_bind]
  refine (decides_generator seed).bind fun g _ hg => ?_
  refine (decides_ringCheck hinterval g).bind fun c _ hc => ?_
  refine decides_queries.bind fun planned _ hplanned => ?_
  refine (decides_optionalQuery hplanned.1 m).bind fun q hq hqueries => ?_
  -- Discovery may remember the look at the first endpoint when it is asked for the second.
  rw [state_optionalQuery hplanned.1 hq]
  refine (decides_optionalWrite g _).bind fun b _ hb => ?_
  have hruns : IsRunnable s ⟨b, q, c⟩ := by
    constructor
    case write_isSome => exact hb.1
    case query_isSome => rw [← hplanned.1, ← hqueries, Option.isSome_map]
    case ringCheck_isSome => exact hc.1
    case write_interval => exact fun benchmark hbenchmark => hb.2 benchmark hbenchmark ▸ hg
    case query_interval =>
      exact fun benchmark hbenchmark =>
        hplanned.2 benchmark.queries (hqueries ▸ Option.mem_map_of_mem _ hbenchmark)
    case ringCheck_period => exact hc.2
  exact decides_nonempty hruns

/-- A stage that has decided about all requirements accepts exactly when they are met. -/
theorem Decides.exists_ok_iff {x : Except SetupError α} (h : Decides discover s w state all P x) :
    (∃ a, x = .ok a) ↔ ∀ r : Requirement, r.IsMet discover s w state := by
  cases h with
  | @accepted a met _ => exact ⟨fun _ r => met r r.mem_all, fun _ => ⟨a, rfl⟩⟩
  | refused _ _ _ unmet _ =>
    constructor
    · rintro ⟨a, ⟨⟩⟩
    · exact fun met => absurd (met _) unmet

end Given

/-- Settings that have been loaded leave time between two ring checks. -/
theorem interval_ne_zero_of_load {machine : Machine} {file : Option (String × String)}
    {bindings : List (String × String)} {s : Settings}
    (hload : Settings.load machine file bindings = .ok s) : s.ringCheck.interval ≠ .zero := by
  have hsetting {value : Setting} (hof : Settings.ofSetting machine value = .ok s) :
      s.ringCheck.interval ≠ .zero := by
    unfold Settings.ofSetting at hof
    split at hof
    · cases hof
    · rename_i settings _
      unfold Settings.check at hof
      split at hof
      · cases hof
      · split at hof
        · cases hof
        · rename_i hinterval
          cases hof
          exact Duration.ne_zero_iff_isZero.2 hinterval
  unfold Settings.load at hload
  split at hload
  · exact hsetting hload
  · split at hload
    · cases hload
    · exact hsetting hload

/-- Loaded settings and a workload are set up exactly when every requirement is met.  What is set up
are the enabled benchmarks, whose periods are not zero.  A refusal is for the first requirement that
is not met. -/
theorem setUp_accepts_runnable {machine : Machine} {file : Option (String × String)}
    {bindings : List (String × String)} {s : Settings}
    (hload : Settings.load machine file bindings = .ok s) {σ : Type} (discover : Discovery σ)
    (w : Workload) (seed : UInt64) (m : Metrics) (state : σ) :
    ((∃ b, (Benchmarks.setUp discover s w seed m state).1 = .ok b) ↔
        ∀ r : Requirement, r.IsMet discover s w state) ∧
      (∀ b, (Benchmarks.setUp discover s w seed m state).1 = .ok b → IsRunnable s b) ∧
      ∀ e, (Benchmarks.setUp discover s w seed m state).1 = .error e →
        ∃ before r after, Requirement.all = before ++ r :: after ∧
          (∀ earlier ∈ before, earlier.IsMet discover s w state) ∧
          ¬r.IsMet discover s w state ∧ r.IsFault discover s w state e := by
  have decided : Decides discover s w state Requirement.all (IsRunnable s)
      (Benchmarks.setUp discover s w seed m state).1 :=
    decides_setUp (interval_ne_zero_of_load hload) seed m
  refine ⟨decided.exists_ok_iff, fun b hok => ?_, fun e herror => ?_⟩
  · rw [hok] at decided
    cases decided with
    | accepted _ runnable => exact runnable
  · rw [herror] at decided
    cases decided with
    | refused before split earlier unmet fault => exact ⟨before, _, _, split, earlier, unmet, fault⟩

/-- Variables that turn everything on. -/
def busyBindings : List (String × String) :=
  [("BENCH__WRITE__ENDPOINT", "backend"), ("BENCH__QUERY__ENABLED", "true"),
    ("BENCH__QUERY__ENDPOINT", "backend"), ("BENCH__RING_CHECK__ENABLED", "true"),
    ("BENCH__RING_CHECK__INSTANCES", "[\x7baddr=ring-0, tokens=[7]\x7d]")]

/-- Their settings. -/
def busySettings : Settings :=
  { id := "benchtool"
    threads := 1
    write := { endpoint := "backend" }
    query := { enabled := true, endpoint := "backend" }
    ringCheck := { enabled := true, instances := [⟨"ring-0", [7]⟩] } }

/-- One series and one query for it. -/
def busyWorkload : Workload :=
  ⟨1, [⟨"up", .gaugeZero, .empty, []⟩],
    [⟨1, "up\x7b<<.Matchers>>\x7d", .gaugeZero, .ofSeconds 10, none, false, false⟩], {}⟩

theorem setUp_accepts_runnable_busy :
    Settings.load ⟨none, 1⟩ none busyBindings = .ok busySettings ∧
      (∃ b, (Benchmarks.setUp (fun _ s => (.found ["10.0.0.1:80"], s)) busySettings busyWorkload 0
        .empty ()).1 = .ok b ∧ IsRunnable busySettings b) ∧
      ¬∃ b, (Benchmarks.setUp (fun _ s => (.late, s)) busySettings busyWorkload 0 .empty ()).1 =
        .ok b := by
  have hload : Settings.load ⟨none, 1⟩ none busyBindings = .ok busySettings := by decide +kernel
  have hcheck : Query.check busyWorkload busyWorkload.queries.head! =
      .ok ⟨[.literal "up\x7b".toList, .matchers, .literal "\x7d".toList]⟩ := by decide +kernel
  have hchecks : ∀ d ∈ busyWorkload.queries, ∃ template,
      Query.check busyWorkload d = .ok template := by
    intro d hd
    cases List.mem_singleton.1 hd
    exact ⟨_, hcheck⟩
  have hmet : ∀ r : Requirement,
      r.IsMet (fun _ s => (.found ["10.0.0.1:80"], s)) busySettings busyWorkload () := by
    intro r
    cases r with
    | workers sender => cases sender <;> exact fun _ => by decide
    | addresses sender => cases sender <;> exact fun _ => ⟨_, rfl, by decide⟩
    | queries => exact fun _ => Query.exists_derive_eq_ok (by decide) hchecks _
    | generation =>
      intro _ i hi htokens
      cases List.mem_singleton.1 hi
      cases htokens
    | tokens => exact fun _ => .inl ⟨_, List.mem_singleton.2 rfl, List.cons_ne_nil _ _⟩
    | replicationFactor => exact fun _ => (by decide : busySettings.ringCheck.replicationFactor ≠ 0)
    | benchmark => exact .inl rfl
    | batchSize =>
      exact (by decide : (busyWorkload.write.onto busySettings.write.options).batchSize ≠ 0)
    | writeInterval =>
      exact (by decide : (busyWorkload.write.onto busySettings.write.options).interval ≠ .zero)
    | writeTimeout =>
      exact (by decide : (busyWorkload.write.onto busySettings.write.options).timeout ≠ .zero)
  obtain ⟨haccepts, hruns, -⟩ := setUp_accepts_runnable hload
    (fun _ s => (.found ["10.0.0.1:80"], s)) busyWorkload 0 .empty ()
  obtain ⟨b, hb⟩ := haccepts.2 hmet
  refine ⟨hload, ⟨b, hb, hruns b hb⟩, fun hok => ?_⟩
  have hlate := (setUp_accepts_runnable hload (fun _ s => (.late, s)) busyWorkload 0 .empty ()).1.1 hok
  obtain ⟨found, hfound, -⟩ := hlate (.addresses .query) rfl
  cases hfound

/-- Variables that ask for more tokens than there are. -/
def endlessBindings : List (String × String) :=
  [("BENCH__WRITE__ENABLED", "false"), ("BENCH__RING_CHECK__ENABLED", "true"),
    ("BENCH__RING_CHECK__NUM_TOKENS", "4294967297"),
    ("BENCH__RING_CHECK__INSTANCES", "[\x7baddr=ring-0\x7d]")]

/-- Their settings. -/
def endlessSettings : Settings :=
  { id := "benchtool"
    threads := 1
    write := { enabled := false }
    ringCheck := { enabled := true, tokenCount := 4294967297, instances := [⟨"ring-0", []⟩] } }

/-- Of all requirements, such settings lack the end of the generation alone. -/
theorem endless_generation_not_set_up :
    Settings.load ⟨none, 1⟩ none endlessBindings = .ok endlessSettings ∧
      (∀ r : Requirement, r ≠ .generation →
        r.IsMet (fun _ s => (.late, s)) endlessSettings ⟨1, [], [], {}⟩ ()) ∧
      ¬∃ b, (Benchmarks.setUp (fun _ s => (.late, s)) endlessSettings ⟨1, [], [], {}⟩ 0 .empty
        ()).1 = .ok b := by
  have hnone : Ring.generateTokens? "ring-0" endlessSettings.ringCheck.tokenCount.toNat = none :=
    Ring.generateTokens?_eq_none (by decide)
  refine ⟨by decide +kernel, fun r hr => ?_, fun hok => ?_⟩
  · cases r with
    | generation => exact absurd rfl hr
    | workers sender => cases sender <;> exact fun h => nomatch h
    | addresses sender => cases sender <;> exact fun h => nomatch h
    | queries => exact fun h => nomatch h
    | tokens => exact fun _ => .inr ⟨List.cons_ne_nil _ _, by decide⟩
    | replicationFactor => exact fun _ => (by decide : (3 : UInt64) ≠ 0)
    | benchmark => exact .inr (.inr rfl)
    | batchSize => exact (by decide : (500 : UInt64) ≠ 0)
    | writeInterval => exact (by decide : Duration.ofSeconds 15 ≠ .zero)
    | writeTimeout => exact (by decide : Duration.ofSeconds 15 ≠ .zero)
  · have hends := (decides_setUp (by decide) 0 .empty).exists_ok_iff.1 hok .generation rfl
      ⟨"ring-0", []⟩ List.mem_cons_self rfl
    rw [hnone] at hends
    cases hends

end Setup
end MetricLoad
