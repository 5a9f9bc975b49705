import MetricLoad.Proofs.Ring.Report
import MetricLoad.Proofs.Schedule
import MetricLoad.Ring.Reporter

/-!
# Reports keep to the beat

A reporter makes its reports at the multiples of the interval since its start.  It is on its beat
after every look at the clock: one report is due at the first multiple behind the look, and earlier
ones are not made up for.  So a jump of the clock over any number of multiples gives a single
report, and the next one comes with the next multiple.  Where the clock is waited for instead, it
stops at every deadline, no look is late, and every multiple has its report.

A report is the outcome of one count over the ring.  What it says adds up: its summary counts the
shares that follow it and sums up their series, and the shares are in the order of the addresses.

All of this is said of checkers whose counts come to an end.  Where there is a series to look up and
no room for its owners, the reporter ends with its first count and says nothing at all.
-/

namespace MetricLoad.Ring

/-! ## What a report says -/

/-- A report: shares in increasing order of the addresses, under a summary of how many they are and
what they sum up to; or the failure of a ring that has no answer for some key. -/
inductive IsReport (ring : Ring) : List Record → Prop
  | shares {counts : Counts} (hincreasing : counts.Pairwise fun a b => a.1 < b.1) :
      IsReport ring (.summary counts.length (counts.map (·.2)).sum ::
        counts.map fun entry => .share entry.1 entry.2)
  | failure {key : UInt32} {cause : RingError} (hget : ring.get key = .error (.refused cause)) :
      IsReport ring [.failure cause]

theorem total_eq_sum (counts : Counts) : total counts = (counts.map (·.2)).sum := by
  induction counts with
  | nil => rfl
  | cons entry rest ih => rw [total, ih, List.map_cons, List.sum_cons]

theorem get_ne_capacityOverflow {ring : Ring} (hroom : ring.replicationFactor ≤ ownerCapacity)
    (key : UInt32) : ring.get key ≠ .error .capacityOverflow := by
  rw [get, if_neg (Nat.not_lt.2 hroom)]
  split <;> simp

/-- Counting goes on from one listing to the next until it is through, or until the ring has no
answer. -/
theorem exists_isReport_foldlM {counts : Counts} (hcounts : IsListing counts) {ring : Ring}
    {series : List TimeSeries} (hroom : ring.replicationFactor ≤ ownerCapacity ∨ series = [])
    (tenant : String) :
    ∃ report, records? (series.foldlM (countSeries ring tenant) counts) = some report ∧
      IsReport ring report := by
  induction series generalizing counts with
  | nil =>
    refine ⟨_, rfl, ?_⟩
    rw [total_eq_sum]
    exact .shares hcounts.increasing
  | cons s rest ih =>
    have hroom : ring.replicationFactor ≤ ownerCapacity := hroom.resolve_right (List.cons_ne_nil _ _)
    rw [List.foldlM_cons, countSeries]
    cases hget : ring.get (sortedShardToken tenant s.labels) with
    | ok addresses => exact ih (hcounts.countAll addresses) (.inl hroom)
    | error failure =>
      cases failure with
      | refused cause => exact ⟨_, rfl, .failure hget⟩
      | capacityOverflow => exact absurd hget (get_ne_capacityOverflow hroom _)

/-- A ring that has been built has an answer for every key. -/
theorem IsReport.failure_not_mem {ring : Ring} {records : List Record} (h : IsReport ring records)
    {instances : List Instance} {replicationFactor tokenCount : Nat}
    (hbuild : build instances replicationFactor tokenCount = .ok ring) (cause : RingError) :
    .failure cause ∉ records := by
  cases h with
  | shares => simp
  | failure hget =>
    have hr := isRingOf_build hbuild
    rcases Nat.lt_or_ge ownerCapacity ring.replicationFactor with hfull | hroom
    · rw [hr.get_eq_capacityOverflow hfull] at hget
      cases hget
    · rw [hr.get_eq_ok hroom] at hget
      cases hget

namespace Checker

/-- The counts of a checker come to an end: there can be room for the owners of a key, or there is
no series to look up. -/
def Completes (c : Checker) : Prop :=
  c.ring.replicationFactor ≤ ownerCapacity ∨ c.generator.replicas * c.generator.totalSeries = 0

theorem Completes.exists_isReport {c : Checker} (h : c.Completes) (now : Instant) :
    ∃ report, records? (c.check now).1 = some report ∧ IsReport c.ring report := by
  have hempty : IsListing [] := ⟨List.Pairwise.nil, fun _ hentry => nomatch hentry⟩
  refine exists_isReport_foldlM hempty (h.imp_right fun hnone => ?_) c.tenant
  exact List.eq_nil_of_length_eq_zero ((c.generator.length_tick c.run now).trans hnone)

theorem Completes.check {c : Checker} (h : c.Completes) (now : Instant) :
    (c.check now).2.Completes := by
  refine h.imp_right fun hnone => ?_
  show c.generator.replicas * c.generator.advance.totalSeries = 0
  rwa [(Generator.continues_advance _).totalSeries_eq]

/-- A checker that finds no room for the owners of its first series. -/
theorem check_eq_capacityOverflow {c : Checker} {instances : List Instance}
    {replicationFactor tokenCount : Nat}
    (hbuild : build instances replicationFactor tokenCount = .ok c.ring) (h : ¬c.Completes)
    (now : Instant) : (c.check now).1 = .error .capacityOverflow := by
  obtain ⟨hfull, hseries⟩ := not_or.1 h
  refine (isRingOf_build hbuild).distribution_eq_capacityOverflow (Nat.not_le.1 hfull) c.tenant ?_
  intro hempty
  exact hseries ((c.generator.length_tick c.run now).symm.trans (congrArg List.length hempty))

/-- One report is due. -/
theorem reports_one {c : Checker} {now : Instant} {report : List Record}
    (hreport : records? (c.check now).1 = some report) :
    c.reports now 1 = (report, some (c.check now).2) := by
  simp [reports, hreport]

/-- The first of some reports ends the reporter. -/
theorem reports_of_capacityOverflow {c : Checker} {now : Instant}
    (hcheck : (c.check now).1 = .error .capacityOverflow) (count : Nat) :
    c.reports now (count + 1) = ([], none) := by
  simp [reports, hcheck, records?]

end Checker

/-! ## One look at the clock -/

open Schedule (HasBeat)

/-- One report if a beat has passed between two times, and no record otherwise. -/
def ReportsOnce (ring : Ring) (period earlier later : Nat) (records : List Record) : Prop :=
  (HasBeat period earlier later → IsReport ring records) ∧
    (¬HasBeat period earlier later → records = [])

namespace Reporter

/-- A reporter of a ring that runs and is on the beat of a period. -/
structure IsSteady (ring : Ring) (period : Nat) (r : Reporter) : Prop where
  runs : ∃ c, r.checker = some c ∧ c.ring = ring ∧ c.Completes
  period_eq : r.schedule.period = period
  isOnBeat : r.schedule.IsOnBeat r.now

theorem isSteady_start {c : Checker} (hcompletes : c.Completes) (interval : Duration) :
    (start c interval).IsSteady c.ring interval.totalNanos :=
  ⟨⟨c, rfl, rfl, hcompletes⟩, rfl, Schedule.isOnBeat_start⟩

variable {ring : Ring} {period : Nat} {r : Reporter}

/-- A look at the clock makes the reports that are due and keeps the schedule that it leaves. -/
theorem advance_eq {c : Checker} (hchecker : r.checker = some c) (nanos : Nat) :
    r.advance nanos =
      ((c.reports ⟨(r.now + nanos : Nat)⟩ (r.schedule.look (r.now + nanos)).1).1,
        ⟨(c.reports ⟨(r.now + nanos : Nat)⟩ (r.schedule.look (r.now + nanos)).1).2,
          (r.schedule.look (r.now + nanos)).2, r.now + nanos⟩) := by
  simp only [advance, hchecker]

@[simp]
theorem now_advance (r : Reporter) (nanos : Nat) : (r.advance nanos).2.now = r.now + nanos := by
  unfold advance
  split <;> rfl

/-- A look at the clock finds a report due where a beat has passed, and the reporter goes on. -/
theorem IsSteady.look (h : r.IsSteady ring period) (hperiod : Schedule.tolerance < period)
    (nanos : Nat) : (r.advance nanos).2.IsSteady ring period ∧
      ReportsOnce ring period r.now (r.now + nanos) (r.advance nanos).1 := by
  obtain ⟨⟨c, hchecker, rfl, hcompletes⟩, rfl, hbeat⟩ := h
  obtain ⟨hdue, hperiod', hbeat'⟩ := hbeat.look hperiod (Nat.le_add_right r.now nanos)
  rw [ReportsOnce, Schedule.hasBeat_iff (Nat.zero_lt_of_lt hperiod), advance_eq hchecker, hdue]
  split
  · rename_i hpassed
    obtain ⟨report, hreport, hisReport⟩ := hcompletes.exists_isReport ⟨(r.now + nanos : Nat)⟩
    rw [Checker.reports_one hreport]
    exact ⟨⟨⟨_, rfl, rfl, hcompletes.check _⟩, hperiod', hbeat'⟩, fun _ => hisReport,
      fun hnot => absurd hpassed hnot⟩
  · rename_i hnot
    exact ⟨⟨⟨c, rfl, rfl, hcompletes⟩, hperiod', hbeat'⟩, fun hpassed => absurd hpassed hnot,
      fun _ => rfl⟩

theorem IsSteady.advance (h : r.IsSteady ring period) (hperiod : Schedule.tolerance < period)
    (nanos : Nat) : (r.advance nanos).2.IsSteady ring period :=
  (h.look hperiod nanos).1

theorem IsSteady.reportsOnce (h : r.IsSteady ring period) (hperiod : Schedule.tolerance < period)
    (nanos : Nat) : ReportsOnce ring period r.now (r.now + nanos) (r.advance nanos).1 :=
  (h.look hperiod nanos).2

/-- A reporter that makes no record: it has ended, or it ends with the first report that is due. -/
def IsSilent (r : Reporter) : Prop :=
  ∀ c, r.checker = some c → ∀ now, (c.check now).1 = .error .capacityOverflow

theorem IsSilent.advance (h : r.IsSilent) (nanos : Nat) :
    (r.advance nanos).2.IsSilent ∧ (r.advance nanos).1 = [] := by
  cases hchecker : r.checker with
  | none =>
    have hended : r.advance nanos = ([], { r with now := r.now + nanos }) := by
      simp only [Reporter.advance, hchecker]
    rw [hended]
    exact ⟨fun other hother => (nomatch hchecker.symm.trans hother), rfl⟩
  | some c =>
    rw [advance_eq hchecker]
    cases (r.schedule.look (r.now + nanos)).1 with
    | zero =>
      refine ⟨fun other hother => ?_, rfl⟩
      cases hother
      exact h c hchecker
    | succ count =>
      rw [Checker.reports_of_capacityOverflow (h c hchecker _)]
      exact ⟨fun _ hother => (nomatch hother), rfl⟩

/-! ## Jumps of the clock -/

/-- The records of successive jumps of the clock by some seconds, with a look after each of them. -/
def jumps (r : Reporter) : List Nat → List (List Record)
  | [] => []
  | seconds :: later =>
    (r.advance (seconds * nanosPerSecond)).1 :: (r.advance (seconds * nanosPerSecond)).2.jumps later

theorem length_jumps (r : Reporter) (seconds : List Nat) :
    (r.jumps seconds).length = seconds.length := by
  induction seconds generalizing r with
  | nil => rfl
  | cons first later ih => exact congrArg (· + 1) (ih _)

/-- The time after the first few jumps, in nanoseconds. -/
def elapsed (seconds : List Nat) (count : Nat) : Nat :=
  (seconds.take count).sum * nanosPerSecond

@[simp]
theorem elapsed_zero (seconds : List Nat) : elapsed seconds 0 = 0 := by
  simp [elapsed]

theorem elapsed_cons (first : Nat) (later : List Nat) (count : Nat) :
    elapsed (first :: later) (count + 1) = first * nanosPerSecond + elapsed later count := by
  rw [elapsed, List.take_succ_cons, List.sum_cons, Nat.add_mul, elapsed]

theorem IsSteady.reportsOnce_jumps (h : r.IsSteady ring period)
    (hperiod : Schedule.tolerance < period) {seconds : List Nat} {i : Nat} {records : List Record}
    (hrecords : (r.jumps seconds)[i]? = some records) :
    ReportsOnce ring period (r.now + elapsed seconds i) (r.now + elapsed seconds (i + 1))
      records := by
  induction seconds generalizing r i with
  | nil => cases hrecords
  | cons first later ih =>
    cases i with
    | zero =>
      cases hrecords
      rw [elapsed_cons, elapsed_zero, elapsed_zero, Nat.add_zero, Nat.add_zero]
      exact h.reportsOnce hperiod _
    | succ i =>
      have hlater := ih (h.advance hperiod (first * nanosPerSecond)) hrecords
      rw [now_advance] at hlater
      rwa [elapsed_cons, elapsed_cons, ← Nat.add_assoc, ← Nat.add_assoc]

theorem IsSilent.eq_nil_of_mem_jumps (h : r.IsSilent) {seconds : List Nat} {records : List Record}
    (hrecords : records ∈ r.jumps seconds) : records = [] := by
  induction seconds generalizing r with
  | nil => cases hrecords
  | cons first later ih =>
    obtain ⟨hsilent, hnone⟩ := h.advance (first * nanosPerSecond)
    rcases List.mem_cons.1 hrecords with rfl | hlater
    · exact hnone
    · exact ih hsilent hlater

theorem isSilent_start {c : Checker} {instances : List Instance} {replicationFactor tokenCount : Nat}
    (hbuild : build instances replicationFactor tokenCount = .ok c.ring) (h : ¬c.Completes)
    (interval : Duration) : (start c interval).IsSilent := by
  intro other hother
  cases hother
  exact c.check_eq_capacityOverflow hbuild h

/-- A jump of the clock gives one report where it passes or reaches any multiples of the interval,
from the first one on, and none elsewhere, if counting comes to an end.  A report adds up, and over a
ring that has been built none fails.  Where counting does not come to an end over such a ring, there
is no record after any jump. -/
theorem jumps_report_once (c : Checker) {interval : Duration}
    (hinterval : Schedule.tolerance < interval.totalNanos) (seconds : List Nat) :
    let reports := (start c interval).jumps seconds
    reports.length = seconds.length ∧
      (c.ring.replicationFactor ≤ ownerCapacity ∨
          c.generator.replicas * c.generator.totalSeries = 0 →
        ∀ (i : Nat) (records : List Record), reports[i]? = some records →
          ReportsOnce c.ring interval.totalNanos (elapsed seconds i) (elapsed seconds (i + 1))
            records) ∧
      ∀ instances replicationFactor tokenCount,
        build instances replicationFactor tokenCount = .ok c.ring →
        (∀ records ∈ reports, ∀ cause, .failure cause ∉ records) ∧
        (ownerCapacity < replicationFactor →
          c.generator.replicas * c.generator.totalSeries ≠ 0 →
          ∀ records ∈ reports, records = []) := by
  intro reports
  have honce (hcompletes : c.Completes) (i : Nat) (records : List Record)
      (hrecords : reports[i]? = some records) :
      ReportsOnce c.ring interval.totalNanos (elapsed seconds i) (elapsed seconds (i + 1))
        records := by
    simpa [start] using (isSteady_start hcompletes interval).reportsOnce_jumps hinterval hrecords
  refine ⟨length_jumps _ _, honce, fun instances replicationFactor tokenCount hbuild => ?_⟩
  have hsilent (hnot : ¬c.Completes) (records : List Record) (hrecords : records ∈ reports) :
      records = [] :=
    (isSilent_start hbuild hnot interval).eq_nil_of_mem_jumps hrecords
  refine ⟨fun records hrecords cause => ?_, fun hfull hseries => hsilent ?_⟩
  · by_cases hcompletes : c.Completes
    · obtain ⟨i, hi⟩ := List.getElem?_of_mem hrecords
      obtain ⟨hreport, hnone⟩ := honce hcompletes i records hi
      by_cases hbeat : HasBeat interval.totalNanos (elapsed seconds i) (elapsed seconds (i + 1))
      · exact (hreport hbeat).failure_not_mem hbuild cause
      · rw [hnone hbeat]
        exact List.not_mem_nil
    · rw [hsilent hcompletes records hrecords]
      exact List.not_mem_nil
  · rw [← replicationFactor_build hbuild] at hfull
    exact not_or.2 ⟨Nat.not_le.2 hfull, hseries⟩

/-- Every ten seconds: a jump over two multiples, one that ends on the next, and one that stays
before the one after. -/
theorem jumps_report_once_skipping :
    ∃ r, build sharingInstances 3 0 = .ok r ∧
      ∃ first second third : List Record,
        (start ⟨r, .ofWorkload Generator.unevenWorkload .standard 7, "run", "fake"⟩
          (.ofSeconds 10)).jumps [25, 5, 3] = [first, second, third] ∧
        IsReport r first ∧ IsReport r second ∧ third = [] ∧
        ∀ cause, .failure cause ∉ first := by
  have hbuild : ∃ r, build sharingInstances 3 0 = .ok r := ⟨_, rfl⟩
  obtain ⟨r, hr⟩ := hbuild
  have hroom : r.replicationFactor ≤ ownerCapacity := by
    rw [replicationFactor_build hr]
    decide
  have hinterval : Schedule.tolerance < (Duration.ofSeconds 10).totalNanos := by decide
  obtain ⟨hlength, honce, hbuilt⟩ := jumps_report_once
    ⟨r, .ofWorkload Generator.unevenWorkload .standard 7, "run", "fake"⟩ hinterval [25, 5, 3]
  obtain ⟨first, second, third, hreports⟩ := List.length_eq_three.1 hlength
  rw [hreports] at honce hbuilt
  have honce := honce (.inl hroom)
  refine ⟨r, hr, first, second, third, hreports, (honce 0 first rfl).1 ⟨1, by decide⟩,
    (honce 1 second rfl).1 ⟨3, by decide⟩, (honce 2 third rfl).2 ?_,
    (hbuilt _ _ _ hr).1 first List.mem_cons_self⟩
  rw [Schedule.hasBeat_iff (by decide)]
  decide

/-- A report for a single series falls due, and the lookup that it begins with asks for room for
`2 ^ 60` owners: there is no record. -/
theorem jump_beyond_capacity :
    ∃ r, build [⟨"a", [1]⟩] 1152921504606846976 0 = .ok r ∧
      HasBeat (Duration.ofSeconds 60).totalNanos (elapsed [61] 0) (elapsed [61] 1) ∧
      (start ⟨r, .ofWorkload loneWorkload .standard 0, "run", "fake"⟩ (.ofSeconds 60)).jumps [61] =
        [[]] := by
  have hbuild : ∃ r, build [⟨"a", [1]⟩] 1152921504606846976 0 = .ok r := ⟨_, rfl⟩
  obtain ⟨r, hr⟩ := hbuild
  let c : Checker := ⟨r, .ofWorkload loneWorkload .standard 0, "run", "fake"⟩
  have hfails : ¬c.Completes := by
    refine not_or.2 ⟨?_, ?_⟩
    · show ¬r.replicationFactor ≤ ownerCapacity
      rw [replicationFactor_build hr]
      decide
    · show 1 * (Generator.ofWorkload loneWorkload .standard 0).totalSeries ≠ 0
      rw [Generator.totalSeries_eq_sum]
      decide
  obtain ⟨-, hnone⟩ := (isSilent_start hr hfails (.ofSeconds 60)).advance (61 * nanosPerSecond)
  exact ⟨r, hr, ⟨1, by decide⟩, congrArg ([·]) hnone⟩

/-! ## Waiting for the clock -/

theorem IsSteady.deadline_le_iff (h : r.IsSteady ring period) (hperiod : 0 < period)
    {later : Nat} : r.schedule.deadline ≤ later ↔ r.now / period < later / period := by
  obtain ⟨-, rfl, hbeat⟩ := h
  exact hbeat.deadline_le_iff hperiod

theorem IsSteady.deadline_div (h : r.IsSteady ring period) (hperiod : 0 < period) :
    r.schedule.deadline / period = r.now / period + 1 := by
  obtain ⟨-, rfl, hbeat⟩ := h
  rw [hbeat, Nat.mul_div_cancel _ hperiod]

/-- A look at the very deadline gives a report. -/
theorem IsSteady.isReport_at_deadline (h : r.IsSteady ring period)
    (hperiod : Schedule.tolerance < period) :
    (r.advance (r.schedule.deadline - r.now)).2.now = r.schedule.deadline ∧
      IsReport ring (r.advance (r.schedule.deadline - r.now)).1 := by
  have hpositive : 0 < period := Nat.zero_lt_of_lt hperiod
  have hbehind : r.now < r.schedule.deadline := h.isOnBeat.lt_deadline (by rwa [h.period_eq])
  have harrival : r.now + (r.schedule.deadline - r.now) = r.schedule.deadline :=
    Nat.add_sub_of_le (Nat.le_of_lt hbehind)
  have hreport := (h.reportsOnce hperiod (r.schedule.deadline - r.now)).1
  rw [harrival, Schedule.hasBeat_iff hpositive, h.deadline_div hpositive] at hreport
  exact ⟨by rw [now_advance, harrival], hreport (Nat.lt_succ_self _)⟩

/-- From deadline to deadline, every look comes at a multiple of the interval. -/
theorem IsSteady.waitWithin (h : r.IsSteady ring period) (hperiod : Schedule.tolerance < period)
    {fuel until_ : Nat} (hnow : r.now ≤ until_) (hfuel : until_ / period - r.now / period < fuel) :
    ∃ reports : List (List Record), (r.waitWithin fuel until_).1 = reports.flatten ∧
      reports.length = until_ / period - r.now / period ∧
      ∀ report ∈ reports, IsReport ring report := by
  have hpositive : 0 < period := Nat.zero_lt_of_lt hperiod
  induction fuel generalizing r with
  | zero => exact absurd hfuel (Nat.not_lt_zero _)
  | succ fuel ih =>
    obtain ⟨c, hchecker, -⟩ := h.runs
    rw [Reporter.waitWithin, hchecker, Option.isSome_some, Bool.true_and]
    by_cases hdue : r.schedule.deadline ≤ until_
    · have hbeats : r.now / period < until_ / period := (h.deadline_le_iff hpositive).1 hdue
      obtain ⟨hnext, hreport⟩ := h.isReport_at_deadline hperiod
      have hpassed : (r.advance (r.schedule.deadline - r.now)).2.now / period =
          r.now / period + 1 := by
        rw [hnext, h.deadline_div hpositive]
      obtain ⟨reports, hrecords, hlength, hreports⟩ := ih (h.advance hperiod _)
        (by rwa [hnext]) (by omega)
      refine ⟨(r.advance (r.schedule.deadline - r.now)).1 :: reports, ?_, ?_, ?_⟩
      · simp only [decide_eq_true hdue, if_true, List.flatten_cons, hrecords]
      · rw [List.length_cons, hlength]
        omega
      · exact List.forall_mem_cons.2 ⟨hreport, hreports⟩
    · have hnone : until_ / period = r.now / period :=
        Nat.le_antisymm (Nat.not_lt.1 (mt (h.deadline_le_iff hpositive).2 hdue))
          (Nat.div_le_div_right hnow)
      rw [decide_eq_false hdue, hnone, Nat.sub_self]
      exact ⟨[], rfl, rfl, List.forall_mem_nil _⟩

/-- While the clock is waited for, every multiple of the interval has its report. -/
theorem IsSteady.wait (h : r.IsSteady ring period) (hperiod : Schedule.tolerance < period)
    (seconds : Nat) :
    ∃ reports : List (List Record), (r.wait seconds).1 = reports.flatten ∧
      reports.length = (r.now + seconds * nanosPerSecond) / period - r.now / period ∧
      ∀ report ∈ reports, IsReport ring report := by
  have hpositive : 0 < period := Nat.zero_lt_of_lt hperiod
  have hne : r.schedule.period ≠ 0 := by
    rw [h.period_eq]
    exact Nat.ne_of_gt hpositive
  rw [Reporter.wait, if_neg hne, h.period_eq]
  refine h.waitWithin hperiod (Nat.le_add_right _ _) ?_
  rw [Nat.add_div hpositive]
  generalize r.now / period = passed, seconds * 1000000000 / period = whole
  split <;> omega

end Reporter
end MetricLoad.Ring
