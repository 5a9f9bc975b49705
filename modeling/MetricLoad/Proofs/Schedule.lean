import MetricLoad.Schedule
import Mathlib.Algebra.Order.Ring.Nat

/-!
# A schedule keeps its beat

The beats of a schedule are the multiples of its period, counted from its start, the start itself
not among them.  A schedule is on its beat at a time when its deadline is the first beat behind that
time.  A look at the clock keeps it there, however late it is: a deadline that is met in time is
moved on by one period, and after a late look the beats that have been missed are stepped over.  So
a look fires once where any beats have passed since the look before, and not at all where none has.

The period has to be longer than the tolerance.  With a shorter one, a deadline may count as met
when the beat behind it has already passed, and the same look fires again.
-/

namespace MetricLoad.Schedule

/-- A beat of the period lies behind the one time and not behind the other. -/
def HasBeat (period earlier later : Nat) : Prop :=
  ∃ m, 0 < m ∧ earlier < m * period ∧ m * period ≤ later

/-- The deadline is the first beat behind a time. -/
def IsOnBeat (s : Schedule) (now : Nat) : Prop :=
  s.deadline = (now / s.period + 1) * s.period

theorem hasBeat_iff {period earlier later : Nat} (hperiod : 0 < period) :
    HasBeat period earlier later ↔ earlier / period < later / period := by
  constructor
  · rintro ⟨m, -, hearlier, hlater⟩
    exact Nat.lt_of_lt_of_le ((Nat.div_lt_iff_lt_mul hperiod).2 hearlier)
      ((Nat.le_div_iff_mul_le hperiod).2 hlater)
  · intro h
    exact ⟨later / period, Nat.zero_lt_of_lt h, (Nat.div_lt_iff_lt_mul hperiod).1 h,
      Nat.div_mul_le_self later period⟩

theorem isOnBeat_start {period : Nat} : (start 0 period).IsOnBeat 0 := by
  simp [start, IsOnBeat]

theorem IsOnBeat.lt_deadline {s : Schedule} {now : Nat} (h : s.IsOnBeat now)
    (hperiod : 0 < s.period) : now < s.deadline := by
  rw [h]
  exact Nat.lt_mul_of_div_lt (Nat.lt_succ_self _) hperiod

/-- The deadline has come when a beat has passed. -/
theorem IsOnBeat.deadline_le_iff {s : Schedule} {now later : Nat} (h : s.IsOnBeat now)
    (hperiod : 0 < s.period) : s.deadline ≤ later ↔ now / s.period < later / s.period := by
  rw [h, ← Nat.le_div_iff_mul_le hperiod, Nat.succ_le_iff]

@[simp]
theorem period_next (s : Schedule) (now : Nat) : (s.next now).period = s.period := by
  unfold next
  split <;> rfl

/-- Whether or not the look is late, the next deadline is the first beat behind it. -/
theorem IsOnBeat.next {s : Schedule} {now later : Nat} (h : s.IsOnBeat now)
    (hperiod : tolerance < s.period) (hdue : s.deadline ≤ later) :
    (s.next later).IsOnBeat later := by
  have hpositive : 0 < s.period := Nat.zero_lt_of_lt hperiod
  unfold IsOnBeat at h ⊢
  rw [period_next, Schedule.next]
  split
  · -- The remainder of the lateness is that of the time itself, since the deadline is a beat.
    have hrest : (later - s.deadline) % s.period = later % s.period := by
      rw [h, Nat.mul_comm]
      exact Nat.sub_mul_mod (by rwa [Nat.mul_comm, ← h])
    have hsplit := Nat.div_add_mod' later s.period
    show later + s.period - (later - s.deadline) % s.period = _
    rw [hrest, Nat.succ_mul]
    omega
  · -- Within the tolerance the look comes before the beat behind the deadline.
    have hbeat : later / s.period = now / s.period + 1 := by
      refine Nat.div_eq_of_lt_le (by rwa [← h]) ?_
      rw [Nat.succ_mul, ← h]
      omega
    show s.deadline + s.period = _
    rw [hbeat, Nat.succ_mul, ← h]

/-- A period beyond the tolerance leaves two rounds. -/
theorem look_eq_lookWithin {s : Schedule} (hperiod : tolerance < s.period) (now : Nat) :
    s.look now = lookWithin 2 s now := by
  have hrounds : tolerance / s.period = 0 := Nat.div_eq_of_lt hperiod
  rw [Schedule.look, hrounds]

theorem lookWithin_of_lt {s : Schedule} {now : Nat} (h : now < s.deadline) (fuel : Nat) :
    lookWithin (fuel + 1) s now = (0, s) :=
  if_neg (Nat.not_le.2 h)

theorem lookWithin_of_le {s : Schedule} {now : Nat} (h : s.deadline ≤ now) (fuel : Nat) :
    lookWithin (fuel + 1) s now =
      ((lookWithin fuel (s.next now) now).1 + 1, (lookWithin fuel (s.next now) now).2) :=
  if_pos h

/-- A look fires once if a beat has passed, and leaves the schedule on its beat. -/
theorem IsOnBeat.look {s : Schedule} {now later : Nat} (h : s.IsOnBeat now)
    (hperiod : tolerance < s.period) (hlater : now ≤ later) :
    (s.look later).1 = (if now / s.period < later / s.period then 1 else 0) ∧
      (s.look later).2.period = s.period ∧ (s.look later).2.IsOnBeat later := by
  have hpositive : 0 < s.period := Nat.zero_lt_of_lt hperiod
  rw [look_eq_lookWithin hperiod]
  by_cases hbeat : now / s.period < later / s.period
  · have hdue := (h.deadline_le_iff hpositive).2 hbeat
    have hnext := h.next hperiod hdue
    have hbehind : later < (s.next later).deadline :=
      hnext.lt_deadline (by rwa [period_next])
    rw [lookWithin_of_le hdue, lookWithin_of_lt hbehind, if_pos hbeat]
    exact ⟨rfl, period_next s later, hnext⟩
  · have hbehind : later < s.deadline := Nat.not_le.1 (mt (h.deadline_le_iff hpositive).1 hbeat)
    have hsame : later / s.period = now / s.period :=
      Nat.le_antisymm (Nat.not_lt.1 hbeat) (Nat.div_le_div_right hlater)
    rw [lookWithin_of_lt hbehind, if_neg hbeat]
    exact ⟨rfl, rfl, by rw [IsOnBeat, hsame, h]⟩

end MetricLoad.Schedule
