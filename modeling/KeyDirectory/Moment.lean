/-!
# The monotonic clock

Points and lengths of time on a clock that only runs forward.  Everything that depends on the
time is given it, so that a run is determined by the times it is given.
-/

namespace KeyDirectory

/-- A point of the monotonic clock, in nanoseconds. -/
abbrev Moment := Int

/-- A length of time, in nanoseconds. -/
abbrev Duration := Nat

/-- The time from one point of the clock to another, nothing when the clock ran the other way. -/
def Moment.since (start now : Moment) : Duration :=
  (now - start).toNat

/-- The point of the clock that lies a length of time later. -/
def Moment.after (start : Moment) (time : Duration) : Moment :=
  start + time

/-- So many seconds. -/
def Duration.ofSeconds (n : Nat) : Duration :=
  n * 1000000000

/-- So many milliseconds. -/
def Duration.ofMilliseconds (n : Nat) : Duration :=
  n * 1000000

/-! ## Points and lengths of time -/

namespace Moment

variable {start now last : Moment} {time time' every : Duration}

/-- No time after a point of the clock is that point. -/
theorem after_zero (now : Moment) : now.after 0 = now :=
  Int.add_zero now

/-- Two lengths of time may be put together. -/
theorem after_after (start : Moment) (first second : Duration) :
    (start.after first).after second = start.after (first + second) := by
  unfold after
  rw [Int.natCast_add, Int.add_assoc]

/-- What is no later than now is no later than any time after. -/
theorem le_after (h : start ≤ now) (time : Duration) : start ≤ now.after time :=
  Int.le_trans h (Int.le_add_of_nonneg_right (Int.natCast_nonneg time))

/-- What begins no later and takes no longer is over no later. -/
theorem after_le_after (h : start ≤ now) (h' : time ≤ time') : start.after time ≤ now.after time' :=
  Int.add_le_add h (Int.ofNat_le.mpr h')

/-- Less than a length of time has passed as long as it is earlier than that time later. -/
theorem since_lt_iff (h : 0 < time) : start.since now < time ↔ now < start.after time := by
  have hint : ∀ (a b : Int) (n : Nat), 0 < n → ((b - a).toNat < n ↔ b < a + n) := by
    intro a b n hn
    omega
  exact hint start now time h

/-- Of the times that lie equal steps after a start, the first after a given one is found by
division, and comes within one step. -/
theorem lt_after_step (hevery : 0 < every) (h : start ≤ last) :
    last < start.after ((start.since last / every + 1) * every) ∧
      start.after ((start.since last / every + 1) * every) ≤ last.after every := by
  obtain ⟨passed, rfl⟩ := Int.le.dest h
  have hsince : start.since (start + (passed : Int)) = passed := by
    unfold since
    rw [Int.add_comm, Int.add_sub_cancel, Int.toNat_natCast]
  have hdivided := Nat.div_add_mod' passed every
  have hrest := Nat.mod_lt passed hevery
  have hlower : passed < (passed / every + 1) * every := by
    rw [Nat.add_one_mul]
    omega
  have hupper : (passed / every + 1) * every ≤ passed + every := by
    rw [Nat.add_one_mul]
    omega
  rw [hsince]
  refine ⟨Int.add_lt_add_left (Int.ofNat_lt.mpr hlower) start, ?_⟩
  exact (after_after start passed every).symm ▸ after_le_after (Int.le_refl start) hupper

end Moment

end KeyDirectory
