import KeyDirectory.Cache.Sweeper
import KeyDirectory.Proofs.Cache.History

/-!
# No entry outlives its age limit by as much as the time between two sweeps

The task that sweeps wakes at equal distances, and each time leaves nothing that is expired.  So
at every time the last sweep lies back less than the time between two of them, and what is found was
not expired then, or came later (`Swept.Timely`).

* `Sweeper.turns_eq`: a number of turns is as many sweeps, at the times at which the task wakes.
* `Sweeper.wake_goOn`: when the task wakes next.
* `timely_step`, `timely_run`: what every event keeps.
* `Swept.age_lt`: the result.
-/

namespace KeyDirectory.Cache

/-! ## The task -/

namespace Sweeper

variable {ages : Moment → Moment} {s : Sweeper} {c : Cache} {time : Moment}

/-- The sweeps of a number of turns, each at the time at which the task wakes. -/
def sweeps (ages : Moment → Moment) (wake : Moment) (every : Duration) (n : Nat) : List Timed :=
  (List.range n).map fun i => (ages (wake.after (i * every)), .cleanup)

/-- After the first sweep come those of a task that wakes when this one does next. -/
lemma sweeps_succ (ages : Moment → Moment) (wake : Moment) (every : Duration) (n : Nat) :
    sweeps ages wake every (n + 1) =
      (ages wake, .cleanup) :: sweeps ages (wake.after every) every n := by
  unfold sweeps
  rw [List.range_succ_eq_map, List.map_cons, List.map_map, Nat.zero_mul, Moment.after_zero]
  refine congrArg _ (List.map_congr_left fun i _ => ?_)
  simp only [Function.comp, Moment.after_after]
  rw [Nat.succ_eq_add_one, Nat.add_one_mul, Nat.add_comm]

/-- A number of turns is as many sweeps, and puts the next one off as many times. -/
lemma turns_eq (ages : Moment → Moment) (n : Nat) (s : Sweeper) (c : Cache) :
    turns ages n s c = (⟨s.wake.after (n * c.limits.sweepEvery)⟩,
      c.run (sweeps ages s.wake c.limits.sweepEvery n)) := by
  induction n generalizing s c with
  | zero =>
      rw [Nat.zero_mul, Moment.after_zero]
      rfl
  | succ n ih =>
      have hlimits : (c.cleanup (ages s.wake)).1.limits = c.limits :=
        limits_apply (ages s.wake) c .cleanup
      rw [turns, turn]
      dsimp only
      rw [ih, hlimits, sweeps_succ, asleep, Moment.after_after, Nat.add_one_mul, Nat.add_comm]
      rfl

/-- The sweeps leave the limits alone. -/
@[simp] lemma limits_goOn (ages : Moment → Moment) (time : Moment) (s : Sweeper) (c : Cache) :
    (s.goOn ages time c).2.limits = c.limits := by
  unfold goOn
  rw [turns_eq]
  exact limits_run c _

/-- Until its time has come the task does nothing. -/
lemma goOn_of_lt (h : time < s.wake) : s.goOn ages time c = (s, c) := by
  unfold goOn due
  rw [if_neg (Int.not_le.mpr h)]
  rfl

/-- Once it has, the task next wakes after that time, and no later than it sleeps. -/
lemma wake_goOn (hevery : 0 < c.limits.sweepEvery) (h : s.wake ≤ time) :
    time < (s.goOn ages time c).1.wake ∧
      (s.goOn ages time c).1.wake ≤ time.after c.limits.sweepEvery := by
  unfold goOn due
  rw [if_pos h, turns_eq]
  exact Moment.lt_after_step hevery h

/-- What is found after a number of turns was not expired at the last of them. -/
lemma not_expired_of_turns {n : Nat} {key : String} {e : Entry}
    (he : (turns ages (n + 1) s c).2.find? key = some e) :
    c.isExpired (ages (s.wake.after (n * c.limits.sweepEvery))) e = false := by
  induction n generalizing s c with
  | zero =>
      rw [Nat.zero_mul, Moment.after_zero]
      exact (ite_any_eq_some_iff.mp ((find?_cleanup c _ key).symm.trans he)).2
  | succ n ih =>
      have hlimits : (c.cleanup (ages s.wake)).1.limits = c.limits :=
        limits_apply (ages s.wake) c .cleanup
      have hrest := ih (s := asleep c.limits s.wake) he
      rw [isExpired_congr hlimits, hlimits, asleep, Moment.after_after, Nat.add_comm,
        ← Nat.add_one_mul] at hrest
      exact hrest

end Sweeper

/-! ## A cache that is swept -/

namespace Swept

variable {limits : Limits} {s : Swept}

/-- The task sleeps, and began to sleep after the last sweep; what is found was then not past the
age limit. -/
structure Timely (limits : Limits) (s : Swept) : Prop where
  limits_eq : s.cache.limits = limits
  asleep : s.clock < s.sweeper.wake
  slept : s.sweeper.wake ≤ s.clock.after limits.sweepEvery
  young : ∀ key e maxAge, s.cache.find? key = some e → limits.maxAge = some maxAge →
    s.sweeper.wake ≤ e.storedAt.after (maxAge + limits.sweepEvery)

/-- At first nothing is stored, and the task has just gone to sleep. -/
lemma timely_opened (hevery : 0 < limits.sweepEvery) (now : Moment) :
    Timely limits (opened limits now) where
  limits_eq := rfl
  asleep := by
    exact Int.lt_add_of_pos_right now (Int.natCast_pos.mpr hevery)
  slept := Int.le_refl _
  young := by
    rintro key e maxAge ⟨⟩

/-- What a call leaves was there before, and is as old as before or was just confirmed, or it is
stored by the call. -/
lemma storedAt_called {now : Moment} {c : Cache} {op : Operation} {key : String} {e : Entry}
    (he : ((op.called now).apply now c).find? key = some e) :
    (∃ old, c.find? key = some old ∧ old.storedAt = e.storedAt) ∨ e.storedAt = now := by
  rcases find?_apply_eq_some_iff.mp he with ⟨old, hold, -, rfl⟩ | ⟨hop, -, -⟩
  · cases op with
    | refresh k freshFor =>
        simp only [Operation.called, Operation.renew]
        split_ifs
        · exact .inr rfl
        · exact .inl ⟨old, hold, rfl⟩
    | _ => exact .inl ⟨old, hold, rfl⟩
  · cases op with
    | insert k new =>
        obtain ⟨-, rfl⟩ := Operation.insert.inj hop
        exact .inr rfl
    | _ => cases hop

/-- A call stores nothing that is older than the time at which the task went to sleep. -/
lemma timely_call (h : Timely limits s) (op : Operation) : Timely limits (s.step (.call op)) where
  limits_eq := (limits_apply ..).trans h.limits_eq
  asleep := h.asleep
  slept := h.slept
  young := by
    intro key e maxAge he hmax
    rcases storedAt_called he with ⟨old, hold, heq⟩ | hnow
    · rw [← heq]
      exact h.young key old maxAge hold hmax
    · rw [hnow]
      exact Int.le_trans h.slept
        (Moment.after_le_after (Int.le_refl s.clock) (Nat.le_add_left _ maxAge))

/-- When time passes, either the task sleeps on, or it has swept since and sleeps again. -/
lemma timely_pass (h : Timely limits s) (hevery : 0 < limits.sweepEvery) (time : Duration) :
    Timely limits (s.step (.pass time)) := by
  have hlater : s.clock ≤ s.clock.after time := Moment.le_after (Int.le_refl _) time
  rw [← h.limits_eq] at hevery
  unfold step
  dsimp only
  rcases Int.lt_or_le (s.clock.after time) s.sweeper.wake with hsleeps | hwakes
  · rw [Sweeper.goOn_of_lt hsleeps]
    exact ⟨h.limits_eq, hsleeps,
      Int.le_trans h.slept (Moment.after_le_after hlater (Nat.le_refl _)), h.young⟩
  · obtain ⟨hafter, hsoon⟩ : s.clock.after time < (s.sweeper.goOn id _ s.cache).1.wake ∧ _ :=
      Sweeper.wake_goOn hevery hwakes
    rw [h.limits_eq] at hsoon
    refine ⟨(Sweeper.limits_goOn ..).trans h.limits_eq, hafter, hsoon, ?_⟩
    intro key e maxAge he hmax
    dsimp only at he ⊢
    -- The last of the turns was made one sleep before the task wakes next.
    unfold Sweeper.goOn Sweeper.due at he ⊢
    rw [if_pos hwakes] at he ⊢
    have hfresh := isExpired_eq_false_iff.mp (Sweeper.not_expired_of_turns he) maxAge
      (h.limits_eq ▸ hmax)
    have hlast := Int.le_of_lt ((Moment.since_lt_iff (Nat.zero_lt_of_lt hfresh)).mp hfresh)
    rw [Sweeper.turns_eq, Nat.add_one_mul, ← Moment.after_after, ← Moment.after_after,
      h.limits_eq]
    rw [h.limits_eq] at hlast
    exact Moment.after_le_after hlast (Nat.le_refl _)

/-- Every event keeps the task timely. -/
lemma timely_step (h : Timely limits s) (hevery : 0 < limits.sweepEvery) (event : Event) :
    Timely limits (s.step event) := by
  cases event with
  | call op => exact timely_call h op
  | pass time => exact timely_pass h hevery time

/-- So do all events together. -/
lemma timely_run (h : Timely limits s) (hevery : 0 < limits.sweepEvery) (events : List Event) :
    Timely limits (s.run events) := by
  induction events generalizing s with
  | nil => exact h
  | cons event events ih => exact ih (timely_step h hevery event)

/-- **No entry outlives its age limit by as much as the time between two sweeps.**  Whatever is
called at whatever times, and also if nobody ever looks an entry up again. -/
theorem age_lt {limits : Limits} (hevery : 0 < limits.sweepEvery) (now : Moment)
    (events : List Event) {key : String} {e : Entry} {maxAge : Duration}
    (he : ((opened limits now).run events).cache.find? key = some e)
    (hmax : limits.maxAge = some maxAge) :
    e.age ((opened limits now).run events).clock < maxAge + limits.sweepEvery := by
  have htimely := timely_run (timely_opened hevery now) hevery events
  rw [Entry.age, Moment.since_lt_iff (Nat.add_pos_right _ hevery)]
  exact Int.lt_of_lt_of_le htimely.asleep (htimely.young key e maxAge he hmax)

/-- An entry that is stored between two sweeps is past its age limit for a while, and then gone. -/
example :
    let stored := (opened ⟨100, some 27, 10⟩ 0).run
      [.pass 4, .call (.insert "a" ⟨[1], none, 0, none⟩)]
    ((stored.run [.pass 35]).cache.find? "a").map (fun e => e.age 39) = some 35 ∧
      (stored.run [.pass 36]).cache.find? "a" = none := by
  decide

end Swept

end KeyDirectory.Cache
