import KeyDirectory.Cache.Run

/-!
# The task that sweeps a cache

Beside the calls on a cache runs a task that never ends: it sleeps for the time between two sweeps,
drops what is expired, and sleeps again.  When it wakes is told by timers, and how old an entry is
by the monotonic clock.  In the program these are one; `ages` says what the clock shows when the
timers show a time, so that the one can also stand still while the other goes on.
-/

namespace KeyDirectory.Cache

/-- The task that sweeps, asleep. -/
structure Sweeper where
  /-- When it wakes. -/
  wake : Moment
  deriving DecidableEq, Repr

namespace Sweeper

/-- Goes to sleep. -/
def asleep (limits : Limits) (time : Moment) : Sweeper :=
  ⟨time.after limits.sweepEvery⟩

/-- What the task does when it is woken at a time, by the timers: it sweeps, and goes to sleep
again. -/
def turn (ages : Moment → Moment) (time : Moment) (c : Cache) : Sweeper × Cache :=
  (asleep c.limits time, (c.cleanup (ages time)).1)

/-- So many turns, each at the time at which the task wakes. -/
def turns (ages : Moment → Moment) : Nat → Sweeper → Cache → Sweeper × Cache
  | 0, s, c => (s, c)
  | n + 1, s, c =>
    let (s, c) := turn ages s.wake c
    turns ages n s c

/-- How many turns fall due until a time.  Where the task does not sleep at all, one is counted. -/
def due (s : Sweeper) (every : Duration) (time : Moment) : Nat :=
  if s.wake ≤ time then s.wake.since time / every + 1 else 0

/-- Goes on until a time. -/
def goOn (ages : Moment → Moment) (time : Moment) (s : Sweeper) (c : Cache) : Sweeper × Cache :=
  turns ages (s.due c.limits.sweepEvery time) s c

end Sweeper

/-! ## A cache that is swept -/

/-- An operation as it is called at a time: an answer is stored as one of that time. -/
def Operation.called (now : Moment) : Operation → Operation
  | insert key e => insert key { e with storedAt := now }
  | op => op

/-- A cache with the task that sweeps it, and the time. -/
structure Swept where
  clock : Moment
  sweeper : Sweeper
  cache : Cache
  deriving DecidableEq, Repr

namespace Swept

/-- What happens to a cache that is swept. -/
inductive Event where
  | call (op : Operation)
  /-- Time passes. -/
  | pass (time : Duration)
  deriving DecidableEq, Repr

/-- An empty cache, with the task that begins to sleep. -/
def opened (limits : Limits) (now : Moment) : Swept :=
  ⟨now, .asleep limits now, .empty limits⟩

/-- One event. -/
def step (s : Swept) : Event → Swept
  | .call op => { s with cache := (op.called s.clock).apply s.clock s.cache }
  | .pass time =>
    let clock := s.clock.after time
    let (sweeper, cache) := s.sweeper.goOn id clock s.cache
    ⟨clock, sweeper, cache⟩

/-- Events one after the other. -/
def run (s : Swept) (events : List Event) : Swept :=
  events.foldl step s

end Swept

end KeyDirectory.Cache
