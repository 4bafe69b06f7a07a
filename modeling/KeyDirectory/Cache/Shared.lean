import KeyDirectory.Cache.Run

/-!
# A cache with several callers

The operations of several callers on one cache.  What is left to do of an operation is a task; each
step of a task is at most one single action, and between two steps of one task all others may go on.
An entry that was taken out of the cache, or replaced, is known to the task that did it, which then
takes its size from the byte counter.
-/

namespace KeyDirectory.Cache

/-- What an operation answers. -/
inductive Answer where
  | nothing
  | entry (found : Option Entry)
  | count (n : Nat)
  deriving DecidableEq, Repr

/-- On whose behalf entries are dropped that are expired. -/
inductive Purpose where
  /-- A lookup that saw its entry expired. -/
  | lookup
  /-- A sweep, with the number of entries that it dropped so far. -/
  | sweep (count : Nat)
  deriving DecidableEq, Repr

/-- One more entry was dropped. -/
def Purpose.counted : Purpose → Purpose
  | lookup => lookup
  | sweep n => sweep (n + 1)

/-- What is left to do of an operation. -/
inductive Task where
  /-- To add the size of an answer to the byte counter, and to store it. -/
  | adding (key : String) (e : Entry)
  /-- To store an answer whose size was added. -/
  | putting (key : String) (e : Entry)
  /-- To see whether the size is within bounds. -/
  | weighing
  /-- To list the keys by age. -/
  | listing
  /-- To evict the entries of some keys until the size is within bounds. -/
  | evicting (keys : List String)
  /-- To evict the entry of a key, the size being out of bounds, and to go on with the others. -/
  | taking (key : String) (keys : List String)
  /-- To count an eviction, and to go on. -/
  | tallying (keys : List String)
  | looking (key : String)
  /-- To count a hit. -/
  | hit (e : Entry)
  /-- To count a miss. -/
  | missed
  | removing (key : String)
  | confirming (key : String) (freshFor : Option Duration)
  /-- To list the keys whose entries are expired. -/
  | sweeping
  /-- To drop the entries of some keys, each if it is expired when its turn comes. -/
  | dropping (keys : List String) (purpose : Purpose)
  /-- To take the size of an entry that is gone from the byte counter, and to go on. -/
  | freeing (e : Entry) (next : Task)
  | done (answer : Answer)
  deriving DecidableEq, Repr

/-- Whether nothing is left to do. -/
def Task.isDone : Task → Bool
  | done _ => true
  | _ => false

/-- The keys whose entries are expired. -/
def expiredKeys (c : Cache) (now : Moment) : List String :=
  (c.entries.filter fun (_, e) => c.isExpired now e).map Prod.fst

/-- The task of an operation that begins. -/
def Operation.task (c : Cache) : Operation → Task
  | get key => .looking key
  | insert key e => if c.accepts e then .adding key e else .done .nothing
  | remove key => .removing key
  | refresh key freshFor => .confirming key freshFor
  | cleanup => .sweeping
  | removeExpired key => .dropping [key] (.sweep 0)

/-- What an operation answers that is carried out at once. -/
def Operation.answer (now : Moment) (c : Cache) : Operation → Answer
  | get key => .entry (c.get now key).2
  | insert _ _ => .nothing
  | remove key => .entry (c.remove key).2
  | refresh key freshFor => .entry (c.refresh now key freshFor).2
  | cleanup => .count (c.cleanup now).2
  | removeExpired key => .count (if (c.removeExpired now key).2 then 1 else 0)

/-- Takes the entry of a key out if it is due, and goes on; its size is subtracted next. -/
def takeOutIf (c : Cache) (due : Entry → Bool) (key : String) (taken : Entry → Task)
    (left : Task) : Option Action × Task :=
  match c.find? key with
  | some e => if due e then (some (.dropEntry key), .freeing e (taken e)) else (none, left)
  | none => (none, left)

/-- The next step of a task: the action on the cache, if there is one, and what is then left. -/
def Task.next (now : Moment) (c : Cache) : Task → Option Action × Task
  | adding key e => (some (.addBytes e.size), putting key e)
  | putting key e =>
    (some (.putEntry key e),
      match c.find? key with
      | some old => freeing old weighing
      | none => weighing)
  | weighing => (none, if c.bytes ≤ c.limits.maxBytes then done .nothing else listing)
  | listing => (none, evicting c.keysByAge)
  | evicting [] => (none, done .nothing)
  | evicting (key :: keys) =>
    (none, if c.bytes ≤ c.limits.maxBytes then done .nothing else taking key keys)
  | taking key keys => c.takeOutIf (fun _ => true) key (fun _ => tallying keys) (evicting keys)
  | tallying keys => (some .countEviction, evicting keys)
  | looking key =>
    (none,
      match c.find? key with
      | some e => if c.isExpired now e then dropping [key] .lookup else hit e
      | none => missed)
  | hit e => (some .countHit, done (.entry (some e)))
  | missed => (some .countMiss, done (.entry none))
  | removing key =>
    c.takeOutIf (fun _ => true) key (fun e => done (.entry (some e))) (done (.entry none))
  | confirming key freshFor =>
    match c.find? key with
    | some e =>
      let e := { e with storedAt := now, freshFor := freshFor }
      (some (.putEntry key e), done (.entry (some e)))
    | none => (none, done (.entry none))
  | sweeping => (none, dropping (c.expiredKeys now) (.sweep 0))
  | dropping [] .lookup => (none, missed)
  | dropping [] (.sweep n) => (none, done (.count n))
  | dropping (key :: keys) purpose =>
    c.takeOutIf (c.isExpired now) key (fun _ => dropping keys purpose.counted)
      (dropping keys purpose)
  | freeing e next => (some (.subtractBytes e.size), next)
  | done answer => (none, done answer)

/-- A cache with the tasks of all operations that ever began. -/
structure Shared where
  cache : Cache
  tasks : List Task
  deriving DecidableEq, Repr

/-- What happens to a shared cache. -/
inductive Move where
  /-- An operation begins. -/
  | begin (op : Operation)
  /-- A task makes its next step. -/
  | go (i : Nat)
  deriving DecidableEq, Repr

namespace Shared

/-- An empty cache without callers. -/
def opened (limits : Limits) : Shared :=
  ⟨.empty limits, []⟩

/-- A task makes its next step. -/
def go (s : Shared) (now : Moment) (i : Nat) : Shared :=
  match s.tasks[i]? with
  | some task =>
    let (action, left) := task.next now s.cache
    ⟨s.cache.perform action.toList, s.tasks.set i left⟩
  | none => s

/-- One move, at its time. -/
def step (s : Shared) : Moment × Move → Shared
  | (_, .begin op) => { s with tasks := s.tasks ++ [op.task s.cache] }
  | (now, .go i) => s.go now i

/-- Moves one after the other. -/
def run (s : Shared) (moves : List (Moment × Move)) : Shared :=
  moves.foldl step s

end Shared

/-- The first steps of a task that nobody interrupts: their actions, and what is then left. -/
def Task.steps (now : Moment) : Nat → Cache → Task → List Action × Task
  | 0, _, task => ([], task)
  | n + 1, c, task =>
    let (action, left) := task.next now c
    let (actions, left) := left.steps now n (c.perform action.toList)
    (action.toList ++ actions, left)

end KeyDirectory.Cache
