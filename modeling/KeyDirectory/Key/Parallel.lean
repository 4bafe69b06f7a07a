import KeyDirectory.Key.Line
import Mathlib.Algebra.GroupWithZero.Nat

/-!
# Reading lines in parallel

One task for each line reads it, in whatever order the tasks get their turn.  A key goes into the
slot of its line when its task is joined; a failure goes into a channel that has room for one, so
those that come later are dropped.  Joining begins when all tasks are started, and the result is
looked at when all are joined.
-/

namespace KeyDirectory.Key

/-- The failure of a list of lines, one of which is not a key. -/
def failureAt (index : Nat) (failure : Failure) : Failure :=
  .invalidKey ("key " ++ toString index ++ ": " ++ failure.message)

/-- How far a task has come. -/
inductive Task where
  | ready (index : Nat) (line : String)
  /-- The line was read; a failure was reported already. -/
  | ended (found : Option (Nat × PublicKey))
  | joined
  deriving DecidableEq, Repr

/-- Whether the line was read. -/
def Task.hasRun : Task → Bool
  | ready _ _ => false
  | ended _ | joined => true

/-- How many turns are left for a task. -/
def Task.work : Task → Nat
  | ready _ _ => 2
  | ended _ => 1
  | joined => 0

/-- The tasks that read a list of lines, in the order in which they are started. -/
structure Batch where
  /-- The lines for which no task is started yet. -/
  waiting : List String
  tasks : List Task
  /-- The one failure that the channel holds. -/
  report : Option Failure
  slots : List (Option PublicKey)
  deriving DecidableEq, Repr

/-- What can happen next. -/
inductive Turn where
  /-- A task is started for the next line. -/
  | spawn
  /-- A task reads its line. -/
  | go (i : Nat)
  /-- A task that has ended is joined. -/
  | join (i : Nat)
  deriving DecidableEq, Repr

namespace Batch

/-- A batch of which no task is started yet. -/
def start (lines : List String) : Batch :=
  ⟨lines, [], none, List.replicate lines.length none⟩

/-- Starts a task for the next line. -/
def spawn (b : Batch) : Batch :=
  match b.waiting with
  | [] => b
  | line :: waiting =>
    { b with waiting := waiting, tasks := b.tasks ++ [.ready b.tasks.length line] }

/-- A task reads its line.  A failure is dropped if another one was reported before. -/
def go (b : Batch) (i : Nat) : Batch :=
  match b.tasks[i]? with
  | some (.ready index line) =>
    match parse line with
    | .ok key => { b with tasks := b.tasks.set i (.ended (some (index, key))) }
    | .error failure =>
      { b with tasks := b.tasks.set i (.ended none),
               report := b.report.or (some (failureAt index failure)) }
  | _ => b

/-- Puts what a task found into its slot. -/
def fill (slots : List (Option PublicKey)) : Option (Nat × PublicKey) → List (Option PublicKey)
  | some (index, key) => slots.set index (some key)
  | none => slots

/-- Joins a task, if all are started and it has ended. -/
def join (b : Batch) (i : Nat) : Batch :=
  match b.waiting, b.tasks[i]? with
  | [], some (.ended found) =>
    { b with tasks := b.tasks.set i .joined, slots := fill b.slots found }
  | _, _ => b

/-- One turn.  Nothing changes if it is not possible. -/
def step (b : Batch) : Turn → Batch
  | .spawn => b.spawn
  | .go i => b.go i
  | .join i => b.join i

/-- Turns one after the other. -/
def run (b : Batch) (turns : List Turn) : Batch :=
  turns.foldl step b

/-- All tasks are started and joined. -/
def IsOver (b : Batch) : Prop :=
  b.waiting = [] ∧ ∀ task ∈ b.tasks, task = .joined

/-- The result of a batch that is over: the failure that was reported, or else the keys in the
slots. -/
def result (b : Batch) : Except Failure (List PublicKey) :=
  match b.report with
  | some failure => .error failure
  | none => .ok (b.slots.filterMap id)

/-! ## What is expected of a batch -/

/-- How many turns are left. -/
def work (b : Batch) : Nat :=
  3 * b.waiting.length + (b.tasks.map Task.work).sum

/-- A batch goes on until it is over, and does not go on for ever. -/
structure Progresses (b : Batch) : Prop where
  possible : b.IsOver ∨ ∃ t, b.step t ≠ b
  lessens : ∀ t, b.step t ≠ b → (b.step t).work < b.work

/-- The task that reads its line in a turn. -/
def ranIn (b : Batch) : Turn → Option Nat
  | .go i => if (b.tasks[i]?.any fun task => !task.hasRun) then some i else none
  | _ => none

/-- The tasks in the order in which they read their lines. -/
def ran (b : Batch) : List Turn → List Nat
  | [] => []
  | t :: turns => (b.ranIn t).toList ++ (b.step t).ran turns

end Batch

/-- The failure is that of a line, and no line whose task had its turn earlier fails. -/
def IsFirstFailure (lines : List String) (order : List Nat) (failure : Failure) : Prop :=
  ∃ (earlier later : List Nat) (i : Nat) (line : String) (own : Failure),
    order = earlier ++ i :: later ∧ lines[i]? = some line ∧ parse line = .error own ∧
      failure = failureAt i own ∧
      ∀ j ∈ earlier, ∀ line', lines[j]? = some line' → ∃ key, parse line' = .ok key

/-- A result agrees with the lines, each of them read by itself: it has their keys in order if all
of them are keys, and else the first failure in the order in which the tasks had their turns, each
of them once.  If that was the order of the lines, the result is that of reading them in
sequence. -/
structure Agrees (lines : List String) (order : List Nat)
    (result : Except Failure (List PublicKey)) : Prop where
  once : order.Perm (List.range lines.length)
  ok_iff : ∀ keys, result = .ok keys ↔ lines.map parse = keys.map .ok
  error_iff : ∀ failure, result = .error failure ↔ IsFirstFailure lines order failure
  sequence : order.Pairwise (· < ·) → result = parseAll lines

end KeyDirectory.Key
