import KeyDirectory.Key.Parallel
import KeyDirectory.Proofs.Key.Canonical
import KeyDirectory.Proofs.Named
import Mathlib.Algebra.BigOperators.Group.List.Basic
import Mathlib.Data.List.Nodup
import Mathlib.Data.List.Perm.Basic

/-!
# Lines read in parallel

Each task looks at its own line only, so all that the order of the turns can decide is which failure
is the one that is reported.

* `Batch.progresses`: some turn is possible until all tasks are joined, and each lessens the turns
  that are left.
* `Batch.Sound`: what holds of a batch after any turns, with the order in which the tasks had them.
* `Batch.Sound.result_eq`: the result when all are joined.
* `parseAllFrom_eq`: the result of reading in sequence.
* `run_agrees`: the two together.
-/

namespace KeyDirectory.Key

/-! ## The failures of single lines -/

/-- The failure that the task of a line reports, if it does. -/
def faultOf (index : Nat) (line : String) : Option Failure :=
  match parse line with
  | .ok _ => none
  | .error own => some (failureAt index own)

/-- The failure of a line by its number. -/
def faultAt (lines : List String) (i : Nat) : Option Failure :=
  lines[i]?.bind (faultOf i)

/-- A line is at fault with its own failure, under its number. -/
lemma faultOf_eq_some_iff {index : Nat} {line : String} {failure : Failure} :
    faultOf index line = some failure ↔
      ∃ own, parse line = .error own ∧ failure = failureAt index own := by
  unfold faultOf
  rcases parse line with own | key
  · simp [eq_comm]
  · simp

/-- A line is not at fault when it is a key. -/
lemma faultOf_eq_none_iff {index : Nat} {line : String} :
    faultOf index line = none ↔ ∃ key, parse line = .ok key := by
  unfold faultOf
  rcases parse line with own | key
  · simp
  · simp

variable {lines : List String} {order : List Nat}

/-- A number is not at fault when it is that of a key, or of no line. -/
lemma faultAt_eq_none_iff {i : Nat} : faultAt lines i = none ↔
    ∀ line, lines[i]? = some line → ∃ key, parse line = .ok key := by
  unfold faultAt
  rw [Option.bind_eq_none_iff]
  simp only [faultOf_eq_none_iff]

/-- The first failure in an order is the first fault that is met in it. -/
lemma isFirstFailure_iff {failure : Failure} :
    IsFirstFailure lines order failure ↔ order.findSome? (faultAt lines) = some failure := by
  rw [List.findSome?_eq_some_iff]
  constructor
  · rintro ⟨earlier, later, i, line, own, horder, hline, hparse, hfailure, hearlier⟩
    refine ⟨earlier, i, later, horder, ?_, fun j hj => faultAt_eq_none_iff.mpr (hearlier j hj)⟩
    apply Option.bind_eq_some_iff.mpr
    exact ⟨line, hline, faultOf_eq_some_iff.mpr ⟨own, hparse, hfailure⟩⟩
  · rintro ⟨earlier, i, later, horder, hfault, hearlier⟩
    obtain ⟨line, hline, hfault⟩ := Option.bind_eq_some_iff.mp hfault
    obtain ⟨own, hparse, hfailure⟩ := faultOf_eq_some_iff.mp hfault
    exact ⟨earlier, later, i, line, own, horder, hline, hparse, hfailure,
      fun j hj => faultAt_eq_none_iff.mp (hearlier j hj)⟩

/-- No failure is reported by any of the tasks if and only if every line is a key. -/
lemma findSome?_faultAt_eq_none_iff (h : order.Perm (List.range lines.length)) :
    order.findSome? (faultAt lines) = none ↔ ∀ line ∈ lines, ∃ key, parse line = .ok key := by
  rw [List.findSome?_eq_none_iff]
  constructor
  · intro hnone line hmem
    obtain ⟨i, hline⟩ := List.mem_iff_getElem?.mp hmem
    obtain ⟨hlt, -⟩ := List.getElem?_eq_some_iff.mp hline
    have hi : i ∈ order := h.mem_iff.mpr (List.mem_range.mpr hlt)
    exact faultAt_eq_none_iff.mp (hnone i hi) line hline
  · intro hkeys i _
    apply faultAt_eq_none_iff.mpr
    intro line hline
    exact hkeys line (List.mem_of_getElem? hline)

/-! ## All keys of a list of lines -/

/-- The keys of the lines that are keys. -/
def keysOf (lines : List String) : List PublicKey :=
  lines.filterMap fun line => (parse line).toOption

/-- The keys of some lines, one line at a time. -/
lemma keysOf_cons {line : String} {key : PublicKey} (h : parse line = .ok key)
    (lines : List String) : keysOf (line :: lines) = key :: keysOf lines := by
  simp [keysOf, h, Except.toOption]

/-- Lines read as some keys when each is a key and those are their keys. -/
lemma map_parse_eq_iff {keys : List PublicKey} : lines.map parse = keys.map .ok ↔
    (∀ line ∈ lines, ∃ key, parse line = .ok key) ∧ keysOf lines = keys := by
  induction lines generalizing keys with
  | nil => simp [keysOf, eq_comm]
  | cons line lines ih =>
    rcases hparse : parse line with own | key
    · have hbad : ¬ ∀ line' ∈ line :: lines, ∃ key, parse line' = .ok key := by
        intro h
        obtain ⟨key, hkey⟩ := h line List.mem_cons_self
        rw [hparse] at hkey
        cases hkey
      refine iff_of_false (fun h => ?_) (fun h => hbad h.1)
      cases keys <;> simp [hparse] at h
    · rw [keysOf_cons hparse, List.forall_mem_cons]
      rcases keys with _ | ⟨key', keys⟩
      · simp
      · simp [hparse, ih]
        tauto

/-- Reading in sequence finds the first failure, or else all keys. -/
lemma parseAllFrom_eq (index : Nat) (lines : List String) : parseAllFrom index lines =
    match (List.range lines.length).findSome? (fun i => lines[i]?.bind (faultOf (index + i))) with
    | some failure => .error failure
    | none => .ok (keysOf lines) := by
  induction lines generalizing index with
  | nil => rfl
  | cons line lines ih =>
    have hrest : ((fun i => (line :: lines)[i]?.bind (faultOf (index + i))) ∘ Nat.succ) =
        fun i => lines[i]?.bind (faultOf (index + 1 + i)) := by
      funext i
      simp only [Function.comp_apply, Nat.succ_eq_add_one, List.getElem?_cons_succ]
      rw [Nat.add_assoc, Nat.add_comm 1 i]
    rw [parseAllFrom, List.length_cons, List.range_succ_eq_map, List.findSome?_cons,
      List.findSome?_map, hrest]
    rcases hparse : parse line with own | key
    · simp [faultOf, hparse, failureAt]
    · simp only [List.getElem?_cons_zero, Option.bind_some, faultOf, hparse, keysOf_cons hparse]
      rw [ih]
      cases (List.range lines.length).findSome? fun i => lines[i]?.bind (faultOf (index + 1 + i))
      case none => rfl
      case some failure => rfl

/-! ## Turns -/

namespace Batch

/-- What a turn can do, with the task that reads its line in it. -/
inductive Stepped (b : Batch) : Turn → Option Nat → Batch → Prop where
  | idle (t : Turn) : Stepped b t none b
  | spawn {line : String} {waiting : List String} (h : b.waiting = line :: waiting) :
      Stepped b .spawn none
        { b with waiting := waiting, tasks := b.tasks ++ [.ready b.tasks.length line] }
  | go {i index : Nat} {line : String} (h : b.tasks[i]? = some (.ready index line)) :
      Stepped b (.go i) (some i)
        { b with
          tasks := b.tasks.set i (.ended ((parse line).toOption.map fun key => (index, key)))
          report := b.report.or (faultOf index line) }
  | join {i : Nat} {found : Option (Nat × PublicKey)} (hwaiting : b.waiting = [])
      (h : b.tasks[i]? = some (.ended found)) :
      Stepped b (.join i) none
        { b with tasks := b.tasks.set i .joined, slots := fill b.slots found }

/-- Every turn of a batch is one of the kinds that a turn can be. -/
lemma stepped (b : Batch) (t : Turn) : b.Stepped t (b.ranIn t) (b.step t) := by
  cases t with
  | spawn =>
    show b.Stepped .spawn none b.spawn
    unfold spawn
    split
    case h_1 => exact .idle _
    case h_2 line waiting h => exact .spawn h
  | go i =>
    show b.Stepped (.go i) (b.ranIn (.go i)) (b.go i)
    unfold go
    split
    case h_1 index line h =>
      have hran : b.ranIn (.go i) = some i := by simp [ranIn, h, Task.hasRun]
      have hgo := Stepped.go h
      rw [hran]
      rcases hparse : parse line with own | key <;>
        simpa [faultOf, hparse, Except.toOption] using hgo
    case h_2 h =>
      have hran : b.ranIn (.go i) = none := by
        rcases htask : b.tasks[i]? with _ | (⟨index, line⟩ | found | _)
        · simp [ranIn, htask]
        · exact absurd htask (h index line)
        · simp [ranIn, htask, Task.hasRun]
        · simp [ranIn, htask, Task.hasRun]
      rw [hran]
      exact .idle _
  | join i =>
    show b.Stepped (.join i) none (b.join i)
    unfold join
    split
    case h_1 found hwaiting h => exact .join hwaiting h
    case h_2 => exact .idle _

/-! ## Progress -/

/-- Changing one task changes the work by what it has to do. -/
lemma sum_work_set {tasks : List Task} {i : Nat} {task : Task} (h : tasks[i]? = some task)
    (task' : Task) : ((tasks.set i task').map Task.work).sum + task.work =
      (tasks.map Task.work).sum + task'.work := by
  obtain ⟨before, after, rfl, hset⟩ := Named.exists_split_of_getElem? h
  rw [hset]
  simp only [List.map_append, List.map_cons, List.sum_append, List.sum_cons]
  omega

/-- A turn does nothing, or it is one of those that were left. -/
lemma Stepped.work_eq {b b' : Batch} {t : Turn} {ran : Option Nat} (h : b.Stepped t ran b') :
    b' = b ∨ b'.work + 1 = b.work := by
  cases h with
  | idle => exact .inl rfl
  | spawn h =>
    right
    simp only [work, h, List.length_cons, List.map_append, List.sum_append, List.map_cons,
      List.map_nil, List.sum_singleton, Task.work]
    omega
  | @go i index line h =>
    right
    have hsum := sum_work_set h (.ended ((parse line).toOption.map fun key => (index, key)))
    simp only [Task.work] at hsum
    simp only [work]
    omega
  | join hwaiting h =>
    right
    have hsum := sum_work_set h .joined
    simp only [Task.work] at hsum
    simp only [work]
    omega

/-- As long as some task is not joined, there is something to do. -/
lemma isOver_or_possible (b : Batch) : b.IsOver ∨ ∃ t, b.step t ≠ b := by
  rcases hwaiting : b.waiting with _ | ⟨line, waiting⟩
  · by_cases hjoined : ∀ task ∈ b.tasks, task = .joined
    · exact .inl ⟨hwaiting, hjoined⟩
    · right
      push Not at hjoined
      obtain ⟨task, hmem, hne⟩ := hjoined
      obtain ⟨i, hi⟩ := List.mem_iff_getElem?.mp hmem
      obtain ⟨hlt, -⟩ := List.getElem?_eq_some_iff.mp hi
      cases task with
      | ready index line =>
        refine ⟨.go i, fun h => ?_⟩
        have htask := congrArg (fun b : Batch => b.tasks[i]?) h
        rcases hparse : parse line with own | key <;>
          simp [step, go, hi, hparse, List.getElem?_set_self hlt] at htask
      | ended found =>
        refine ⟨.join i, fun h => ?_⟩
        have htask := congrArg (fun b : Batch => b.tasks[i]?) h
        simp [step, join, hwaiting, hi, List.getElem?_set_self hlt] at htask
      | joined => exact absurd rfl hne
  · right
    refine ⟨.spawn, fun h => ?_⟩
    have hlength := congrArg (fun b : Batch => b.waiting.length) h
    simp [step, spawn, hwaiting] at hlength

/-- As long as a batch is not over some turn is possible, and each that is leaves less work. -/
lemma progresses (b : Batch) : b.Progresses where
  possible := b.isOver_or_possible
  lessens t hne := by
    have hwork := (b.stepped t).work_eq.resolve_left hne
    omega

end Batch

/-! ## What the turns preserve -/

/-- What a task has to do with the line that it was started for.  Of one that is joined the slot
tells. -/
def Task.Fits (i : Nat) (line : String) : Task → Prop
  | .ready index line' => index = i ∧ line' = line
  | .ended found => found = (parse line).toOption.map fun key => (i, key)
  | .joined => True

namespace Batch

/-- After any turns: the tasks are those of the first lines, those that have read their line are the
ones in the order, the first failure in this order is reported, and a slot is filled when its task
is joined. -/
structure Sound (lines : List String) (order : List Nat) (b : Batch) : Prop where
  waiting_eq : b.waiting = lines.drop b.tasks.length
  length_le : b.tasks.length ≤ lines.length
  fits : ∀ (i : Nat) (task : Task), b.tasks[i]? = some task →
    ∃ line, lines[i]? = some line ∧ task.Fits i line
  nodup : order.Nodup
  mem_iff : ∀ i, i ∈ order ↔ ∃ task : Task, b.tasks[i]? = some task ∧ task.hasRun = true
  report_eq : b.report = order.findSome? (faultAt lines)
  length_slots : b.slots.length = lines.length
  slot_eq : ∀ (i : Nat) (line : String), lines[i]? = some line →
    b.slots[i]? = some (if b.tasks[i]? = some Task.joined then (parse line).toOption else none)

/-- At first no task has run, and every slot is empty. -/
lemma sound_start (lines : List String) : (start lines).Sound lines [] where
  waiting_eq := rfl
  length_le := Nat.zero_le _
  fits i task h := by simp [start] at h
  nodup := List.nodup_nil
  mem_iff i := by simp [start]
  report_eq := rfl
  length_slots := List.length_replicate
  slot_eq i line h := by
    obtain ⟨hlt, -⟩ := List.getElem?_eq_some_iff.mp h
    simp [start, hlt]

variable {b : Batch}

/-- Filling a slot adds none. -/
@[simp] lemma length_fill (slots : List (Option PublicKey)) (found : Option (Nat × PublicKey)) :
    (fill slots found).length = slots.length := by
  unfold fill
  split
  · exact List.length_set
  · rfl

/-- A slot that is filled holds what it was filled with. -/
lemma getElem?_fill_self {slots : List (Option PublicKey)} {i : Nat} (h : slots[i]? = some none)
    (found : Option PublicKey) :
    (fill slots (found.map fun key => (i, key)))[i]? = some found := by
  obtain ⟨hlt, -⟩ := List.getElem?_eq_some_iff.mp h
  cases found with
  | none => exact h
  | some key => exact List.getElem?_set_self hlt

/-- All other slots hold what they held. -/
lemma getElem?_fill_ne (slots : List (Option PublicKey)) (found : Option PublicKey) {i j : Nat}
    (h : j ≠ i) : (fill slots (found.map fun key => (i, key)))[j]? = slots[j]? := by
  cases found with
  | none => rfl
  | some key => exact List.getElem?_set_ne (Ne.symm h)

/-- A task that is started is the one of the next line. -/
lemma Sound.spawn (h : b.Sound lines order) {line : String} {waiting : List String}
    (hwaiting : b.waiting = line :: waiting) :
    Sound lines order
      { b with waiting := waiting, tasks := b.tasks ++ [.ready b.tasks.length line] } := by
  have hdrop : lines.drop b.tasks.length = line :: waiting := by rw [← h.waiting_eq, hwaiting]
  have hline : lines[b.tasks.length]? = some line := by
    rw [← Nat.add_zero b.tasks.length, ← List.getElem?_drop, hdrop]
    rfl
  obtain ⟨hlt, -⟩ := List.getElem?_eq_some_iff.mp hline
  constructor
  case waiting_eq =>
    show waiting = lines.drop (b.tasks ++ [_]).length
    rw [List.length_append, List.length_singleton, ← List.drop_drop, hdrop]
    rfl
  case length_le => simpa using Nat.succ_le_of_lt hlt
  case fits =>
    intro i task htask
    rcases Named.getElem?_concat_eq_some_iff.mp htask with hold | ⟨rfl, rfl⟩
    · exact h.fits i task hold
    · exact ⟨line, hline, rfl, rfl⟩
  case nodup => exact h.nodup
  case mem_iff =>
    intro i
    rw [h.mem_iff]
    constructor
    · rintro ⟨task, htask, hrun⟩
      exact ⟨task, Named.getElem?_concat_eq_some_iff.mpr (.inl htask), hrun⟩
    · rintro ⟨task, htask, hrun⟩
      rcases Named.getElem?_concat_eq_some_iff.mp htask with hold | ⟨rfl, rfl⟩
      · exact ⟨task, hold, hrun⟩
      · cases hrun
  case report_eq => exact h.report_eq
  case length_slots => exact h.length_slots
  case slot_eq =>
    intro i line' hline'
    have hjoined : (b.tasks ++ [.ready b.tasks.length line])[i]? = some Task.joined ↔
        b.tasks[i]? = some Task.joined := by
      simp [Named.getElem?_concat_eq_some_iff]
    simpa only [hjoined] using h.slot_eq i line' hline'

/-- A task that reads its line is new in the order, and reports its failure if it is the first. -/
lemma Sound.go (h : b.Sound lines order) {i index : Nat} {line : String}
    (htask : b.tasks[i]? = some (.ready index line)) :
    Sound lines (order ++ [i])
      { b with tasks := b.tasks.set i (.ended ((parse line).toOption.map fun key => (index, key))),
               report := b.report.or (faultOf index line) } := by
  obtain ⟨line', hline, rfl, rfl⟩ := h.fits i _ htask
  have hnew : index ∉ order := by
    intro hmem
    obtain ⟨task, htask', hrun⟩ := (h.mem_iff index).mp hmem
    rw [htask] at htask'
    cases htask'
    cases hrun
  constructor
  case waiting_eq => simpa using h.waiting_eq
  case length_le => simpa using h.length_le
  case fits =>
    intro j task hj
    rcases (Named.getElem?_set_eq_some_iff htask).mp hj with ⟨rfl, rfl⟩ | ⟨-, hold⟩
    · exact ⟨line, hline, rfl⟩
    · exact h.fits j task hold
  case nodup =>
    exact h.nodup.append (List.nodup_singleton _) (List.disjoint_singleton.mpr hnew)
  case mem_iff =>
    intro j
    rw [List.mem_append, List.mem_singleton, h.mem_iff]
    simp only [Named.getElem?_set_eq_some_iff htask]
    rcases eq_or_ne j index with rfl | hne
    · simp [Task.hasRun]
    · simp [hne]
  case report_eq =>
    have hfault : faultAt lines index = faultOf index line := by simp [faultAt, hline]
    show b.report.or (faultOf index line) = _
    rw [List.findSome?_append, ← h.report_eq, ← hfault]
    simp
  case length_slots => exact h.length_slots
  case slot_eq =>
    intro j line' hline'
    have hjoined : (b.tasks.set index
        (.ended ((parse line).toOption.map fun key => (index, key))))[j]? = some Task.joined ↔
        b.tasks[j]? = some Task.joined := by
      rw [Named.getElem?_set_eq_some_iff htask]
      rcases eq_or_ne j index with rfl | hne
      · simp [htask]
      · simp [hne]
    simpa only [hjoined] using h.slot_eq j line' hline'

/-- A task that is joined fills the slot of its line. -/
lemma Sound.join (h : b.Sound lines order) {i : Nat} {found : Option (Nat × PublicKey)}
    (htask : b.tasks[i]? = some (.ended found)) :
    Sound lines order { b with tasks := b.tasks.set i .joined, slots := fill b.slots found } := by
  obtain ⟨line, hline, rfl⟩ := h.fits i _ htask
  constructor
  case waiting_eq => simpa using h.waiting_eq
  case length_le => simpa using h.length_le
  case fits =>
    intro j task hj
    rcases (Named.getElem?_set_eq_some_iff htask).mp hj with ⟨rfl, rfl⟩ | ⟨-, hold⟩
    · exact ⟨line, hline, trivial⟩
    · exact h.fits j task hold
  case nodup => exact h.nodup
  case mem_iff =>
    intro j
    rw [h.mem_iff]
    simp only [Named.getElem?_set_eq_some_iff htask]
    rcases eq_or_ne j i with rfl | hne
    · simp [htask, Task.hasRun]
    · simp [hne]
  case report_eq => exact h.report_eq
  case length_slots => exact (length_fill _ _).trans h.length_slots
  case slot_eq =>
    intro j line' hline'
    rcases eq_or_ne j i with rfl | hne
    · obtain rfl : line = line' := Option.some.inj (hline.symm.trans hline')
      have hslot : b.slots[j]? = some none := by simpa [htask] using h.slot_eq j line hline
      rw [getElem?_fill_self hslot]
      simp [Named.getElem?_set_eq_some_iff htask]
    · rw [getElem?_fill_ne _ _ hne]
      simpa [Named.getElem?_set_eq_some_iff htask, hne] using h.slot_eq j line' hline'

/-- A turn keeps what is known of a batch and of the order in which its tasks ran. -/
lemma Stepped.sound {b' : Batch} {t : Turn} {ran : Option Nat} (ht : b.Stepped t ran b')
    (h : b.Sound lines order) : b'.Sound lines (order ++ ran.toList) := by
  cases ht with
  | idle => simpa using h
  | spawn hwaiting => simpa using h.spawn hwaiting
  | go htask => exact h.go htask
  | join _ htask => simpa using h.join htask

/-- So do all turns together. -/
lemma Sound.run (h : b.Sound lines order) (turns : List Turn) :
    (b.run turns).Sound lines (order ++ b.ran turns) := by
  induction turns generalizing b order with
  | nil => simpa [run, ran] using h
  | cons t turns ih =>
    have hstep := ih ((b.stepped t).sound h)
    rwa [List.append_assoc] at hstep

/-! ## Batches that are over -/

/-- When a batch is over there was a task for each line. -/
lemma Sound.length_eq (h : b.Sound lines order) (hover : b.IsOver) :
    b.tasks.length = lines.length := by
  have hdrop : lines.drop b.tasks.length = [] := by rw [← h.waiting_eq, hover.1]
  exact Nat.le_antisymm h.length_le (List.drop_eq_nil_iff.mp hdrop)

/-- Each of them was joined. -/
lemma Sound.joined (h : b.Sound lines order) (hover : b.IsOver) {i : Nat}
    (hi : i < lines.length) : b.tasks[i]? = some Task.joined := by
  have hlt : i < b.tasks.length := by rwa [h.length_eq hover]
  rw [List.getElem?_eq_getElem hlt, hover.2 _ (List.getElem_mem hlt)]

/-- Every task has had its turn. -/
lemma Sound.perm (h : b.Sound lines order) (hover : b.IsOver) :
    order.Perm (List.range lines.length) := by
  rw [List.perm_ext_iff_of_nodup h.nodup List.nodup_range]
  intro i
  rw [h.mem_iff, List.mem_range]
  constructor
  · rintro ⟨task, htask, -⟩
    obtain ⟨hlt, -⟩ := List.getElem?_eq_some_iff.mp htask
    rwa [h.length_eq hover] at hlt
  · intro hi
    exact ⟨.joined, h.joined hover hi, rfl⟩

/-- Every slot has been filled. -/
lemma Sound.slots_eq (h : b.Sound lines order) (hover : b.IsOver) :
    b.slots = lines.map fun line => (parse line).toOption := by
  apply List.ext_getElem?
  intro i
  rw [List.getElem?_map]
  rcases hline : lines[i]? with _ | line
  · apply List.getElem?_eq_none
    rw [h.length_slots]
    exact List.getElem?_eq_none_iff.mp hline
  · obtain ⟨hlt, -⟩ := List.getElem?_eq_some_iff.mp hline
    rw [h.slot_eq i line hline, if_pos (h.joined hover hlt)]
    rfl

/-- The result is the first failure in the order, or else all keys. -/
lemma Sound.result_eq (h : b.Sound lines order) (hover : b.IsOver) :
    b.result = match order.findSome? (faultAt lines) with
      | some failure => .error failure
      | none => .ok (keysOf lines) := by
  have hkeys : b.slots.filterMap id = keysOf lines := by
    rw [h.slots_eq hover, List.filterMap_map]
    rfl
  have hreport := h.report_eq
  unfold result
  rw [hkeys]
  cases hfound : order.findSome? (faultAt lines)
  case none => simp only [hreport, hfound]
  case some failure => simp only [hreport, hfound]

/-- So the result is that of the lines, or the first failure in the order of running. -/
lemma Sound.agrees (h : b.Sound lines order) (hover : b.IsOver) :
    Agrees lines order b.result := by
  have hresult := h.result_eq hover
  have hperm := h.perm hover
  constructor
  case once => exact hperm
  case ok_iff =>
    intro keys
    rw [hresult, map_parse_eq_iff, ← findSome?_faultAt_eq_none_iff hperm]
    cases order.findSome? (faultAt lines) <;> simp
  case error_iff =>
    intro failure
    rw [hresult, isFirstFailure_iff]
    cases order.findSome? (faultAt lines) <;> simp
  case sequence =>
    intro hsorted
    have horder : order = List.range lines.length := by
      apply hperm.eq_of_pairwise _ hsorted List.pairwise_lt_range
      intro i j _ _ hij hji
      exact absurd hij (Nat.lt_asymm hji)
    rw [hresult, horder, parseAll, parseAllFrom_eq]
    simp only [Nat.zero_add]
    rfl

end Batch

/-- **Reading in parallel agrees with reading in sequence.**  Whatever the order in which the tasks
of some lines are started, have their turns and are joined: as long as some task is not joined there
is something to do, and not for ever.  When all are joined, the result is the list of the keys of
the lines in order, if all of them are keys; else it is the failure of the line whose task was the
first to find no key.  If the tasks had their turns in the order of the lines, it is the same as
that of reading them one after the other. -/
theorem run_agrees (lines : List String) (turns : List Turn) :
    ((Batch.start lines).run turns).Progresses ∧
      (((Batch.start lines).run turns).IsOver →
        Agrees lines ((Batch.start lines).ran turns) ((Batch.start lines).run turns).result) := by
  have hsound := (Batch.sound_start lines).run turns
  rw [List.nil_append] at hsound
  exact ⟨Batch.progresses _, hsound.agrees⟩

/-- The third of three lines is read before the second one. -/
def exampleTurns : List Turn :=
  [.spawn, .go 0, .spawn, .spawn, .go 2, .go 1, .join 1, .join 2, .join 0]

section exampleTurns

variable {first second third : String} {key : PublicKey} {failure failure' : Failure}

/-- In the example the third line fails before the second one does. -/
lemma run_exampleTurns (hfirst : parse first = .ok key) (hsecond : parse second = .error failure)
    (hthird : parse third = .error failure') :
    (Batch.start [first, second, third]).run exampleTurns =
      ⟨[], [.joined, .joined, .joined], some (failureAt 2 failure'), [some key, none, none]⟩ := by
  simp [exampleTurns, Batch.start, Batch.run, Batch.step, Batch.spawn, Batch.go, Batch.join,
    Batch.fill, hfirst, hsecond, hthird]

/-- So the order of running is another than that of the lines. -/
lemma ran_exampleTurns (hfirst : parse first = .ok key) (hthird : parse third = .error failure') :
    (Batch.start [first, second, third]).ran exampleTurns = [0, 2, 1] := by
  simp [exampleTurns, Batch.start, Batch.ran, Batch.ranIn, Batch.step, Batch.spawn, Batch.go,
    Task.hasRun, hfirst, hthird]

/-- One line after the other, the second one fails first. -/
lemma parseAll_eq_error (hfirst : parse first = .ok key) (hsecond : parse second = .error failure)
    (later : List String) :
    parseAll (first :: second :: later) = .error (failureAt 1 failure) := by
  unfold parseAll
  rw [parseAllFrom, hfirst]
  simp only
  rw [parseAllFrom, hsecond]
  rfl

end exampleTurns

/-- Of a key, a blank line and a word, the failure of the word is the result if it is read before
the blank line, while reading in sequence stops at the blank line. -/
theorem run_agrees_outOfTurn :
    let lines := [exampleRsa.canonical, "", "hello"]
    ((Batch.start lines).run exampleTurns).IsOver ∧
      ((Batch.start lines).run exampleTurns).result =
        .error (failureAt 2 (.invalidKey malformedDetail)) ∧
      parseAll lines = .error (failureAt 1 (.invalidKey emptyDetail)) := by
  have hkey : parse exampleRsa.canonical = .ok exampleRsa := parse_canonical exampleRsa
  have hblank : parse "" = .error (.invalidKey emptyDetail) := by decide +kernel
  have hword : parse "hello" = .error (.invalidKey malformedDetail) := by decide +kernel
  generalize exampleRsa.canonical = first at hkey
  intro lines
  have hover : ((Batch.start lines).run exampleTurns).IsOver := by
    rw [run_exampleTurns hkey hblank hword]
    simp [Batch.IsOver]
  have hagrees := (run_agrees lines exampleTurns).2 hover
  rw [ran_exampleTurns hkey hword] at hagrees
  refine ⟨hover, ?_, ?_⟩
  · apply (hagrees.error_iff _).mpr
    refine ⟨[0], [1], 2, "hello", _, rfl, rfl, hword, rfl, ?_⟩
    intro j hj line hline
    obtain rfl : j = 0 := by simpa using hj
    obtain rfl : first = line := Option.some.inj hline
    exact ⟨exampleRsa, hkey⟩
  · exact parseAll_eq_error hkey hblank _

end KeyDirectory.Key
