import KeyDirectory.Cache.Shared
import KeyDirectory.Proofs.Cache.Accounting

/-!
# The counters of a cache with several callers

Whatever the order in which the steps of several operations follow one another, the byte counter is
never behind the entries.  It is ahead of them by what the tasks have added and not yet stored, and
by what they took out and have not yet subtracted (`Task.ahead`).  That the size comes within bounds
in the end rests on the last task that stores something: from then on there is always a task that
will still look, or one that is to evict all entries that are left (`Task.Watches`).

* `leads_task`: a task that nobody interrupts does what its operation does, action by action.
* `Stepped`, `stepped_next`: what one step keeps, whatever the other tasks have done.
* `Shared.Sound`, `sound_run`: what every run keeps.
-/

namespace KeyDirectory.Cache

/-! ## Tasks that nobody interrupts -/

section Alone

variable {now : Moment} {c : Cache} {task last : Task} {actions : List Action}

/-- With nobody interrupting, a task comes to what is then left by some actions. -/
def Task.Leads (now : Moment) (c : Cache) (task : Task) (actions : List Action)
    (last : Task) : Prop :=
  ∃ n, task.steps now n c = (actions, last)

/-- A task that is left alone for no step does nothing. -/
lemma leads_self : task.Leads now c [] task :=
  ⟨0, rfl⟩

/-- A step comes before all others. -/
lemma leads_of_next {action : Option Action} {left : Task} (h : task.next now c = (action, left))
    (hrest : left.Leads now (c.perform action.toList) actions last) :
    task.Leads now c (action.toList ++ actions) last := by
  obtain ⟨n, hn⟩ := hrest
  refine ⟨n + 1, ?_⟩
  rw [Task.steps, h]
  simp only [hn]

/-- A step without an action. -/
lemma leads_of_none (left : Task) (h : task.next now c = (none, left))
    (hrest : left.Leads now c actions last) : task.Leads now c actions last :=
  leads_of_next h hrest

/-- A step with an action. -/
lemma leads_of_some {action : Action} (left : Task) (h : task.next now c = (some action, left))
    (hrest : left.Leads now (action.apply c) actions last) :
    task.Leads now c (action :: actions) last :=
  leads_of_next h hrest

/-- An entry that is taken out is dropped first and subtracted next. -/
lemma leads_of_takeOutIf {due : Entry → Bool} {key : String} {taken : Entry → Task} {left : Task}
    {e : Entry} (h : task.next now c = c.takeOutIf due key taken left)
    (he : c.find? key = some e) (hdue : due e = true)
    (hrest : (taken e).Leads now (c.perform (takingOut key e)) actions last) :
    task.Leads now c (takingOut key e ++ actions) last := by
  have hnext : task.next now c = (some (.dropEntry key), .freeing e (taken e)) := by
    rw [h, takeOutIf, he]
    simp [hdue]
  exact leads_of_some _ hnext (leads_of_some _ rfl hrest)

/-- Evicting, uninterrupted, is the loop that evicts. -/
lemma leads_evicting (now : Moment) (keys : List String) (c : Cache) :
    (Task.evicting keys).Leads now c (evictionsUntilWithin keys c) (.done .nothing) := by
  induction keys generalizing c with
  | nil => exact leads_of_none _ rfl leads_self
  | cons key keys ih =>
    unfold evictionsUntilWithin
    by_cases hwithin : c.bytes ≤ c.limits.maxBytes
    · rw [if_pos hwithin]
      exact leads_of_none (.done .nothing) (by simp [Task.next, hwithin]) leads_self
    · rw [if_neg hwithin]
      refine leads_of_none (.taking key keys) (by simp [Task.next, hwithin]) ?_
      unfold evictionActions
      rcases he : c.find? key with _ | e
      · exact leads_of_none (.evicting keys) (by simp [Task.next, takeOutIf, he]) (ih c)
      · simp only [List.append_assoc]
        exact leads_of_takeOutIf rfl he rfl (leads_of_some _ rfl (ih _))

/-- Dropping, uninterrupted, is the loop of a sweep, with its count. -/
lemma leads_dropping (now : Moment) (keys : List String) (c : Cache) (n : Nat) :
    (Task.dropping keys (.sweep n)).Leads now c (expiriesOf now keys c)
      (.done (.count (n + (removeAllExpired now keys c).2))) := by
  induction keys generalizing c n with
  | nil => exact leads_of_none _ rfl leads_self
  | cons key keys ih =>
    unfold expiriesOf removeAllExpired
    simp only [perform_expiryActions]
    unfold expiryActions removeExpired
    rcases he : c.find? key with _ | e
    · exact leads_of_none (.dropping keys (.sweep n)) (by simp [Task.next, takeOutIf, he])
        (ih c n)
    by_cases hexp : c.isExpired now e = true
    · simp only [hexp, if_true]
      rw [Nat.add_comm (removeAllExpired ..).2 1, ← Nat.add_assoc]
      exact leads_of_takeOutIf rfl he hexp (ih _ (n + 1))
    · simp only [hexp]
      exact leads_of_none (.dropping keys (.sweep n))
        (by simp [Task.next, takeOutIf, he, hexp]) (ih c n)

/-- Making room, uninterrupted, evicts only when the size is out of bounds. -/
lemma leads_weighing (now : Moment) (c : Cache) :
    Task.weighing.Leads now c
      (if c.bytes ≤ c.limits.maxBytes then [] else evictionsUntilWithin c.keysByAge c)
      (.done .nothing) := by
  by_cases hwithin : c.bytes ≤ c.limits.maxBytes
  · rw [if_pos hwithin]
    exact leads_of_none (.done .nothing) (by simp [Task.next, hwithin]) leads_self
  · rw [if_neg hwithin]
    exact leads_of_none .listing (by simp [Task.next, hwithin])
      (leads_of_none _ rfl (leads_evicting now c.keysByAge c))

/-- A lookup, uninterrupted, counts its miss after it has dropped an expired entry. -/
lemma leads_get (now : Moment) (c : Cache) (key : String) :
    (Task.looking key).Leads now c ((Operation.get key).actions now c)
      (.done (.entry (c.get now key).2)) := by
  simp only [Operation.actions, get]
  rcases he : c.find? key with _ | e
  · exact leads_of_none .missed (by simp [Task.next, he]) (leads_of_some _ rfl leads_self)
  by_cases hexp : c.isExpired now e = true
  · simp only [hexp, if_true, expiryActions, he]
    exact leads_of_none (.dropping [key] .lookup) (by simp [Task.next, he, hexp])
      (leads_of_takeOutIf rfl he hexp (leads_of_none _ rfl (leads_of_some _ rfl leads_self)))
  · simp only [hexp]
    exact leads_of_none (.hit e) (by simp [Task.next, he, hexp])
      (leads_of_some _ rfl leads_self)

/-- An answer is stored before anything is evicted. -/
lemma leads_adding {key : String} {e : Entry}
    (hrest : Task.weighing.Leads now (c.perform (c.storingActions key e)) actions last) :
    (Task.adding key e).Leads now c (c.storingActions key e ++ actions) last := by
  unfold storingActions at *
  refine leads_of_some _ rfl ?_
  have hfind : (c.addBytes e.size).find? key = c.find? key := rfl
  rcases hold : c.find? key with _ | old <;> rw [hold] at hrest hfind
  · exact leads_of_some .weighing (by simp [Task.next, Action.apply, hfind]) hrest
  · exact leads_of_some (.freeing old .weighing) (by simp [Task.next, Action.apply, hfind])
      (leads_of_some _ rfl hrest)

/-- An insertion, uninterrupted, stores its answer and makes room, or does nothing. -/
lemma leads_insert (now : Moment) (c : Cache) (key : String) (e : Entry) :
    (Operation.task c (.insert key e)).Leads now c ((Operation.insert key e).actions now c)
      (.done .nothing) := by
  unfold Operation.actions Operation.task
  by_cases hacc : c.accepts e = true
  · simp only [hacc, if_true]
    exact leads_adding (leads_weighing now _)
  · simp only [hacc]
    exact leads_self

/-- A task that nobody interrupts carries out the actions of its operation, one after the other, and
answers what the operation answers. -/
theorem leads_task (now : Moment) (c : Cache) (op : Operation) :
    (op.task c).Leads now c (op.actions now c) (.done (op.answer now c)) := by
  cases op with
  | get key => exact leads_get now c key
  | insert key e => exact leads_insert now c key e
  | remove key =>
    simp only [Operation.actions, Operation.answer, remove]
    rcases he : c.find? key with _ | e
    · exact leads_of_none (.done (.entry none))
        (by simp [Operation.task, Task.next, takeOutIf, he]) leads_self
    · exact leads_of_takeOutIf rfl he rfl leads_self
  | refresh key freshFor =>
    simp only [Operation.actions, Operation.answer, refresh]
    rcases he : c.find? key with _ | e
    · exact leads_of_none (.done (.entry none))
        (by simp [Operation.task, Task.next, he]) leads_self
    · exact leads_of_some _ (by simp [Operation.task, Task.next, he]) leads_self
  | cleanup =>
    have hdropping := leads_dropping now (c.expiredKeys now) c 0
    rw [Nat.zero_add] at hdropping
    exact leads_of_none _ rfl hdropping
  | removeExpired key =>
    have hdropping := leads_dropping now [key] c 0
    simp only [expiriesOf, removeAllExpired, List.append_nil, Nat.zero_add] at hdropping
    exact hdropping

end Alone

/-! ## What a task has added or taken out -/

/-- By how much the byte counter is ahead of the entries on behalf of a task. -/
def Task.ahead : Task → Nat
  | putting _ e => e.size
  | freeing e next => e.size + next.ahead
  | _ => 0

/-- A task will see to it that the size is within bounds: it is still to look, or it is evicting and
has all keys before it. -/
def Task.Watches (c : Cache) : Task → Prop
  | adding _ _ | putting _ _ | weighing | listing => True
  | evicting keys | tallying keys => ∀ k, c.find? k ≠ none → k ∈ keys
  | taking key keys => ∀ k, c.find? k ≠ none → k = key ∨ k ∈ keys
  | freeing _ next => next.Watches c
  | _ => False

/-- No more is in a cache than in another. -/
structure Fewer (c c' : Cache) : Prop where
  sum_le : c'.sumOver Entry.size ≤ c.sumOver Entry.size
  found : ∀ k, c'.find? k ≠ none → c.find? k ≠ none

/-- A cache has no more entries than itself. -/
lemma Fewer.refl (c : Cache) : Fewer c c :=
  ⟨Nat.le_refl _, fun _ h => h⟩

/-- A task that watches over a cache watches over less. -/
lemma Task.Watches.mono {c c' : Cache} (h : Fewer c c') {task : Task} (hw : task.Watches c) :
    task.Watches c' := by
  induction task with
  | evicting keys => exact fun k hk => hw k (h.found k hk)
  | tallying keys => exact fun k hk => hw k (h.found k hk)
  | taking key keys => exact fun k hk => hw k (h.found k hk)
  | freeing e next ih => exact ih hw
  | _ => exact hw

/-! ## One step -/

/-- What a step keeps, the byte counter being ahead by `others` on behalf of the other tasks. -/
structure Stepped (c : Cache) (others : Nat) (task : Task) (stepped : Option Action × Task) :
    Prop where
  covered : ∀ action ∈ stepped.1, action.IsCovered c
  distinct : (c.perform stepped.1.toList).HasDistinctKeys
  bytes_eq : (c.perform stepped.1.toList).bytes =
    (c.perform stepped.1.toList).sumOver Entry.size + others + stepped.2.ahead
  bounded : (c.perform stepped.1.toList).sumOver Entry.size ≤ c.limits.maxBytes ∨
    stepped.2.Watches (c.perform stepped.1.toList) ∨
    (¬ task.Watches c ∧ Fewer c (c.perform stepped.1.toList))

section Step

variable {now : Moment} {c : Cache} {others : Nat} {task : Task}

/-- A change of the counters adds no entries. -/
lemma Fewer.of_entries_eq {c c' : Cache} (h : c'.entries = c.entries) : Fewer c c' := by
  constructor
  · simp [sumOver, h]
  · simp [find?, h]

/-- A step that leaves the entries alone. -/
lemma stepped_of_entries_eq (hdistinct : c.HasDistinctKeys) {action : Option Action}
    (hentries : (c.perform action.toList).entries = c.entries) {left : Task}
    (hcovered : ∀ a ∈ action, a.IsCovered c)
    (hbytes : (c.perform action.toList).bytes = c.sumOver Entry.size + others + left.ahead)
    (hbounded : task.Watches c →
      c.sumOver Entry.size ≤ c.limits.maxBytes ∨ left.Watches c) :
    Stepped c others task (action, left) where
  covered := hcovered
  distinct := by
    unfold HasDistinctKeys
    rw [hentries]
    exact hdistinct
  bytes_eq := by
    rw [hbytes]
    simp [sumOver, hentries]
  bounded := by
    have hfewer := Fewer.of_entries_eq hentries
    by_cases hw : task.Watches c
    · rcases hbounded hw with hsum | hleft
      · exact .inl (Nat.le_trans hfewer.sum_le hsum)
      · exact .inr (.inl (hleft.mono hfewer))
    · exact .inr (.inr ⟨hw, hfewer⟩)

/-- A step without an action. -/
lemma stepped_none (hdistinct : c.HasDistinctKeys)
    (hbytes : c.bytes = c.sumOver Entry.size + others + task.ahead) {left : Task}
    (hahead : left.ahead = task.ahead)
    (hbounded : task.Watches c →
      c.sumOver Entry.size ≤ c.limits.maxBytes ∨ left.Watches c) :
    Stepped c others task (none, left) :=
  stepped_of_entries_eq hdistinct rfl (fun _ h => by cases h) (hahead ▸ hbytes) hbounded

/-- Dropping an entry leaves fewer. -/
lemma fewer_dropEntry (hdistinct : c.HasDistinctKeys) {key : String} {e : Entry}
    (he : c.find? key = some e) : Fewer c (c.dropEntry key) := by
  constructor
  · have hsum := sumOver_dropEntry hdistinct he Entry.size
    omega
  · intro k hk
    rw [find?_dropEntry] at hk
    split_ifs at hk
    · exact absurd rfl hk
    · exact hk

/-- A step that takes the entry of a key out if it is due. -/
lemma stepped_takeOutIf (hdistinct : c.HasDistinctKeys)
    (hbytes : c.bytes = c.sumOver Entry.size + others + task.ahead) {due : Entry → Bool}
    {key : String} {taken : Entry → Task} {left : Task}
    (htaken : ∀ e, (taken e).ahead = task.ahead) (hleft : left.ahead = task.ahead)
    (hwatchTaken : task.Watches c → ∀ e, (taken e).Watches (c.dropEntry key))
    (hwatchLeft : task.Watches c → (c.find? key).any due = false → left.Watches c) :
    Stepped c others task (c.takeOutIf due key taken left) := by
  unfold takeOutIf
  rcases he : c.find? key with _ | e
  · exact stepped_none hdistinct hbytes hleft fun hw => .inr (hwatchLeft hw (by simp [he]))
  by_cases hdue : due e = true
  · simp only [hdue, if_true]
    have hsum := sumOver_dropEntry hdistinct he Entry.size
    refine ⟨fun _ h => ?_, hdistinct.dropEntry key, ?_, ?_⟩
    · cases h
      trivial
    · show c.bytes = (c.dropEntry key).sumOver Entry.size + others + (e.size + (taken e).ahead)
      rw [htaken]
      omega
    · by_cases hw : task.Watches c
      · exact .inr (.inl (hwatchTaken hw e))
      · exact .inr (.inr ⟨hw, fewer_dropEntry hdistinct he⟩)
  · simp only [hdue]
    exact stepped_none hdistinct hbytes hleft fun hw => .inr (hwatchLeft hw (by simp [he, hdue]))

/-- The step that stores an answer: its size was added, and what it replaces is still counted. -/
lemma stepped_putting (hdistinct : c.HasDistinctKeys) {key : String} {e : Entry}
    (hbytes : c.bytes = c.sumOver Entry.size + others + e.size) :
    Stepped c others (.putting key e) ((Task.putting key e).next now c) := by
  have hput : ∀ left : Task, left.Watches (c.putEntry key e) →
      c.bytes = (c.putEntry key e).sumOver Entry.size + others + left.ahead →
      Stepped c others (.putting key e) (some (.putEntry key e), left) :=
    fun left hwatch hleft =>
      ⟨by rintro _ ⟨⟩; trivial, hdistinct.putEntry key e, hleft, .inr (.inl hwatch)⟩
  simp only [Task.next]
  rcases hold : c.find? key with _ | old
  · have hsum := sumOver_putEntry_vacant hold e Entry.size
    refine hput .weighing trivial ?_
    simp only [Task.ahead]
    omega
  · have hsum := sumOver_putEntry_taken hold e Entry.size
    refine hput (.freeing old .weighing) trivial ?_
    simp only [Task.ahead]
    omega

/-- The step that confirms an entry: no size changes, and no key gets an entry that had none. -/
lemma stepped_confirming (hdistinct : c.HasDistinctKeys) {key : String}
    {freshFor : Option Duration} (hbytes : c.bytes = c.sumOver Entry.size + others) :
    Stepped c others (.confirming key freshFor) ((Task.confirming key freshFor).next now c) := by
  simp only [Task.next]
  rcases he : c.find? key with _ | e
  · exact stepped_none hdistinct hbytes rfl False.elim
  have hsum := Nat.add_right_cancel (sumOver_putEntry_taken he
    { e with storedAt := now, freshFor := freshFor } Entry.size)
  refine ⟨fun _ h => ?_, hdistinct.putEntry key _, ?_, .inr (.inr ⟨False.elim, ?_, fun k hk => ?_⟩)⟩
  · cases h
    trivial
  · exact hbytes.trans (congrArg (· + others) hsum.symm)
  · exact Nat.le_of_eq hsum
  · have hput := find?_putEntry c key k { e with storedAt := now, freshFor := freshFor }
    by_cases hkey : k = key
    · rw [hkey, he]
      exact Option.some_ne_none e
    · rw [if_neg hkey] at hput
      rwa [← hput]

/-- What every step of a task keeps. -/
lemma stepped_next (hdistinct : c.HasDistinctKeys)
    (hbytes : c.bytes = c.sumOver Entry.size + others + task.ahead) (now : Moment) :
    Stepped c others task (task.next now c) := by
  have hwithin : c.bytes ≤ c.limits.maxBytes → c.sumOver Entry.size ≤ c.limits.maxBytes := by
    omega
  cases task with
  | adding key e =>
    refine stepped_of_entries_eq hdistinct rfl (by rintro _ ⟨⟩; trivial) ?_ fun _ => .inr trivial
    exact congrArg (· + e.size) hbytes
  | putting key e => exact stepped_putting hdistinct hbytes
  | weighing =>
    refine stepped_none hdistinct hbytes ?_ fun _ => ?_ <;> split_ifs with hfits
    · rfl
    · rfl
    · exact .inl (hwithin hfits)
    · exact .inr trivial
  | listing =>
    refine stepped_none hdistinct hbytes rfl fun _ => .inr fun k hk => ?_
    obtain ⟨e, he⟩ := Option.ne_none_iff_exists'.mp hk
    exact mem_keysByAge he
  | evicting keys =>
    rcases keys with _ | ⟨key, keys⟩
    · refine stepped_none hdistinct hbytes rfl fun hw => .inl ?_
      have hempty : c.entries = [] := entries_eq_nil fun k => by
        by_contra hk
        exact List.not_mem_nil (hw k hk)
      simp [sumOver, hempty]
    · refine stepped_none hdistinct hbytes ?_ fun hw => ?_ <;> split_ifs with hfits
      · rfl
      · rfl
      · exact .inl (hwithin hfits)
      · exact .inr fun k hk => List.mem_cons.mp (hw k hk)
  | taking key keys =>
    refine stepped_takeOutIf hdistinct hbytes (fun _ => rfl) rfl (fun hw e k hk => ?_)
      fun hw hleft k hk => ?_
    · rw [find?_dropEntry] at hk
      split_ifs at hk with hkey
      · exact absurd rfl hk
      · exact (hw k hk).resolve_left hkey
    · refine (hw k hk).resolve_left ?_
      rintro rfl
      obtain ⟨e, he⟩ := Option.ne_none_iff_exists'.mp hk
      simp [he] at hleft
  | tallying keys =>
    exact stepped_of_entries_eq hdistinct rfl (by rintro _ ⟨⟩; trivial) hbytes .inr
  | looking key =>
    refine stepped_none hdistinct hbytes ?_ False.elim
    split
    · split_ifs <;> rfl
    · rfl
  | hit e => exact stepped_of_entries_eq hdistinct rfl (by rintro _ ⟨⟩; trivial) hbytes False.elim
  | missed => exact stepped_of_entries_eq hdistinct rfl (by rintro _ ⟨⟩; trivial) hbytes False.elim
  | removing key =>
    exact stepped_takeOutIf hdistinct hbytes (fun _ => rfl) rfl False.elim False.elim
  | confirming key freshFor => exact stepped_confirming hdistinct hbytes
  | sweeping => exact stepped_none hdistinct hbytes rfl False.elim
  | dropping keys purpose =>
    rcases keys with _ | ⟨key, keys⟩
    · cases purpose with
      | lookup => exact stepped_none hdistinct hbytes rfl False.elim
      | sweep n => exact stepped_none hdistinct hbytes rfl False.elim
    · exact stepped_takeOutIf hdistinct hbytes (fun _ => rfl) rfl False.elim False.elim
  | freeing e next =>
    have hahead : (Task.freeing e next).ahead = e.size + next.ahead := rfl
    refine stepped_of_entries_eq hdistinct rfl ?_ ?_ .inr
    · rintro _ ⟨⟩
      show e.size ≤ c.bytes
      omega
    · show c.bytes - e.size = _
      omega
  | done answer => exact stepped_none hdistinct hbytes rfl False.elim

end Step

/-! ## Runs -/

namespace Shared

/-- What every run keeps. -/
structure Sound (s : Shared) : Prop where
  distinct : s.cache.HasDistinctKeys
  bytes_eq : s.cache.bytes = s.cache.sumOver Entry.size + (s.tasks.map Task.ahead).sum
  bounded : s.cache.sumOver Entry.size ≤ s.cache.limits.maxBytes ∨
    ∃ task ∈ s.tasks, task.Watches s.cache

/-- A new cache without callers is sound. -/
lemma sound_opened (limits : Limits) : (opened limits).Sound :=
  ⟨List.nodup_nil, rfl, .inl (Nat.zero_le _)⟩

/-- No step changes the limits. -/
lemma limits_go (s : Shared) (now : Moment) (i : Nat) :
    (s.go now i).cache.limits = s.cache.limits := by
  unfold go
  split
  · exact limits_perform ..
  · rfl

/-- Whatever the other tasks are ahead, the step of one task keeps what a step has to. -/
lemma Sound.stepped {s : Shared} (hs : s.Sound) {front back : List Task} {task : Task}
    (hsplit : s.tasks = front ++ task :: back) (now : Moment) :
    Stepped s.cache ((front ++ back).map Task.ahead).sum task (task.next now s.cache) := by
  refine stepped_next hs.distinct ?_ now
  rw [hs.bytes_eq, hsplit]
  simp only [List.map_append, List.map_cons, List.sum_append, List.sum_cons]
  omega

/-- A step of a task keeps a shared cache sound. -/
lemma sound_go {s : Shared} (hs : s.Sound) (now : Moment) (i : Nat) : (s.go now i).Sound := by
  unfold go
  rcases hi : s.tasks[i]? with _ | task
  · exact hs
  obtain ⟨front, back, hsplit, hset⟩ := Named.exists_split_of_getElem? hi
  have hstep := hs.stepped hsplit now
  refine ⟨hstep.distinct, ?_, ?_⟩ <;> dsimp only <;> rw [hset]
  · rw [hstep.bytes_eq]
    simp only [List.map_append, List.map_cons, List.sum_append, List.sum_cons]
    omega
  · rw [limits_perform]
    rcases hstep.bounded with hsum | hwatch | ⟨hnot, hfewer⟩
    · exact .inl hsum
    · exact .inr ⟨_, by simp, hwatch⟩
    rcases hs.bounded with hsum | ⟨other, hother, hwatch⟩
    · exact .inl (Nat.le_trans hfewer.sum_le hsum)
    -- Whoever watched before is another task, and watches still.
    · refine .inr ⟨other, ?_, hwatch.mono hfewer⟩
      rw [hsplit] at hother
      have hne : other ≠ task := fun heq => hnot (heq ▸ hwatch)
      have hrest : other ∈ front ∨ other ∈ back := by simpa [hne] using hother
      simpa using hrest.imp_right .inr

/-- So does an operation that begins, since it has not done anything yet. -/
lemma sound_begin {s : Shared} (hs : s.Sound) (op : Operation) :
    Sound { s with tasks := s.tasks ++ [op.task s.cache] } := by
  have hahead : (op.task s.cache).ahead = 0 := by
    cases op with
    | insert key e =>
      simp only [Operation.task]
      split_ifs <;> rfl
    | _ => rfl
  refine ⟨hs.distinct, ?_, ?_⟩
  · rw [hs.bytes_eq]
    simp [hahead]
  · refine hs.bounded.imp_right fun ⟨task, htask, hwatch⟩ => ⟨task, ?_, hwatch⟩
    exact List.mem_append_left _ htask

/-- So does every move. -/
lemma sound_step {s : Shared} (hs : s.Sound) (move : Moment × Move) : (s.step move).Sound := by
  obtain ⟨now, move⟩ := move
  cases move with
  | begin op => exact sound_begin hs op
  | go i => exact sound_go hs now i

/-- No move changes the limits. -/
lemma limits_step (s : Shared) (move : Moment × Move) :
    (s.step move).cache.limits = s.cache.limits := by
  obtain ⟨now, move⟩ := move
  cases move with
  | begin op => rfl
  | go i => exact limits_go s now i

/-- A shared cache stays sound for as long as it is used. -/
lemma sound_run {s : Shared} (hs : s.Sound) (moves : List (Moment × Move)) :
    (s.run moves).Sound ∧ (s.run moves).cache.limits = s.cache.limits := by
  induction moves generalizing s with
  | nil => exact ⟨hs, rfl⟩
  | cons move moves ih =>
    obtain ⟨hsound, hlimits⟩ := ih (sound_step hs move)
    exact ⟨hsound, hlimits.trans (limits_step s move)⟩

/-! ## Dropping what is expired -/

/-- A task that drops an entry goes by the entry that is there, not by what was seen before. -/
lemma go_dropping {s : Shared} {i : Nat} {key : String} {keys : List String} {purpose : Purpose}
    (hi : s.tasks[i]? = some (.dropping (key :: keys) purpose)) (now : Moment) :
    (s.go now i).cache = if (s.cache.find? key).any (s.cache.isExpired now) then
      s.cache.dropEntry key else s.cache := by
  unfold go
  rw [hi]
  simp only [Task.next, takeOutIf]
  rcases he : s.cache.find? key with _ | e
  · rfl
  by_cases hexp : s.cache.isExpired now e = true
  · simp only [hexp, Option.any_some, if_true]
    rfl
  · simp only [hexp, Option.any_some]
    rfl

/-- An entry stored or confirmed since some time is not expired until the age limit has passed. -/
lemma isExpired_eq_false {c : Cache} {e : Entry} {seen now : Moment} (hseen : seen ≤ e.storedAt)
    (hage : ∀ maxAge, c.limits.maxAge = some maxAge → seen.since now < maxAge) :
    c.isExpired now e = false := by
  unfold isExpired
  rcases hlimit : c.limits.maxAge with _ | maxAge
  · rfl
  have hle : e.age now ≤ seen.since now := Int.toNat_le_toNat (Int.sub_le_sub_left hseen now)
  exact decide_eq_false (Nat.not_le.mpr (Nat.lt_of_le_of_lt hle (hage maxAge hlimit)))

/-! ## The result -/

/-- When nothing is left to do, no task is ahead of the entries. -/
lemma sum_ahead_of_done {tasks : List Task} (h : ∀ task ∈ tasks, task.isDone = true) :
    (tasks.map Task.ahead).sum = 0 := by
  refine List.sum_eq_zero fun n hn => ?_
  obtain ⟨task, htask, rfl⟩ := List.mem_map.mp hn
  have hdone := h task htask
  cases task with
  | done answer => rfl
  | _ => cases hdone

/-- A task that is done will not look at the size again. -/
lemma not_watches_of_done {c : Cache} {task : Task} (h : task.isDone = true) :
    ¬ task.Watches c := by
  cases task with
  | done answer => exact id
  | _ => cases h

/-- **The counters of a cache with several callers.**  A task that nobody interrupts carries out the
single actions of its operation, leaves the cache as the operation does, and answers what the
operation answers.  However the steps of any number of operations follow one another, and at
whatever times: the byte counter is never less than the total size of the stored bodies; no step
takes more from it than is there; a step that drops an entry as expired goes by the entry that is
stored at that moment and its age at that moment, so that one that was stored or confirmed after the
time at which the key was seen expired stays until the age limit has passed since; and whenever
nothing is left to do of any operation, the byte counter is the total size of the stored bodies and
within bounds. -/
theorem run_keeps_account (limits : Limits) (moves : List (Moment × Move)) :
    let s := (opened limits).run moves
    (∀ (op : Operation) (now : Moment) (c : Cache), ∃ n,
      (op.task c).steps now n c = (op.actions now c, .done (op.answer now c)) ∧
        c.perform (op.actions now c) = op.apply now c) ∧
    (s.cache.entries.map fun (_, e) => e.body.length).sum ≤ s.cache.bytes ∧
    (∀ task ∈ s.tasks, ∀ now, ∀ action ∈ (task.next now s.cache).1, action.IsCovered s.cache) ∧
    (∀ i key keys purpose, s.tasks[i]? = some (.dropping (key :: keys) purpose) → ∀ now,
      ((s.go now i).cache = if (s.cache.find? key).any (s.cache.isExpired now) then
        s.cache.dropEntry key else s.cache) ∧
      ∀ e seen, s.cache.find? key = some e → seen ≤ e.storedAt →
        (∀ maxAge, limits.maxAge = some maxAge → seen.since now < maxAge) →
        (s.go now i).cache = s.cache) ∧
    ((∀ task ∈ s.tasks, task.isDone = true) →
      s.cache.bytes = (s.cache.entries.map fun (_, e) => e.body.length).sum ∧
      s.cache.bytes ≤ limits.maxBytes) := by
  intro s
  obtain ⟨hs, hlimits⟩ : s.Sound ∧ s.cache.limits = limits := sound_run (sound_opened limits) moves
  have hbytes : s.cache.bytes = s.cache.sumOver Entry.size + (s.tasks.map Task.ahead).sum :=
    hs.bytes_eq
  refine ⟨fun op now c => ?_, ?_, fun task htask now => ?_,
    fun i key keys purpose hi now => ⟨?_, ?_⟩, fun hdone => ?_⟩
  · obtain ⟨n, hn⟩ := leads_task now c op
    exact ⟨n, hn, perform_actions now c op⟩
  · show s.cache.sumOver Entry.size ≤ s.cache.bytes
    omega
  · obtain ⟨front, back, hsplit⟩ := List.append_of_mem htask
    exact (hs.stepped hsplit now).covered
  · exact go_dropping hi now
  · intro e seen he hseen hage
    have hfresh : s.cache.isExpired now e = false := isExpired_eq_false hseen (hlimits ▸ hage)
    rw [go_dropping hi now, he]
    simp [hfresh]
  · rw [sum_ahead_of_done hdone, Nat.add_zero] at hbytes
    refine ⟨hbytes, ?_⟩
    rcases hs.bounded with hsum | ⟨task, htask, hwatch⟩
    · rw [hbytes, ← hlimits]
      exact hsum
    · exact absurd hwatch (not_watches_of_done (hdone task htask))

/-! ## An entry that is replaced in time -/

/-- The bounds of a cache whose entries expire at the age of ten. -/
def tenLimits : Limits := ⟨100, some 10, Limits.standardSweep⟩

/-- An entry stored at 0 is seen expired by a lookup at 10; before the lookup goes on, another
insertion replaces it, also at 10. -/
def replacing : List (Moment × Move) :=
  [(0, .begin (.insert "a" ⟨[1], none, 0, none⟩)), (0, .go 0), (0, .go 0), (0, .go 0),
    (10, .begin (.get "a")), (10, .go 1),
    (10, .begin (.insert "a" ⟨[2], none, 10, none⟩)), (10, .go 2), (10, .go 2), (10, .go 2),
    (10, .go 2)]

/-- The replacement is dropped nevertheless if the lookup goes on only when it has expired as
well. -/
theorem replaced_dropped_late :
    let s := (opened tenLimits).run replacing
    s.tasks[1]? = some (.dropping ["a"] .lookup) ∧
      s.cache.find? "a" = some ⟨[2], none, 10, none⟩ ∧
      (s.step (25, .go 1)).cache.find? "a" = none := by
  decide

/-- It stays if the lookup goes on before that. -/
theorem run_keeps_account_replaced :
    let s := (opened tenLimits).run replacing
    s.tasks[1]? = some (.dropping ["a"] .lookup) ∧ (s.step (19, .go 1)).cache = s.cache := by
  intro s
  have htask : s.tasks[1]? = some (.dropping ["a"] .lookup) := by decide
  obtain ⟨-, -, -, hdropping, -⟩ := run_keeps_account tenLimits replacing
  refine ⟨htask, (hdropping 1 "a" [] .lookup htask 19).2 ⟨[2], none, 10, none⟩ 10 (by decide)
    (by decide) ?_⟩
  rintro maxAge hmax
  cases hmax
  decide

end Shared

end KeyDirectory.Cache
