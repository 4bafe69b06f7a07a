import KeyDirectory.Cache.Run
import Mathlib.Tactic.Lemma
import Mathlib.Tactic.SplitIfs

/-!
# Operations on a cache as lists of single actions

`perform_actions`: carrying out the actions that an operation is made of, one after the other,
is carrying the operation out.  What every single action keeps, every operation keeps
(`limits_apply`).
-/

namespace KeyDirectory.Cache

/-! ## Lists of actions -/

/-- Lists of actions may be carried out one after the other. -/
lemma perform_append (c : Cache) (first second : List Action) :
    c.perform (first ++ second) = (c.perform first).perform second := by
  unfold perform
  rw [List.foldl_append]

/-- Lists of actions are covered one after the other if they are covered together. -/
lemma covered_append {c : Cache} {first second : List Action} :
    Covered c (first ++ second) ↔ Covered c first ∧ Covered (c.perform first) second := by
  induction first generalizing c with
  | nil => simp [Covered, perform]
  | cons action rest ih =>
      rw [List.cons_append, Covered, Covered, ih, and_assoc]
      rfl

/-- No action changes the limits. -/
@[simp] lemma limits_perform (c : Cache) (actions : List Action) :
    (c.perform actions).limits = c.limits := by
  induction actions generalizing c with
  | nil => rfl
  | cons action rest ih =>
      have hfirst : (action.apply c).limits = c.limits := by cases action <;> rfl
      exact (ih (action.apply c)).trans hfirst

/-! ## Insertion in two parts -/

/-- An answer that is not accepted changes nothing. -/
lemma insert_of_not_accepts {c : Cache} {e : Entry} (h : c.accepts e = false) (key : String) :
    c.insert key e = c := by
  have hskip : (!c.isEnabled || decide (c.limits.maxBytes < e.size)) = true := by
    unfold accepts at h
    rcases hen : c.isEnabled with _ | _
    · rfl
    · simpa [hen] using h
  unfold insert
  rw [if_pos hskip]

/-- An accepted answer is stored, and then room is made. -/
lemma insert_of_accepts {c : Cache} {e : Entry} (h : c.accepts e = true) (key : String) :
    c.insert key e = (c.perform (c.storingActions key e)).shrink := by
  have hkeep : ¬ (!c.isEnabled || decide (c.limits.maxBytes < e.size)) = true := by
    unfold accepts at h
    rw [Bool.and_eq_true, decide_eq_true_eq] at h
    simpa [h.1] using h.2
  unfold insert
  rw [if_neg hkeep]
  rcases hold : c.find? key with _ | old <;>
    simp [storingActions, perform, Action.apply, hold]

/-! ## Operations as lists of actions -/

/-- The actions of dropping an expired entry, carried out, drop it. -/
lemma perform_expiryActions (c : Cache) (now : Moment) (key : String) :
    c.perform (c.expiryActions now key) = (c.removeExpired now key).1 := by
  unfold expiryActions removeExpired
  rcases c.find? key with _ | e
  · rfl
  · simp only
    split_ifs <;> rfl

/-- The actions of an eviction, carried out, evict. -/
lemma perform_evictionActions (c : Cache) (key : String) :
    c.perform (c.evictionActions key) = c.evict key := by
  unfold evictionActions evict remove
  rcases c.find? key with _ | e <;> rfl

/-- The actions of the loop that evicts are those of its evictions, in their order. -/
lemma perform_evictionsUntilWithin (keys : List String) (c : Cache) :
    c.perform (evictionsUntilWithin keys c) = evictUntilWithin keys c := by
  induction keys generalizing c with
  | nil => rfl
  | cons key keys ih =>
      unfold evictionsUntilWithin evictUntilWithin
      split_ifs
      · rfl
      · rw [perform_append, ih, perform_evictionActions]

/-- The actions of a sweep are those of what it drops, in their order. -/
lemma perform_expiriesOf (now : Moment) (keys : List String) (c : Cache) :
    c.perform (expiriesOf now keys c) = (removeAllExpired now keys c).1 := by
  induction keys generalizing c with
  | nil => rfl
  | cons key keys ih =>
      unfold expiriesOf removeAllExpired
      rw [perform_append, ih, perform_expiryActions]

/-- An operation does what the actions do that it is made of. -/
lemma perform_actions (now : Moment) (c : Cache) (op : Operation) :
    c.perform (op.actions now c) = op.apply now c := by
  cases op with
  | get key =>
      simp only [Operation.actions, Operation.apply, get]
      rcases c.find? key with _ | e
      · rfl
      · simp only
        split_ifs
        · rw [perform_append, perform_expiryActions]
          rfl
        · rfl
  | insert key e =>
      simp only [Operation.actions, Operation.apply]
      rcases hacc : c.accepts e with _ | _
      · simp [insert_of_not_accepts hacc, perform]
      · simp only [if_true, insert_of_accepts hacc, perform_append]
        unfold shrink
        split_ifs
        · rfl
        · exact perform_evictionsUntilWithin _ _
  | remove key =>
      simp only [Operation.actions, Operation.apply, remove]
      rcases c.find? key with _ | e <;> rfl
  | refresh key freshFor =>
      simp only [Operation.actions, Operation.apply, refresh]
      rcases c.find? key with _ | e <;> rfl
  | cleanup => exact perform_expiriesOf now _ c
  | removeExpired key => exact perform_expiryActions c now key

/-- No operation changes the limits. -/
lemma limits_apply (now : Moment) (c : Cache) (op : Operation) :
    (op.apply now c).limits = c.limits := by
  rw [← perform_actions, limits_perform]

/-- An eviction leaves the limits alone. -/
@[simp] lemma limits_evict (c : Cache) (key : String) : (c.evict key).limits = c.limits := by
  rw [← perform_evictionActions, limits_perform]

/-- No run changes the limits. -/
lemma limits_run (c : Cache) (ops : List Timed) : (c.run ops).limits = c.limits := by
  induction ops generalizing c with
  | nil => rfl
  | cons timed ops ih => exact (ih _).trans (limits_apply timed.1 c timed.2)

end KeyDirectory.Cache
