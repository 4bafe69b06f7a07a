import KeyDirectory.Cache.History
import KeyDirectory.Proofs.Cache.Contents

/-!
# The operations of a cache by key

What is found under a key after each operation, in terms of what was found before.

* `find?_get`, `get_eq_some_iff`, `find?_refresh`: lookups and confirmations.
* `find?_insert_of_accepts`, `find?_insert_eq_some_iff`, `find?_cleanup`: insertions and sweeps.
* `find?_apply_eq_some_iff`: where an entry comes from that is found after any operation;
  `find?_apply` tells it by body and tag.
-/

namespace KeyDirectory.Cache

/-! ## Removals and lookups -/

/-- A removed key is vacant, and all others are as before. -/
lemma find?_remove (c : Cache) (key k : String) :
    (c.remove key).1.find? k = if k = key then none else c.find? k := by
  unfold remove
  rcases h : c.find? key with _ | e
  · by_cases hk : k = key
    · simp [hk, h]
    · simp [hk]
  · simp

/-- An expired entry is dropped, and nothing else. -/
lemma find?_removeExpired (c : Cache) (now : Moment) (key k : String) :
    (c.removeExpired now key).1.find? k =
      if k = key ∧ (c.find? key).any (c.isExpired now) then none else c.find? k := by
  unfold removeExpired
  rcases h : c.find? key with _ | e
  · simp
  · by_cases hexp : c.isExpired now e
    · simp [hexp]
    · simp [hexp]

/-- A lookup drops the entry that it was for when that is expired, and nothing else. -/
lemma find?_get (c : Cache) (now : Moment) (key k : String) :
    (c.get now key).1.find? k =
      if k = key ∧ (c.find? key).any (c.isExpired now) then none else c.find? k := by
  unfold get
  rcases h : c.find? key with _ | e
  · simp [find?]
  · by_cases hexp : c.isExpired now e
    · simp only [hexp, if_true]
      exact h ▸ find?_removeExpired c now key k
    · simp [hexp, find?]

/-- What a lookup answers. -/
lemma get_eq_some_iff {c : Cache} {now : Moment} {key : String} {e : Entry} :
    (c.get now key).2 = some e ↔ c.find? key = some e ∧ c.isExpired now e = false := by
  unfold get
  rcases h : c.find? key with _ | old
  · simp
  · by_cases hexp : c.isExpired now old
    · simp only [hexp, if_true, reduceCtorEq, Option.some.injEq, false_iff, not_and]
      rintro rfl
      simp [hexp]
    · simp only [hexp, Bool.false_eq_true, if_false, Option.some.injEq]
      constructor
      · rintro rfl
        exact ⟨rfl, by simpa using hexp⟩
      · exact fun ⟨heq, _⟩ => heq

/-- What a lookup leaves in the cache was there before. -/
lemma find?_of_find?_get {c : Cache} {now : Moment} {key k : String} {e : Entry}
    (h : (c.get now key).1.find? k = some e) : c.find? k = some e := by
  rw [find?_get] at h
  split_ifs at h
  exact h

/-- What a lookup leaves under its key is what it found. -/
lemma get_of_find?_get {c : Cache} {now : Moment} {key : String} {e : Entry}
    (h : (c.get now key).1.find? key = some e) : (c.get now key).2 = some e := by
  rw [find?_get] at h
  split_ifs at h with hexpired
  refine get_eq_some_iff.mpr ⟨h, ?_⟩
  rw [h] at hexpired
  simpa using hexpired

/-- What a lookup finds it leaves in the cache. -/
lemma find?_get_of_get {c : Cache} {now : Moment} {key : String} {e : Entry}
    (h : (c.get now key).2 = some e) : (c.get now key).1.find? key = some e := by
  obtain ⟨hentry, hexpired⟩ := get_eq_some_iff.mp h
  rw [find?_get, hentry]
  simp [hexpired]

/-- A confirmation changes the entry of its key, if there is one, and nothing else. -/
lemma find?_refresh (c : Cache) (now : Moment) (key k : String) (freshFor : Option Duration) :
    (c.refresh now key freshFor).1.find? k =
      if k = key then
        (c.find? key).map fun e => { e with storedAt := now, freshFor := freshFor }
      else c.find? k := by
  unfold refresh
  rcases h : c.find? key with _ | e
  · by_cases hk : k = key
    · simp [hk, h]
    · simp [hk]
  · simp

/-- What a confirmation answers. -/
lemma refresh_snd (c : Cache) (now : Moment) (key : String) (freshFor : Option Duration) :
    (c.refresh now key freshFor).2 =
      (c.find? key).map fun e => { e with storedAt := now, freshFor := freshFor } := by
  unfold refresh
  split <;> simp_all

/-- A key that is not found cannot be confirmed. -/
lemma refresh_of_vacant {c : Cache} {key : String} (h : c.find? key = none) (now : Moment)
    (freshFor : Option Duration) : (c.refresh now key freshFor).1 = c := by
  unfold refresh
  rw [h]

/-! ## Evictions and insertions -/

/-- An evicted key is vacant, and all others are as before. -/
lemma find?_evict (c : Cache) (key k : String) :
    (c.evict key).find? k = if k = key then none else c.find? k := by
  rw [← find?_remove]
  unfold evict
  split <;> simp_all [find?]

/-- The keys of the list that are evicted are gone, and nothing else changes. -/
lemma find?_evictUntilWithin (keys : List String) (c : Cache) (k : String) :
    (evictUntilWithin keys c).find? k =
      if k ∈ evictedUntilWithin keys c then none else c.find? k := by
  induction keys generalizing c with
  | nil => simp [evictUntilWithin, evictedUntilWithin]
  | cons key keys ih =>
      unfold evictUntilWithin evictedUntilWithin
      by_cases hwithin : c.bytes ≤ c.limits.maxBytes
      · simp [hwithin]
      · rw [if_neg hwithin, if_neg hwithin, ih, find?_evict]
        by_cases hk : k = key
        · simp [hk]
        · simp [hk]

/-- Nothing is evicted when everything fits. -/
lemma shrink_eq (c : Cache) : c.shrink = evictUntilWithin c.keysByAge c := by
  unfold shrink
  split_ifs with hwithin
  · rcases c.keysByAge with _ | ⟨key, keys⟩
    · rfl
    · rw [evictUntilWithin, if_pos hwithin]
  · rfl

/-- A stored answer is found under its key, and all others as before. -/
lemma find?_storing (c : Cache) (key k : String) (e : Entry) :
    (c.perform (c.storingActions key e)).find? k = if k = key then some e else c.find? k := by
  rcases hold : c.find? key with _ | old <;>
    simp [storingActions, perform, Action.apply, hold]

/-- An accepted answer is found under its key, unless it is evicted at once; other keys lose their
entries only to eviction. -/
lemma find?_insert_of_accepts {c : Cache} {e : Entry} (h : c.accepts e = true) (key k : String) :
    (c.insert key e).find? k =
      if k ∈ c.evicted key e then none else if k = key then some e else c.find? k := by
  rw [insert_of_accepts h, shrink_eq, find?_evictUntilWithin, find?_storing, evicted, if_pos h]

/-- What is found after an insertion was there before, and was neither replaced nor evicted, or it
is the answer that was inserted. -/
lemma find?_insert_eq_some_iff {c : Cache} {k key : String} {new e : Entry} :
    (c.insert k new).find? key = some e ↔
      (c.find? key = some e ∧ (c.accepts new = true → k ≠ key ∧ key ∉ c.evicted k new)) ∨
        (k = key ∧ new = e ∧ c.accepts e = true ∧ key ∉ c.evicted key e) := by
  rcases hacc : c.accepts new with _ | _
  · rw [insert_of_not_accepts hacc]
    constructor
    · exact fun h => .inl ⟨h, fun hacc' => by cases hacc'⟩
    · rintro (⟨h, -⟩ | ⟨-, rfl, hacc', -⟩)
      · exact h
      · rw [hacc] at hacc'
        cases hacc'
  · rw [find?_insert_of_accepts hacc]
    by_cases hevicted : key ∈ c.evicted k new
    · rw [if_pos hevicted]
      constructor
      · exact fun h => by cases h
      · rintro (⟨-, hlasts⟩ | ⟨rfl, rfl, -, hkept⟩)
        · exact absurd hevicted (hlasts rfl).2
        · exact absurd hevicted hkept
    · rw [if_neg hevicted]
      by_cases hk : key = k
      · subst hk
        rw [if_pos rfl, Option.some.injEq]
        constructor
        · rintro rfl
          exact .inr ⟨rfl, rfl, hacc, hevicted⟩
        · rintro (⟨-, hlasts⟩ | ⟨-, h, -⟩)
          · exact absurd rfl (hlasts rfl).1
          · exact h
      · rw [if_neg hk]
        constructor
        · exact fun h => .inl ⟨h, fun _ => ⟨Ne.symm hk, hevicted⟩⟩
        · rintro (⟨h, -⟩ | ⟨heq, -⟩)
          · exact h
          · exact absurd heq.symm hk

/-! ## Sweeps -/

/-- Only the limits say when an entry expires. -/
lemma isExpired_congr {c c' : Cache} (h : c'.limits = c.limits) : c'.isExpired = c.isExpired := by
  unfold isExpired
  rw [h]

/-- The keys of the list that are expired are gone, and nothing else changes. -/
lemma find?_removeAllExpired (now : Moment) (keys : List String) (c : Cache) (k : String) :
    (removeAllExpired now keys c).1.find? k =
      if k ∈ keys ∧ (c.find? k).any (c.isExpired now) then none else c.find? k := by
  induction keys generalizing c with
  | nil => simp [removeAllExpired]
  | cons key keys ih =>
      have hlimits : (c.removeExpired now key).1.limits = c.limits :=
        limits_apply now c (.removeExpired key)
      have hrest := ih (c.removeExpired now key).1
      rw [isExpired_congr hlimits, find?_removeExpired] at hrest
      refine hrest.trans ?_
      by_cases hk : k = key
      · subst hk
        by_cases hexp : (c.find? k).any (c.isExpired now) = true
        · simp [hexp]
        · simp [hexp]
      · simp [hk]

/-- A sweep drops the entries that are expired, and nothing else. -/
lemma find?_cleanup (c : Cache) (now : Moment) (k : String) :
    (c.cleanup now).1.find? k =
      if (c.find? k).any (c.isExpired now) then none else c.find? k := by
  refine (find?_removeAllExpired now _ c k).trans ?_
  rcases hfound : c.find? k with _ | e
  · simp
  · by_cases hexp : c.isExpired now e = true
    · have hlisted : k ∈ (c.entries.filter fun p => c.isExpired now p.2).map Prod.fst :=
        List.mem_map_of_mem (List.mem_filter.mpr ⟨Named.mem_of_lookup hfound, hexp⟩)
      rw [if_pos ⟨hlisted, hexp⟩, Option.any_some, if_pos hexp]
    · simp [hexp]

/-! ## One operation -/

/-- What is held unless something is true of it is held and that is not true of it. -/
lemma ite_any_eq_some_iff {held : Option Entry} {p : Entry → Bool} {e : Entry} :
    (if held.any p then none else held) = some e ↔ held = some e ∧ p e = false := by
  rcases held with _ | old
  · simp
  · by_cases hp : p old = true
    · simp only [Option.any_some, hp, if_true, reduceCtorEq, false_iff, not_and]
      rintro ⟨⟩
      simp [hp]
    · simp only [Option.any_some, hp, Bool.false_eq_true, if_false]
      refine ⟨fun h => ⟨h, ?_⟩, And.left⟩
      rw [← Option.some.inj h]
      simpa using hp

/-- What is left of an entry by an operation that drops one key if it is expired. -/
lemma ite_expired_eq_some_iff {c : Cache} {now : Moment} {k key : String} {e : Entry} :
    (if key = k ∧ (c.find? k).any (c.isExpired now) then none else c.find? key) = some e ↔
      c.find? key = some e ∧ (decide (k = key) && c.isExpired now e) = false := by
  by_cases hk : k = key
  · subst hk
    simp only [true_and, decide_true, Bool.true_and]
    exact ite_any_eq_some_iff
  · simp [hk, Ne.symm hk]

/-- An insertion does not end an entry that it neither replaces nor evicts. -/
lemma ends_insert_eq_false_iff {now : Moment} {c : Cache} {k key : String} {new e : Entry} :
    (Operation.insert k new).ends now c key e = false ↔
      (c.accepts new = true → k ≠ key ∧ key ∉ c.evicted k new) := by
  rcases hacc : c.accepts new with _ | _ <;> simp [Operation.ends, hacc]

/-- An entry that is found after an operation was there before and was not ended, or it is the
answer that was stored. -/
lemma find?_apply_eq_some_iff {now : Moment} {c : Cache} {op : Operation} {key : String}
    {e : Entry} :
    (op.apply now c).find? key = some e ↔
      (∃ old, c.find? key = some old ∧ op.ends now c key old = false ∧
        op.renew now key old = e) ∨
      (op = .insert key e ∧ c.accepts e = true ∧ key ∉ c.evicted key e) := by
  cases op with
  | get k =>
      simp only [Operation.apply, find?_get, ite_expired_eq_some_iff, Operation.ends,
        Operation.renew, reduceCtorEq, false_and, or_false, ← and_assoc, exists_eq_right]
  | removeExpired k =>
      simp only [Operation.apply, find?_removeExpired, ite_expired_eq_some_iff, Operation.ends,
        Operation.renew, reduceCtorEq, false_and, or_false, ← and_assoc, exists_eq_right]
  | insert k new =>
      simp only [Operation.apply, find?_insert_eq_some_iff, ends_insert_eq_false_iff,
        Operation.renew, Operation.insert.injEq, ← and_assoc, exists_eq_right]
  | remove k =>
      simp only [Operation.apply, find?_remove, Operation.ends, Operation.renew, reduceCtorEq,
        false_and, or_false]
      by_cases hk : k = key
      · simp [hk]
      · simp [hk, Ne.symm hk]
  | refresh k freshFor =>
      simp only [Operation.apply, find?_refresh, Operation.ends, Operation.renew, reduceCtorEq,
        false_and, or_false]
      by_cases hk : k = key
      · simp [hk]
      · simp [hk, Ne.symm hk]
  | cleanup =>
      simp only [Operation.apply, find?_cleanup, Operation.ends, Operation.renew, reduceCtorEq,
        false_and, or_false, ite_any_eq_some_iff, ← and_assoc, exists_eq_right]

/-- No operation touches the body or the tag of an entry that it does not end. -/
@[simp] lemma Operation.renew_body (op : Operation) (now : Moment) (key : String) (e : Entry) :
    (op.renew now key e).body = e.body := by
  cases op with
  | refresh k freshFor =>
      rw [renew]
      split_ifs <;> rfl
  | _ => rfl

/-- Nor the tag. -/
@[simp] lemma Operation.renew_etag (op : Operation) (now : Moment) (key : String) (e : Entry) :
    (op.renew now key e).etag = e.etag := by
  cases op with
  | refresh k freshFor =>
      rw [renew]
      split_ifs <;> rfl
  | _ => rfl

/-- Whatever the operation, an entry that is found afterwards has the body and the tag of one
that was found before, or was stored by it. -/
lemma find?_apply {op : Operation} {now : Moment} {c : Cache} {k : String} {e : Entry}
    (h : (op.apply now c).find? k = some e) :
    (∃ old, c.find? k = some old ∧ old.body = e.body ∧ old.etag = e.etag) ∨
      (k, e) ∈ op.stored c := by
  rcases find?_apply_eq_some_iff.mp h with ⟨old, hold, -, rfl⟩ | ⟨rfl, hacc, -⟩
  · exact .inl ⟨old, hold, by simp, by simp⟩
  · refine .inr ?_
    unfold Operation.stored
    simp [hacc]

end KeyDirectory.Cache
