import KeyDirectory.Proofs.Cache.Accounting

/-!
# What a lookup finds after a run

A lookup answers with what the latest accepted insertion of the key stored, as the latest refresh
has renewed it, and only if nothing has ended that entry since.

* `entries_get`, `entries_cleanup`, `cleanup_snd`: what lookups and sweeps leave of the entries.
* `find?_run_eq_some_iff`: where an entry comes from that is found after a run.
* `run_answers_history`: the result, with what refused insertions, refreshes, lookups and sweeps
  do to the entries.
-/

namespace KeyDirectory.Cache

/-! ## Acceptance and age -/

/-- An answer is accepted by a cache that is in use, if it is not larger than all of it. -/
lemma accepts_iff {c : Cache} {e : Entry} :
    c.accepts e = true ↔ 0 < c.limits.maxBytes ∧ e.body.length ≤ c.limits.maxBytes := by
  unfold accepts isEnabled Entry.size
  rw [Bool.and_eq_true, decide_eq_true_eq, decide_eq_true_eq]

/-- An entry is not expired as long as it is younger than the age limit, if there is one. -/
lemma isExpired_eq_false_iff {c : Cache} {now : Moment} {e : Entry} :
    c.isExpired now e = false ↔
      ∀ maxAge, c.limits.maxAge = some maxAge → e.storedAt.since now < maxAge := by
  unfold isExpired Entry.age
  rcases c.limits.maxAge with _ | maxAge
  · simp
  · simp

/-! ## Lookups and sweeps as lists -/

/-- Dropping a key leaves all entries but the one of that key, if it is expired. -/
lemma entries_removeExpired {c : Cache} (h : c.HasDistinctKeys) (now : Moment) (key : String) :
    (c.removeExpired now key).1.entries =
      c.entries.filter fun p => !(p.1 == key && c.isExpired now p.2) := by
  unfold removeExpired
  rcases hfound : c.find? key with _ | old
  · refine (List.filter_eq_self.mpr fun p hmem => ?_).symm
    have hne : p.1 ≠ key := find?_eq_none_iff.mp hfound p hmem
    simp [hne]
  · have hsame : ∀ p ∈ c.entries, p.1 = key → p.2 = old := by
      rintro p hmem rfl
      rw [find?, Named.lookup_of_mem h hmem] at hfound
      exact Option.some.inj hfound
    by_cases hexp : c.isExpired now old = true
    · simp only [hexp, if_true]
      refine List.filter_congr fun p hmem => ?_
      by_cases hk : p.1 = key
      · simp [hk, hsame p hmem hk, hexp]
      · simp [hk]
    · simp only [hexp]
      refine (List.filter_eq_self.mpr fun p hmem => ?_).symm
      by_cases hk : p.1 = key
      · simp [hsame p hmem hk, hexp]
      · simp [hk]

/-- Dropping an expired entry keeps the keys distinct. -/
lemma HasDistinctKeys.removeExpired {c : Cache} (h : c.HasDistinctKeys) (now : Moment)
    (key : String) : (c.removeExpired now key).1.HasDistinctKeys := by
  unfold HasDistinctKeys
  rw [entries_removeExpired h]
  exact (List.filter_sublist.map Prod.fst).nodup h

/-- Dropping several keys leaves all entries but the expired ones of these keys. -/
lemma entries_removeAllExpired (now : Moment) (keys : List String) {c : Cache}
    (h : c.HasDistinctKeys) :
    (removeAllExpired now keys c).1.entries =
      c.entries.filter fun p => !(keys.contains p.1 && c.isExpired now p.2) := by
  induction keys generalizing c with
  | nil => simp [removeAllExpired]
  | cons key keys ih =>
      have hlimits : (c.removeExpired now key).1.limits = c.limits :=
        limits_apply now c (.removeExpired key)
      have hrest := ih (h.removeExpired now key)
      rw [isExpired_congr hlimits, entries_removeExpired h, List.filter_filter] at hrest
      refine hrest.trans (List.filter_congr fun p _ => ?_)
      rw [List.contains_cons, Bool.and_or_distrib_right, Bool.not_or, Bool.and_comm]

/-- A sweep keeps the entries that are not expired, in their order. -/
lemma entries_cleanup {c : Cache} (h : c.HasDistinctKeys) (now : Moment) :
    (c.cleanup now).1.entries = c.entries.filter fun p => !c.isExpired now p.2 := by
  refine (entries_removeAllExpired now _ h).trans (List.filter_congr fun p hmem => ?_)
  by_cases hexp : c.isExpired now p.2 = true
  · have hlisted : p.1 ∈ (c.entries.filter fun p => c.isExpired now p.2).map Prod.fst :=
      List.mem_map_of_mem (List.mem_filter.mpr ⟨hmem, hexp⟩)
    rw [List.contains_iff_mem.mpr hlisted, Bool.true_and]
  · simp [hexp]

/-- A lookup drops the entry that it is for when that is expired, and no other. -/
lemma entries_get {c : Cache} (h : c.HasDistinctKeys) (now : Moment) (key : String) :
    (c.get now key).1.entries =
      c.entries.filter fun p => !(p.1 == key && c.isExpired now p.2) := by
  rw [← entries_removeExpired h]
  unfold get removeExpired
  rcases c.find? key with _ | e
  · rfl
  · by_cases hexp : c.isExpired now e = true
    · simp [hexp]
    · simp [hexp]

/-- A sweep counts the entries that it drops. -/
lemma cleanup_snd {c : Cache} (h : c.Balanced) (now : Moment) :
    (c.cleanup now).2 = (c.entries.filter fun p => c.isExpired now p.2).length := by
  have htaken : (c.cleanup now).1.entries.length + (c.cleanup now).2 = c.entries.length := by
    unfold cleanup
    rw [← perform_expiriesOf]
    exact (takesOut_expiriesOf now _ h).size_add
  rw [entries_cleanup h.distinct] at htaken
  have hparts := List.length_eq_length_filter_add (l := c.entries) fun p => c.isExpired now p.2
  omega

/-! ## Runs -/

/-- A run, one operation at a time. -/
lemma run_cons (c : Cache) (timed : Timed) (ops : List Timed) :
    c.run (timed :: ops) = (timed.2.apply timed.1 c).run ops := rfl

/-- An entry that is found after operations on a cache was there at first and has outlasted them,
or it goes back to an insertion among them. -/
lemma find?_run_eq_some_iff {c : Cache} {ops : List Timed} {key : String} {e : Entry} :
    (c.run ops).find? key = some e ↔
      (∃ old, c.find? key = some old ∧ outlasts key c old ops = true ∧ old.renewed key ops = e) ∨
      (∃ before time first after, ops = before ++ (time, .insert key first) :: after ∧
        c.Establishes key before time first after ∧ first.renewed key after = e) := by
  induction ops generalizing c with
  | nil => simp [run, outlasts, Entry.renewed]
  | cons timed ops ih =>
      obtain ⟨now, op⟩ := timed
      rw [run_cons, ih]
      constructor
      · rintro (⟨old, hold, hlasts, heq⟩ | ⟨before, time, first, after, rfl, hfirst, heq⟩)
        · -- The entry after the first operation was there before it, or the operation stored it.
          rcases find?_apply_eq_some_iff.mp hold with
            ⟨old, hbefore, hends, rfl⟩ | ⟨rfl, hacc, hkept⟩
          · exact .inl ⟨old, hbefore, by simp [outlasts, hends, hlasts], heq⟩
          · exact .inr ⟨[], now, old, ops, rfl, ⟨accepts_iff.mp hacc, hkept, hlasts⟩, heq⟩
        · exact .inr ⟨(now, op) :: before, time, first, after, rfl,
            ⟨limits_apply now c op ▸ hfirst.accepted, hfirst.kept, hfirst.lasting⟩, heq⟩
      · rintro (⟨old, hold, hlasts, heq⟩ | ⟨before, time, first, after, hops, hfirst, heq⟩)
        · simp only [outlasts, Bool.and_eq_true, Bool.not_eq_true'] at hlasts
          exact .inl ⟨_, find?_apply_eq_some_iff.mpr (.inl ⟨old, hold, hlasts.1, rfl⟩),
            hlasts.2, heq⟩
        · cases before with
          | nil =>
              cases hops
              exact .inl ⟨first, find?_apply_eq_some_iff.mpr
                (.inr ⟨rfl, accepts_iff.mpr hfirst.accepted, hfirst.kept⟩), hfirst.lasting, heq⟩
          | cons timed before =>
              cases hops
              exact .inr ⟨before, time, first, after, rfl,
                ⟨(limits_apply now c op).symm ▸ hfirst.accepted, hfirst.kept, hfirst.lasting⟩, heq⟩

/-- **What a cache answers is told by the history of the key.**  After every run, a lookup answers
with an entry exactly when there was an insertion of the key that was accepted, the entry has
outlasted everything since (it was not taken out, dropped as expired, evicted or replaced), and it
is not too old.  The entry is the answer that was inserted, as the latest refresh since has renewed
it.  Insertions that are refused and refreshes of absent keys change nothing; a lookup drops at
most the entry that it is for, and a sweep drops and counts exactly the expired entries. -/
theorem run_answers_history (limits : Limits) (ops : List Timed) (now : Moment) (key : String) :
    let c := (empty limits).run ops
    (∀ e, (c.get now key).2 = some e ↔
      (∃ before time first after, ops = before ++ (time, .insert key first) :: after ∧
        (empty limits).Establishes key before time first after ∧
        first.renewed key after = e) ∧
      ∀ maxAge, limits.maxAge = some maxAge → e.storedAt.since now < maxAge) ∧
    (∀ e, ¬ (0 < limits.maxBytes ∧ e.body.length ≤ limits.maxBytes) → c.insert key e = c) ∧
    (∀ freshFor, c.find? key = none → (c.refresh now key freshFor).1 = c) ∧
    (c.get now key).1.entries =
      c.entries.filter (fun p => !(p.1 == key && c.isExpired now p.2)) ∧
    (c.cleanup now).1.entries = c.entries.filter (fun p => !c.isExpired now p.2) ∧
    (c.cleanup now).2 = (c.entries.filter fun p => c.isExpired now p.2).length := by
  intro c
  have hsound : c.Sound := sound_run (sound_empty limits) ops
  have hlimits : c.limits = limits := limits_run (empty limits) ops
  refine ⟨fun e => ?_, fun e hrefused => ?_, fun freshFor hvacant => ?_,
    entries_get hsound.distinct now key, entries_cleanup hsound.distinct now,
    cleanup_snd hsound.toBalanced now⟩
  · rw [get_eq_some_iff, isExpired_eq_false_iff, hlimits, find?_run_eq_some_iff]
    refine and_congr_left fun _ => ⟨?_, .inr⟩
    rintro (⟨old, hold, -⟩ | horigin)
    · cases hold
    · exact horigin
  · refine insert_of_not_accepts ?_ key
    rw [← hlimits, ← accepts_iff] at hrefused
    simpa using hrefused
  · exact refresh_of_vacant hvacant now freshFor

/-- A refresh revives an entry that is too old, as long as nothing has dropped it. -/
example :
    let ops : List Timed := [(0, .insert "k" ⟨[1], some "v", 0, none⟩), (9, .refresh "k" none),
      (30, .get "other"), (30, .refresh "k" (some 5))]
    (((empty ⟨100, some 10, 60⟩).run ops).get 39 "k").2 = some ⟨[1], some "v", 30, some 5⟩ := by
  decide

end KeyDirectory.Cache
