import KeyDirectory.Cache.Eviction
import KeyDirectory.Proofs.Cache.History

/-!
# Evictions go by age and stop as soon as they can

The loop that evicts compares the byte counter, which its own removals change, with the bound.  As
long as the counter is the total size of what is left, that is the same as cutting the entries off
one by one until the others fit, in whatever order the keys come (`exists_cutsOff`).  What follows
for single entries is shown for every order that goes by age; where entries are of one age, no
order among them is preferred.

* `entries_evictUntilWithin`: the entries that the loop leaves.
* `exists_cutsOff`: the loop makes the shortest cut.
* `CutsOff.le_of_evicted`, `CutsOff.not_mem_of_youngest`: what follows for single entries.
* `isByAge_byAge`, `exists_makesRoom`: the order in which an insertion goes through the keys.
* `insert_evicts_oldest`: the result.
-/

namespace KeyDirectory.Cache

/-! ## Sizes -/

/-- The total size, one entry at a time. -/
lemma totalSize_cons (p : String × Entry) (entries : List (String × Entry)) :
    totalSize (p :: entries) = p.2.size + totalSize entries := by
  unfold totalSize
  rw [List.map_cons, List.sum_cons]

/-- The total size does not depend on the order. -/
lemma totalSize_perm {entries entries' : List (String × Entry)} (h : entries.Perm entries') :
    totalSize entries = totalSize entries' :=
  (h.map fun p : String × Entry => p.2.size).sum_eq

/-- The byte counter is the total size of the entries in any order. -/
lemma Balanced.bytes_eq_totalSize {c : Cache} (h : c.Balanced)
    {arranged : List (String × Entry)} (hperm : arranged.Perm c.entries) :
    c.bytes = totalSize arranged := by
  rw [totalSize_perm hperm]
  exact h.bytes_eq

/-! ## One eviction -/

/-- An eviction takes out what is stored under its key, if anything is. -/
lemma entries_evict (c : Cache) (key : String) :
    (c.evict key).entries = c.entries.filter fun p => p.1 ≠ key := by
  unfold evict remove
  rcases hfound : c.find? key with _ | e
  · have hvacant := find?_eq_none_iff.mp hfound
    symm
    apply List.filter_eq_self.mpr
    intro p hp
    simpa using hvacant p hp
  · rfl

/-- After an eviction the byte counter is the total size of the entries again. -/
lemma Balanced.evict {c : Cache} (h : c.Balanced) (key : String) : (c.evict key).Balanced := by
  obtain ⟨n, htaken⟩ := takesOut_evictionActions h key
  rw [← perform_evictionActions]
  exact htaken.balanced

/-- An eviction is counted when there was an entry to take out. -/
lemma evictions_evict {c : Cache} {key : String} {e : Entry} (h : c.find? key = some e) :
    (c.evict key).evictions = c.evictions + 1 := by
  unfold Cache.evict remove
  rw [h]
  rfl

/-- When the first entry of an arrangement is evicted, the others are what is left. -/
lemma perm_entries_evict {c : Cache} (h : c.HasDistinctKeys) {p : String × Entry}
    {rest : List (String × Entry)} (hperm : (p :: rest).Perm c.entries) :
    rest.Perm (c.evict p.1).entries := by
  have hkeys : ((p :: rest).map Prod.fst).Nodup := (hperm.map Prod.fst).nodup_iff.mpr h
  rw [List.map_cons, List.nodup_cons] at hkeys
  have hrest : rest.filter (fun q => q.1 ≠ p.1) = rest := by
    apply List.filter_eq_self.mpr
    intro q hq
    have hne : q.1 ≠ p.1 := fun heq => hkeys.1 (heq ▸ List.mem_map_of_mem hq)
    simpa using hne
  have hfiltered := hperm.filter fun q => q.1 ≠ p.1
  rw [List.filter_cons_of_neg (by simp), hrest] at hfiltered
  rw [entries_evict]
  exact hfiltered

/-! ## The loop -/

/-- The loop leaves the entries whose keys it did not evict. -/
lemma entries_evictUntilWithin (keys : List String) (c : Cache) :
    (evictUntilWithin keys c).entries =
      c.entries.filter fun p => p.1 ∉ evictedUntilWithin keys c := by
  induction keys generalizing c with
  | nil => simp [evictUntilWithin, evictedUntilWithin]
  | cons key keys ih =>
      unfold evictUntilWithin evictedUntilWithin
      split_ifs with hwithin
      · simp
      · rw [ih, entries_evict, List.filter_filter]
        apply List.filter_congr
        intro p _
        by_cases hp : p.1 = key
        · simp [hp]
        · simp [hp]

/-- What the loop takes out, and how often it counts, when it goes through an arrangement. -/
lemma exists_cut (arranged : List (String × Entry)) {c : Cache} (h : c.Balanced)
    (hperm : arranged.Perm c.entries) :
    ∃ n, IsShortestCut c.limits.maxBytes arranged n ∧
      evictedUntilWithin (arranged.map Prod.fst) c = (arranged.take n).map Prod.fst ∧
      (evictUntilWithin (arranged.map Prod.fst) c).evictions = c.evictions + n := by
  induction arranged generalizing c with
  | nil => exact ⟨0, ⟨Nat.le_refl _, Nat.zero_le _, fun m hm => absurd hm (Nat.not_lt_zero m)⟩,
      rfl, rfl⟩
  | cons p rest ih =>
      have hbytes : c.bytes = totalSize (p :: rest) := h.bytes_eq_totalSize hperm
      rw [List.map_cons]
      unfold evictUntilWithin evictedUntilWithin
      split_ifs with hwithin
      · refine ⟨0, ⟨Nat.zero_le _, hbytes ▸ hwithin, ?_⟩, rfl, rfl⟩
        intro m hm
        exact absurd hm (Nat.not_lt_zero m)
      · have hfound : c.find? p.1 = some p.2 :=
          Named.lookup_of_mem h.distinct (hperm.mem_iff.mp List.mem_cons_self)
        obtain ⟨n, hcut, hevicted, hcount⟩ :=
          ih (h.evict p.1) (perm_entries_evict h.distinct hperm)
        rw [limits_evict] at hcut
        refine ⟨n + 1, ⟨?_, hcut.fits, ?_⟩, ?_, ?_⟩
        · rw [List.length_cons]
          exact Nat.succ_le_succ hcut.le_length
        · intro m hm
          cases m with
          | zero => rw [List.drop_zero, ← hbytes]; exact Nat.lt_of_not_le hwithin
          | succ m => exact hcut.overflows m (Nat.lt_of_succ_lt_succ hm)
        · rw [hevicted, List.take_succ_cons, List.map_cons]
        · rw [hcount, evictions_evict hfound]
          omega

/-- Whatever the order of the entries, the loop makes the shortest cut in it and leaves the rest. -/
lemma exists_cutsOff {arranged : List (String × Entry)} {c : Cache} (h : c.Balanced)
    (hperm : arranged.Perm c.entries) : ∃ n, c.CutsOff arranged n := by
  obtain ⟨n, hcut, hevicted, hcount⟩ := exists_cut arranged h hperm
  refine ⟨n, hcut, hevicted, ?_, hcount⟩
  -- The loop drops by key, and no two entries have one key.
  have hkeys : (arranged.map Prod.fst).Nodup := (hperm.map Prod.fst).nodup_iff.mpr h.distinct
  rw [entries_evictUntilWithin, hevicted]
  apply List.filter_congr
  intro p hp
  rw [decide_eq_decide, not_iff_not]
  constructor
  · intro hcutOff
    obtain ⟨q, hq, heq⟩ := List.mem_map.mp hcutOff
    rwa [List.inj_on_of_nodup_map hkeys (List.mem_of_mem_take hq) (hperm.mem_iff.mpr hp) heq] at hq
  · exact List.mem_map_of_mem

/-! ## Single entries -/

section consequences

variable {c : Cache} {arranged : List (String × Entry)} {n : Nat}

/-- No entry that is taken out is younger than one that stays. -/
lemma CutsOff.le_of_evicted (h : c.CutsOff arranged n) (hage : IsByAge arranged c.entries)
    {old kept : String × Entry} (hold : old ∈ arranged.take n)
    (hkept : kept ∈ (evictUntilWithin (arranged.map Prod.fst) c).entries) :
    old.2.storedAt ≤ kept.2.storedAt := by
  rw [h.entries_eq, List.mem_filter, ← hage.perm.mem_iff, decide_eq_true_eq] at hkept
  obtain ⟨hmem, hnot⟩ := hkept
  have hsorted := hage.sorted
  rw [← List.take_append_drop n arranged] at hmem hsorted
  have hlater : kept ∈ arranged.drop n := (List.mem_append.mp hmem).resolve_left hnot
  exact (List.pairwise_append.mp hsorted).2.2 old hold kept hlater

/-- Nothing is taken out when everything fits. -/
lemma CutsOff.eq_zero_of_fits (h : c.CutsOff arranged n) (hperm : arranged.Perm c.entries)
    (hfits : totalSize c.entries ≤ c.limits.maxBytes) : n = 0 := by
  by_contra hne
  have hover := h.cut.overflows 0 (Nat.pos_of_ne_zero hne)
  rw [List.drop_zero, totalSize_perm hperm] at hover
  omega

/-- An entry that is younger than all others comes last among them, and stays if it fits alone. -/
lemma CutsOff.not_mem_of_youngest (h : c.CutsOff arranged n) (hdistinct : c.HasDistinctKeys)
    (hage : IsByAge arranged c.entries) {key : String} {e : Entry} (he : c.find? key = some e)
    (hsize : e.size ≤ c.limits.maxBytes)
    (hyoungest : ∀ k old, k ≠ key → c.find? k = some old → old.storedAt < e.storedAt) :
    key ∉ evictedUntilWithin (arranged.map Prod.fst) c := by
  rw [h.evicted_eq, List.mem_map]
  rintro ⟨⟨k, new⟩, hcutOff, rfl⟩
  have hkeys : (arranged.map Prod.fst).Nodup := (hage.perm.map Prod.fst).nodup_iff.mpr hdistinct
  obtain ⟨front, back, hsplit⟩ := List.append_of_mem (List.mem_of_mem_take hcutOff)
  have hfound : ∀ p ∈ arranged, c.find? p.1 = some p.2 := by
    intro p hp
    exact Named.lookup_of_mem hdistinct (hage.perm.mem_iff.mp hp)
  obtain rfl : e = new :=
    Option.some.inj (he.symm.trans (hfound (k, new) (List.mem_of_mem_take hcutOff)))
  rw [hsplit, List.map_append, List.map_cons, List.nodup_middle, List.nodup_cons, List.mem_append,
    not_or] at hkeys
  obtain ⟨⟨hfront, hback⟩, -⟩ := hkeys
  have hlast : back = [] := by
    apply List.eq_nil_iff_forall_not_mem.mpr
    intro p hp
    have hne : p.1 ≠ k := fun heq => hback (List.mem_map.mpr ⟨p, hp, heq⟩)
    have hother := hfound p (hsplit ▸ List.mem_append_right front (List.mem_cons_of_mem _ hp))
    have hsorted := hage.sorted
    rw [hsplit] at hsorted
    have holder : e.storedAt ≤ p.2.storedAt :=
      List.rel_of_pairwise_cons (List.pairwise_append.mp hsorted).2.1 hp
    exact absurd (hyoungest p.1 p.2 hne hother) (Int.not_lt.mpr holder)
  rw [hlast] at hsplit
  -- With all others gone the entry fits, so the cut ends before it.
  have hshort : n ≤ front.length := by
    by_contra hlong
    have hover := h.cut.overflows front.length (Nat.lt_of_not_le hlong)
    rw [hsplit, List.drop_left, totalSize_cons] at hover
    exact absurd hover (Nat.not_lt.mpr hsize)
  rw [hsplit, List.take_append_of_le_length hshort] at hcutOff
  exact hfront (List.mem_map_of_mem (List.mem_of_mem_take hcutOff))

end consequences

/-! ## The order of an insertion -/

/-- The entries as an insertion goes through them. -/
def byAge (c : Cache) : List (String × Entry) :=
  c.entries.mergeSort fun a b => a.2.storedAt ≤ b.2.storedAt

/-- An insertion goes through the entries by age. -/
lemma isByAge_byAge (c : Cache) : IsByAge c.byAge c.entries where
  perm := List.mergeSort_perm _ _
  sorted := by
    have hsorted : c.byAge.Pairwise fun a b => decide (a.2.storedAt ≤ b.2.storedAt) = true := by
      apply List.pairwise_mergeSort
      · intro a b c hab hbc
        exact decide_eq_true (Int.le_trans (of_decide_eq_true hab) (of_decide_eq_true hbc))
      · intro a b
        rcases Int.le_total a.2.storedAt b.2.storedAt with h | h
        · simp [h]
        · simp [h]
    exact hsorted.imp of_decide_eq_true

/-- The keys that an insertion goes through are those of the entries by age. -/
lemma keysByAge_eq (c : Cache) : c.keysByAge = c.byAge.map Prod.fst := rfl

/-! ## Storing -/

/-- The cache with an answer stored, before room is made. -/
def stored (c : Cache) (key : String) (e : Entry) : Cache :=
  c.perform (c.storingActions key e)

/-- Storing leaves the limits alone. -/
@[simp] lemma limits_stored (c : Cache) (key : String) (e : Entry) :
    (c.stored key e).limits = c.limits :=
  limits_perform c _

/-- With an answer stored, the entries are those with the answer in its place. -/
lemma entries_stored (c : Cache) (key : String) (e : Entry) :
    (c.stored key e).entries = c.entriesWith key e := by
  unfold stored storingActions entriesWith
  rcases c.find? key with _ | old <;> rfl

/-- Storing adds the size of the answer, and takes off that of the answer it replaces. -/
lemma bytes_stored_add {c : Cache} (h : c.Balanced) (key : String) (e : Entry) :
    (c.stored key e).bytes + ((c.find? key).map Entry.size).getD 0 = c.bytes + e.size := by
  unfold stored storingActions
  rcases hold : c.find? key with _ | old
  · rfl
  · have hle : old.size ≤ c.bytes := h.size_le_bytes hold
    show c.bytes + e.size - old.size + old.size = c.bytes + e.size
    omega

/-- An accepted insertion stores the answer and then evicts until the size is within bounds. -/
lemma insert_eq_evictUntilWithin {c : Cache} {e : Entry} (h : c.accepts e = true) (key : String) :
    c.insert key e = evictUntilWithin (c.stored key e).keysByAge (c.stored key e) := by
  rw [insert_of_accepts h, shrink_eq]
  rfl

/-- What an accepted insertion evicts is what the loop does. -/
lemma evicted_eq_evictedUntilWithin {c : Cache} {e : Entry} (h : c.accepts e = true)
    (key : String) :
    c.evicted key e = evictedUntilWithin (c.stored key e).keysByAge (c.stored key e) := by
  unfold evicted
  rw [if_pos h]
  rfl

/-! ## One insertion -/

section insertion

variable {c : Cache} {key : String} {e : Entry} {arranged : List (String × Entry)} {n : Nat}

/-- A cut in the order of an insertion is what this insertion makes room by. -/
lemma CutsOff.makesRoom (h : (c.stored key e).CutsOff (c.stored key e).byAge n)
    (hbalanced : c.Balanced) (hacc : c.accepts e = true) :
    c.MakesRoom key e (c.stored key e).byAge n := by
  have hstored : (c.stored key e).Balanced := balanced_storing hbalanced key e
  have hage : IsByAge (c.stored key e).byAge (c.stored key e).entries := isByAge_byAge _
  obtain ⟨hcut, hevicted, hentries, hcount⟩ := h
  rw [← keysByAge_eq, ← evicted_eq_evictedUntilWithin hacc] at hevicted
  rw [← keysByAge_eq, ← insert_eq_evictUntilWithin hacc, entries_stored] at hentries
  rw [← keysByAge_eq, ← insert_eq_evictUntilWithin hacc] at hcount
  rw [limits_stored] at hcut
  refine ⟨?_, entries_stored c key e ▸ hage, hcut, hevicted, hentries, ?_⟩
  · rw [← hstored.bytes_eq_totalSize hage.perm]
    exact bytes_stored_add hbalanced key e
  · have hsame : (c.stored key e).evictions = c.evictions := (counters_storing c key e).1
    rw [hcount, hsame]

/-- An accepted insertion makes room. -/
lemma exists_makesRoom (h : c.Balanced) (hacc : c.accepts e = true) (key : String) :
    ∃ arranged n, c.MakesRoom key e arranged n := by
  obtain ⟨n, hcuts⟩ :=
    exists_cutsOff (balanced_storing h key e) (isByAge_byAge (c.stored key e)).perm
  exact ⟨_, n, hcuts.makesRoom h hacc⟩

/-- The arranged entries are those with the answer in its place. -/
lemma MakesRoom.mem_arranged (h : c.MakesRoom key e arranged n) {p : String × Entry} :
    p ∈ arranged ↔ p ∈ c.entriesWith key e :=
  h.byAge.perm.mem_iff

end insertion

/-- **An insertion evicts the oldest entries, and no more than it must.**  After every run, an
accepted insertion makes room by cutting the shortest possible front off the entries arranged by
age, so no entry that it evicts is younger than one that stays, nothing is evicted when everything
fits, and the answer itself stays if it is younger than all others. -/
theorem insert_evicts_oldest (limits : Limits) (ops : List Timed) (key : String) (e : Entry)
    (haccepted : 0 < limits.maxBytes ∧ e.body.length ≤ limits.maxBytes) :
    let c := (empty limits).run ops
    ∃ arranged n, c.MakesRoom key e arranged n ∧
      (∀ old ∈ arranged.take n, ∀ kept ∈ (c.insert key e).entries,
        old.2.storedAt ≤ kept.2.storedAt) ∧
      (totalSize (c.entriesWith key e) ≤ limits.maxBytes →
        n = 0 ∧ (c.insert key e).entries = c.entriesWith key e) ∧
      ((∀ k old, k ≠ key → c.find? k = some old → old.storedAt < e.storedAt) →
        (c.insert key e).find? key = some e) := by
  intro c
  have hsound : c.Sound := sound_run (sound_empty limits) ops
  have hlimits : c.limits = limits := limits_run (empty limits) ops
  rw [← hlimits] at haccepted ⊢
  have hacc : c.accepts e = true := accepts_iff.mpr haccepted
  have hstored : (c.stored key e).Balanced := balanced_storing hsound.toBalanced key e
  have hage : IsByAge (c.stored key e).byAge (c.stored key e).entries := isByAge_byAge _
  obtain ⟨n, hcuts⟩ := exists_cutsOff hstored hage.perm
  have hroom := hcuts.makesRoom hsound.toBalanced hacc
  refine ⟨_, n, hroom, ?_, ?_, ?_⟩
  · intro old hold kept hkept
    rw [insert_eq_evictUntilWithin hacc] at hkept
    exact hcuts.le_of_evicted hage hold hkept
  · intro hfits
    have hzero : n = 0 := by
      apply hcuts.eq_zero_of_fits hage.perm
      rw [entries_stored, limits_stored]
      exact hfits
    refine ⟨hzero, ?_⟩
    rw [hroom.entries_eq, hzero, List.take_zero]
    simp
  · intro hyoungest
    have hkept : key ∉ c.evicted key e := by
      have hfind : ∀ k, (c.stored key e).find? k = if k = key then some e else c.find? k :=
        fun k => find?_storing c key k e
      rw [evicted_eq_evictedUntilWithin hacc]
      refine hcuts.not_mem_of_youngest hstored.distinct hage ((hfind key).trans (if_pos rfl)) ?_ ?_
      · rw [limits_stored]
        exact haccepted.2
      · intro k old hne hold
        rw [hfind, if_neg hne] at hold
        exact hyoungest k old hne hold
    rw [find?_insert_of_accepts hacc, if_neg hkept, if_pos rfl]

/-- An entry that was confirmed and an answer that is dated back stay, and what is left is just as
large as the cache; the entry that was stored later than the one but not confirmed goes. -/
theorem insert_evicts_oldest_refreshed :
    let limits : Limits := ⟨10, none, 60⟩
    let ops : List Timed := [(5, .insert "a" ⟨[1, 1, 1, 1], none, 5, none⟩),
      (6, .insert "b" ⟨[2, 2, 2, 2], none, 6, none⟩), (9, .refresh "a" none)]
    let e : Entry := ⟨[3, 3, 3, 3, 3, 3], none, 7, none⟩
    let c := (empty limits).run ops
    (0 < limits.maxBytes ∧ e.body.length ≤ limits.maxBytes) ∧ c.evicted "c" e = ["b"] ∧
      (c.insert "c" e).entries = [("a", ⟨[1, 1, 1, 1], none, 9, none⟩), ("c", e)] := by
  intro limits ops e c
  have haccepted : 0 < limits.maxBytes ∧ e.body.length ≤ limits.maxBytes := by decide
  obtain ⟨arranged, n, hroom, -⟩ := insert_evicts_oldest limits ops "c" e haccepted
  have hwith : c.entriesWith "c" e = [("a", ⟨[1, 1, 1, 1], none, 9, none⟩),
      ("b", ⟨[2, 2, 2, 2], none, 6, none⟩), ("c", e)] := by decide
  -- No two of the three are of one age, so there is one way to arrange them.
  have hapart : ∀ old ∈ c.entriesWith "c" e, ∀ new ∈ c.entriesWith "c" e,
      old.2.storedAt = new.2.storedAt → old = new := by
    rw [hwith]
    decide
  have harranged : arranged = [("b", ⟨[2, 2, 2, 2], none, 6, none⟩), ("c", e),
      ("a", ⟨[1, 1, 1, 1], none, 9, none⟩)] := by
    have hsame : (c.entriesWith "c" e).Perm [("b", ⟨[2, 2, 2, 2], none, 6, none⟩), ("c", e),
        ("a", ⟨[1, 1, 1, 1], none, 9, none⟩)] := by
      rw [hwith]
      decide
    apply (hroom.byAge.perm.trans hsame).eq_of_pairwise _ hroom.byAge.sorted (by decide)
    intro old new hold hnew hle hge
    apply hapart old (hroom.mem_arranged.mp hold) new (hsame.mem_iff.mpr hnew)
    exact Int.le_antisymm hle hge
  subst harranged
  have hcount : n = 1 := by
    rcases n with _ | _ | n
    · exact absurd hroom.cut.fits (by decide)
    · rfl
    · exact absurd (hroom.cut.overflows 1 (by omega)) (by decide)
  subst hcount
  refine ⟨haccepted, hroom.evicted_eq, ?_⟩
  rw [hroom.entries_eq, hwith]
  decide

end KeyDirectory.Cache
