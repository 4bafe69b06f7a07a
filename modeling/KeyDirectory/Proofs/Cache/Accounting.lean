import KeyDirectory.Proofs.Cache.Operations

/-!
# The counters of a cache add up

`Balanced`: each key is listed once and the byte counter is the total size of the bodies.  Every
operation keeps it, although it changes the entries and the counter one after the other, and on
the way never takes more from the counter than is there (`Covered`).  The operations are read as
the lists of single actions that they are made of (`perform_actions`), so that what is shown of
a piece of such a list (`TakesOut`) serves every operation it is a piece of.

Main statement: `run_adds_up`, for every run of operations from the empty cache.
-/

namespace KeyDirectory.Cache

/-! ## Balance -/

/-- Each key is listed once, and the byte counter is the total size of the bodies. -/
structure Balanced (c : Cache) : Prop where
  distinct : c.HasDistinctKeys
  bytes_eq : c.bytes = c.sumOver Entry.size

/-- The number of entries is a sum over them, in which each counts for one. -/
lemma size_eq_sumOver (c : Cache) : c.size = c.sumOver fun _ => 1 := by
  unfold size sumOver
  simp

/-- No entry is larger than what the byte counter shows. -/
lemma Balanced.size_le_bytes {c : Cache} (h : c.Balanced) {key : String} {e : Entry}
    (he : c.find? key = some e) : e.size ≤ c.bytes :=
  h.bytes_eq ▸ le_sumOver he Entry.size

/-- A list of actions that takes a number of entries out of a balanced cache, always covered, and
counts some of them as evicted. -/
structure TakesOut (c : Cache) (actions : List Action) (taken evicted : Nat) : Prop where
  covered : Covered c actions
  balanced : (c.perform actions).Balanced
  bytes_le : (c.perform actions).bytes ≤ c.bytes
  size_add : (c.perform actions).size + taken = c.size
  evictions_eq : (c.perform actions).evictions = c.evictions + evicted
  lookups_eq : (c.perform actions).hits + (c.perform actions).misses = c.hits + c.misses

/-- Doing nothing takes nothing out. -/
lemma TakesOut.nil {c : Cache} (h : c.Balanced) : TakesOut c [] 0 0 :=
  ⟨trivial, h, Nat.le_refl _, rfl, rfl, rfl⟩

/-- Two lists of actions, one after the other, take out what both of them take out. -/
lemma TakesOut.append {c : Cache} {first second : List Action} {m n k l : Nat}
    (h₁ : TakesOut c first m k) (h₂ : TakesOut (c.perform first) second n l) :
    TakesOut c (first ++ second) (m + n) (k + l) := by
  have hsize₁ := h₁.size_add
  have hsize₂ := h₂.size_add
  have hevicted₁ := h₁.evictions_eq
  have hevicted₂ := h₂.evictions_eq
  refine ⟨covered_append.mpr ⟨h₁.covered, h₂.covered⟩, ?_, ?_, ?_, ?_, ?_⟩ <;>
    rw [perform_append]
  · exact h₂.balanced
  · exact Nat.le_trans h₂.bytes_le h₁.bytes_le
  · omega
  · omega
  · rw [h₂.lookups_eq, h₁.lookups_eq]

/-- An entry that is taken out is subtracted once it is gone, and then the counter is right. -/
lemma takesOut_takingOut {c : Cache} (h : c.Balanced) {key : String} {e : Entry}
    (he : c.find? key = some e) : TakesOut c (takingOut key e) 1 0 where
  covered := ⟨trivial, h.size_le_bytes he, trivial⟩
  balanced := by
    refine ⟨h.distinct.dropEntry key, ?_⟩
    have hsum := sumOver_dropEntry h.distinct he Entry.size
    have hbytes := h.bytes_eq
    show c.bytes - e.size = (c.dropEntry key).sumOver Entry.size
    omega
  bytes_le := Nat.sub_le c.bytes e.size
  size_add := by
    have hsum := sumOver_dropEntry h.distinct he fun _ => 1
    rw [← size_eq_sumOver, ← size_eq_sumOver] at hsum
    exact hsum
  evictions_eq := rfl
  lookups_eq := rfl

/-- Dropping a key takes one entry out if its entry is expired, and counts no eviction. -/
lemma takesOut_expiryActions {c : Cache} (h : c.Balanced) (now : Moment) (key : String) :
    TakesOut c (c.expiryActions now key) (if (c.removeExpired now key).2 then 1 else 0) 0 := by
  unfold expiryActions removeExpired
  rcases he : c.find? key with _ | e
  · exact .nil h
  · by_cases hexp : c.isExpired now e = true
    · simp only [hexp, if_true]
      exact takesOut_takingOut h he
    · simp only [hexp]
      exact .nil h

/-- Dropping several keys takes out as many entries as it is said to. -/
lemma takesOut_expiriesOf (now : Moment) (keys : List String) {c : Cache} (h : c.Balanced) :
    TakesOut c (expiriesOf now keys c) (removeAllExpired now keys c).2 0 := by
  induction keys generalizing c with
  | nil => exact .nil h
  | cons key keys ih =>
      have hfirst := takesOut_expiryActions h now key
      have hboth := hfirst.append (ih hfirst.balanced)
      rw [perform_expiryActions, Nat.add_comm] at hboth
      unfold expiriesOf removeAllExpired
      rw [perform_expiryActions]
      exact hboth

/-- Evicting a key counts an eviction for the entry that it takes out, if there is one. -/
lemma takesOut_evictionActions {c : Cache} (h : c.Balanced) (key : String) :
    ∃ n, TakesOut c (c.evictionActions key) n n := by
  unfold evictionActions
  rcases he : c.find? key with _ | e
  · exact ⟨0, .nil h⟩
  · have htaken := takesOut_takingOut h he
    have hcounted : TakesOut (c.perform (takingOut key e)) [.countEviction] 0 1 :=
      ⟨⟨trivial, trivial⟩, ⟨htaken.balanced.distinct, htaken.balanced.bytes_eq⟩, Nat.le_refl _,
        rfl, rfl, rfl⟩
    exact ⟨1, htaken.append hcounted⟩

/-- Evicting until the size is within bounds counts an eviction for each entry that it takes out. -/
lemma takesOut_evictionsUntilWithin (keys : List String) {c : Cache} (h : c.Balanced) :
    ∃ n, TakesOut c (evictionsUntilWithin keys c) n n := by
  induction keys generalizing c with
  | nil => exact ⟨0, .nil h⟩
  | cons key keys ih =>
      unfold evictionsUntilWithin
      split_ifs
      · exact ⟨0, .nil h⟩
      · obtain ⟨m, hfirst⟩ := takesOut_evictionActions h key
        obtain ⟨n, hrest⟩ := ih hfirst.balanced
        exact ⟨m + n, hfirst.append hrest⟩

/-- Once all keys have had their turn the size is within bounds, since no entry is left. -/
lemma bytes_evictUntilWithin_le (keys : List String) {c : Cache} (h : c.Balanced)
    (hkeys : ∀ k e, c.find? k = some e → k ∈ keys) :
    (evictUntilWithin keys c).bytes ≤ c.limits.maxBytes := by
  induction keys generalizing c with
  | nil =>
      have hempty : c.entries = [] := entries_eq_nil fun k => by
        rcases hfound : c.find? k with _ | e
        · rfl
        · exact absurd (hkeys k e hfound) List.not_mem_nil
      have hbytes : c.bytes = 0 := by rw [h.bytes_eq, sumOver, hempty]; rfl
      show c.bytes ≤ c.limits.maxBytes
      omega
  | cons key keys ih =>
      unfold evictUntilWithin
      split_ifs with hwithin
      · exact hwithin
      · obtain ⟨n, hfirst⟩ := takesOut_evictionActions h key
        have hbalanced := hfirst.balanced
        rw [perform_evictionActions] at hbalanced
        rw [← limits_evict c key]
        refine ih hbalanced fun k e hfound => ?_
        rw [find?_evict] at hfound
        split_ifs at hfound with hk
        exact (List.mem_cons.mp (hkeys k e hfound)).resolve_left hk

/-- Every key with an entry is in the list by which room is made. -/
lemma mem_keysByAge {c : Cache} {k : String} {e : Entry} (h : c.find? k = some e) :
    k ∈ c.keysByAge := by
  obtain ⟨front, back, hsplit, -⟩ := exists_split_of_find? h
  refine List.mem_map.mpr ⟨(k, e), List.mem_mergeSort.mpr ?_, rfl⟩
  rw [hsplit]
  simp

/-! ## Storing -/

/-- Storing subtracts no more than the size of the answer that is replaced. -/
lemma covered_storing {c : Cache} (h : c.Balanced) (key : String) (e : Entry) :
    Covered c (c.storingActions key e) := by
  unfold storingActions
  rcases hold : c.find? key with _ | old
  · exact ⟨trivial, trivial, trivial⟩
  · have hle := h.size_le_bytes hold
    exact ⟨trivial, trivial, Nat.le_trans hle (Nat.le_add_right c.bytes e.size), trivial⟩

/-- With an answer stored, the byte counter is the total size of the entries again. -/
lemma balanced_storing {c : Cache} (h : c.Balanced) (key : String) (e : Entry) :
    (c.perform (c.storingActions key e)).Balanced := by
  have hbytes := h.bytes_eq
  unfold storingActions
  rcases hold : c.find? key with _ | old
  · refine ⟨h.distinct.putEntry key e, ?_⟩
    have hsum := sumOver_putEntry_vacant hold e Entry.size
    show c.bytes + e.size = (c.putEntry key e).sumOver Entry.size
    omega
  · refine ⟨h.distinct.putEntry key e, ?_⟩
    have hsum := sumOver_putEntry_taken hold e Entry.size
    show c.bytes + e.size - old.size = (c.putEntry key e).sumOver Entry.size
    omega

/-- Storing under a vacant key adds an entry, and under another one it does not. -/
lemma size_storing (c : Cache) (key : String) (e : Entry) :
    (c.perform (c.storingActions key e)).size =
      c.size + if (c.find? key).isNone then 1 else 0 := by
  have hput : (c.perform (c.storingActions key e)).size = (c.putEntry key e).size := by
    unfold storingActions
    rcases c.find? key with _ | old <;> rfl
  rw [hput, size_eq_sumOver, size_eq_sumOver]
  rcases hold : c.find? key with _ | old
  · exact sumOver_putEntry_vacant hold e fun _ => 1
  · exact Nat.add_right_cancel (sumOver_putEntry_taken hold e fun _ => 1)

/-- Storing counts no eviction, no hit and no miss. -/
lemma counters_storing (c : Cache) (key : String) (e : Entry) :
    (c.perform (c.storingActions key e)).evictions = c.evictions ∧
      (c.perform (c.storingActions key e)).hits + (c.perform (c.storingActions key e)).misses =
        c.hits + c.misses := by
  unfold storingActions
  rcases c.find? key with _ | old <;> exact ⟨rfl, rfl⟩

/-! ## One operation -/

/-- A balanced cache within its bounds; one of size zero is empty. -/
structure Sound (c : Cache) : Prop extends Balanced c where
  bytes_le : c.bytes ≤ c.limits.maxBytes
  idle : c.limits.maxBytes = 0 → c.size = 0

/-- A new cache is sound. -/
lemma sound_empty (limits : Limits) : (empty limits).Sound :=
  ⟨⟨List.nodup_nil, rfl⟩, Nat.zero_le _, fun _ => rfl⟩

/-- Taking entries out leaves a cache sound. -/
lemma TakesOut.sound {c : Cache} {actions : List Action} {m k : Nat}
    (h : TakesOut c actions m k) (hc : c.Sound) : (c.perform actions).Sound := by
  have hsize := h.size_add
  refine ⟨h.balanced, ?_, fun hzero => ?_⟩ <;> rw [limits_perform] at *
  · exact Nat.le_trans h.bytes_le hc.bytes_le
  · have := hc.idle hzero
    omega

/-- What is shown of one operation: it never takes more from the byte counter than is there, it
keeps the cache sound, and its counters and books agree. -/
structure AddsUp (now : Moment) (c : Cache) (op : Operation) : Prop where
  covered : Covered c (op.actions now c)
  sound : (c.perform (op.actions now c)).Sound
  lookups_eq : (c.perform (op.actions now c)).hits + (c.perform (op.actions now c)).misses =
    c.hits + c.misses + (op.books now c).lookups
  entries_eq : (c.perform (op.actions now c)).size + (op.books now c).removals +
      (op.books now c).expiries + (c.perform (op.actions now c)).evictions =
    c.size + c.evictions + (op.books now c).additions

/-- Operations that only take entries out. -/
lemma TakesOut.addsUp {c : Cache} {now : Moment} {op : Operation} {n : Nat}
    (h : TakesOut c (op.actions now c) n 0) (hc : c.Sound)
    (hlookups : (op.books now c).lookups = 0) (hadditions : (op.books now c).additions = 0)
    (htaken : (op.books now c).removals + (op.books now c).expiries = n) : AddsUp now c op where
  covered := h.covered
  sound := h.sound hc
  lookups_eq := by
    rw [h.lookups_eq, hlookups]
    rfl
  entries_eq := by
    have hsize := h.size_add
    have hevictions := h.evictions_eq
    omega

/-- A lookup counts a hit or a miss, and drops its entry if that is expired. -/
lemma addsUp_get {c : Cache} (h : c.Sound) (now : Moment) (key : String) :
    AddsUp now c (.get key) := by
  rcases he : c.find? key with _ | e
  · have hactions : (Operation.get key).actions now c = [.countMiss] := by
      simp [Operation.actions, he]
    constructor <;> rw [hactions]
    · exact ⟨trivial, trivial⟩
    · exact ⟨⟨h.distinct, h.bytes_eq⟩, h.bytes_le, h.idle⟩
    · rfl
    · simp [Operation.books, he, Books.blank, perform, Action.apply, size]
  · by_cases hexp : c.isExpired now e = true
    · have hactions : (Operation.get key).actions now c =
          takingOut key e ++ [.countMiss] := by
        simp [Operation.actions, expiryActions, he, hexp]
      have htaken := takesOut_takingOut h.toBalanced he
      have hsound := htaken.sound h
      constructor <;> rw [hactions]
      · exact covered_append.mpr ⟨htaken.covered, trivial, trivial⟩
      · exact ⟨⟨hsound.distinct, hsound.bytes_eq⟩, hsound.bytes_le, hsound.idle⟩
      · rfl
      · have hsize := htaken.size_add
        simp only [Operation.books, he, Option.any_some, hexp, if_true, Books.blank]
        show (c.perform (takingOut key e)).size + 0 + 1 + c.evictions = _
        omega
    · have hactions : (Operation.get key).actions now c = [.countHit] := by
        simp [Operation.actions, he, hexp]
      constructor <;> rw [hactions]
      · exact ⟨trivial, trivial⟩
      · exact ⟨⟨h.distinct, h.bytes_eq⟩, h.bytes_le, h.idle⟩
      · exact Nat.add_right_comm c.hits 1 c.misses
      · simp [Operation.books, he, hexp, Books.blank, perform, Action.apply, size]

/-- A cache of size zero accepts nothing. -/
lemma maxBytes_ne_zero_of_accepts {c : Cache} {e : Entry} (h : c.accepts e = true) :
    c.limits.maxBytes ≠ 0 := by
  unfold accepts isEnabled at h
  rw [Bool.and_eq_true, decide_eq_true_eq] at h
  exact Nat.ne_of_gt h.1

/-- An insertion that stores, and then evicts until the size is within bounds. -/
lemma addsUp_of_storing {c : Cache} (h : c.Sound) {now : Moment} {key : String} {e : Entry}
    (hacc : c.accepts e = true) {evictions : List Action} {n : Nat}
    (hactions : (Operation.insert key e).actions now c = c.storingActions key e ++ evictions)
    (htaken : TakesOut (c.perform (c.storingActions key e)) evictions n n)
    (hbytes : ((c.perform (c.storingActions key e)).perform evictions).bytes ≤
      c.limits.maxBytes) : AddsUp now c (.insert key e) := by
  obtain ⟨hevictions, hlookups⟩ := counters_storing c key e
  constructor <;> rw [hactions]
  · exact covered_append.mpr ⟨covered_storing h.toBalanced key e, htaken.covered⟩
  · rw [perform_append]
    refine ⟨htaken.balanced, ?_, fun hzero => ?_⟩
    · rw [limits_perform, limits_perform]
      exact hbytes
    · rw [limits_perform, limits_perform] at hzero
      exact absurd hzero (maxBytes_ne_zero_of_accepts hacc)
  · rw [perform_append, htaken.lookups_eq]
    exact hlookups
  · have hadditions : ((Operation.insert key e).books now c).additions =
        if (c.find? key).isNone then 1 else 0 := by
      simp [Operation.books, hacc]
    have hsize := size_storing c key e
    have hleft := htaken.size_add
    have hevicted := htaken.evictions_eq
    rw [perform_append, hadditions]
    show _ + 0 + 0 + _ = _
    omega

/-- An insertion adds what it stores under a vacant key and counts what it evicts. -/
lemma addsUp_insert {c : Cache} (h : c.Sound) (now : Moment) (key : String) (e : Entry) :
    AddsUp now c (.insert key e) := by
  rcases hacc : c.accepts e with _ | _
  · have hactions : (Operation.insert key e).actions now c = [] := by
      simp [Operation.actions, hacc]
    constructor <;> rw [hactions]
    · trivial
    · exact h
    · rfl
    · simp [Operation.books, hacc, Books.blank, perform]
  · have hstored := balanced_storing h.toBalanced key e
    by_cases hfits : (c.perform (c.storingActions key e)).bytes ≤ c.limits.maxBytes
    · refine addsUp_of_storing h hacc ?_ (.nil hstored) hfits
      simp [Operation.actions, hacc, hfits]
    · obtain ⟨n, htaken⟩ := takesOut_evictionsUntilWithin
        (c.perform (c.storingActions key e)).keysByAge hstored
      refine addsUp_of_storing h hacc ?_ htaken ?_
      · simp [Operation.actions, hacc, hfits]
      · have hbytes := bytes_evictUntilWithin_le
          (c.perform (c.storingActions key e)).keysByAge hstored fun _ _ => mem_keysByAge
        rw [perform_evictionsUntilWithin, ← limits_perform c (c.storingActions key e)]
        exact hbytes

/-- A removal takes out the entry that it answers with. -/
lemma addsUp_remove {c : Cache} (h : c.Sound) (now : Moment) (key : String) :
    AddsUp now c (.remove key) := by
  rcases he : c.find? key with _ | e
  · have hactions : (Operation.remove key).actions now c = [] := by
      simp [Operation.actions, he]
    have htaken : TakesOut c ((Operation.remove key).actions now c) 0 0 :=
      hactions ▸ TakesOut.nil h.toBalanced
    refine htaken.addsUp h rfl rfl ?_
    simp [remove, he, Operation.books, Books.blank]
  · have hactions : (Operation.remove key).actions now c = takingOut key e := by
      simp [Operation.actions, he]
    have htaken : TakesOut c ((Operation.remove key).actions now c) 1 0 :=
      hactions ▸ takesOut_takingOut h.toBalanced he
    refine htaken.addsUp h rfl rfl ?_
    simp [remove, he, Operation.books, Books.blank]

/-- A refresh changes no number. -/
lemma addsUp_refresh {c : Cache} (h : c.Sound) (now : Moment) (key : String)
    (freshFor : Option Duration) : AddsUp now c (.refresh key freshFor) := by
  rcases he : c.find? key with _ | e
  · have hactions : (Operation.refresh key freshFor).actions now c = [] := by
      simp [Operation.actions, he]
    constructor <;> rw [hactions]
    · trivial
    · exact h
    · rfl
    · rfl
  · have hactions : (Operation.refresh key freshFor).actions now c =
        [.putEntry key { e with storedAt := now, freshFor := freshFor }] := by
      simp [Operation.actions, he]
    have hbytes := sumOver_putEntry_taken he { e with storedAt := now, freshFor := freshFor }
      Entry.size
    have hsize := sumOver_putEntry_taken he { e with storedAt := now, freshFor := freshFor }
      fun _ => 1
    rw [← size_eq_sumOver, ← size_eq_sumOver] at hsize
    constructor <;> rw [hactions]
    · exact ⟨trivial, trivial⟩
    · refine ⟨⟨h.distinct.putEntry _ _, ?_⟩, h.bytes_le, fun hzero => ?_⟩
      · exact h.bytes_eq.trans (Nat.add_right_cancel hbytes).symm
      · exact (Nat.add_right_cancel hsize).trans (h.idle hzero)
    · rfl
    · exact congrArg (· + c.evictions) (Nat.add_right_cancel hsize)

/-- Every operation on a sound cache adds up. -/
lemma addsUp {c : Cache} (h : c.Sound) (now : Moment) (op : Operation) : AddsUp now c op := by
  cases op with
  | get key => exact addsUp_get h now key
  | insert key e => exact addsUp_insert h now key e
  | remove key => exact addsUp_remove h now key
  | refresh key freshFor => exact addsUp_refresh h now key freshFor
  | cleanup =>
      exact TakesOut.addsUp (takesOut_expiriesOf now _ h.toBalanced) h rfl rfl (Nat.zero_add _)
  | removeExpired key =>
      exact TakesOut.addsUp (takesOut_expiryActions h.toBalanced now key) h rfl rfl
        (Nat.zero_add _)

/-! ## Runs -/

/-- Every run leaves a cache sound. -/
lemma sound_run {c : Cache} (h : c.Sound) (ops : List Timed) : (c.run ops).Sound := by
  induction ops generalizing c with
  | nil => exact h
  | cons timed ops ih =>
      refine ih (c := timed.2.apply timed.1 c) ?_
      rw [← perform_actions]
      exact (addsUp h timed.1 timed.2).sound

/-- The counters and the number of entries agree with the books after every run. -/
lemma run_books {c : Cache} (h : c.Sound) (ops : List Timed) :
    (c.run ops).hits + (c.run ops).misses = c.hits + c.misses + (books c ops).lookups ∧
      (c.run ops).size + (books c ops).removals + (books c ops).expiries +
          (c.run ops).evictions =
        c.size + c.evictions + (books c ops).additions := by
  induction ops generalizing c with
  | nil => exact ⟨rfl, rfl⟩
  | cons timed ops ih =>
      obtain ⟨now, op⟩ := timed
      have hstep := addsUp h now op
      have hlookups := hstep.lookups_eq
      have hentries := hstep.entries_eq
      have hsound := hstep.sound
      rw [perform_actions] at hlookups hentries hsound
      obtain ⟨hlookupsRest, hentriesRest⟩ := ih hsound
      have hrun : c.run ((now, op) :: ops) = (op.apply now c).run ops := rfl
      have hbooks : books c ((now, op) :: ops) =
          (op.books now c).add (books (op.apply now c) ops) := rfl
      rw [hrun, hbooks]
      simp only [Books.add]
      omega

/-- **The counters of a cache add up after every run.**  The byte counter is the total size of
the stored bodies and within bounds, and a cache of size zero stores nothing.  Whatever operation
comes next is made of actions that never take more from the counter than is there.  Lookups were
hits or misses, and what was ever added under a vacant key is still there, was taken out, was
dropped as expired or was evicted. -/
theorem run_adds_up (limits : Limits) (ops : List Timed) :
    let c := (empty limits).run ops
    let b := books (empty limits) ops
    c.bytes = (c.entries.map fun (_, e) => e.body.length).sum ∧
      c.bytes ≤ limits.maxBytes ∧
      (limits.maxBytes = 0 → c.entries = []) ∧
      (∀ (now : Moment) (op : Operation), Covered c (op.actions now c) ∧
        c.perform (op.actions now c) = op.apply now c) ∧
      c.hits + c.misses = b.lookups ∧
      b.additions = c.size + b.removals + b.expiries + c.evictions := by
  intro c b
  have hsound : c.Sound := sound_run (sound_empty limits) ops
  have hlimits : c.limits = limits := limits_run (empty limits) ops
  obtain ⟨hlookups, hentries⟩ := run_books (sound_empty limits) ops
  refine ⟨hsound.bytes_eq, hlimits ▸ hsound.bytes_le, fun hzero => ?_, fun now op => ?_, ?_, ?_⟩
  · exact List.length_eq_zero_iff.mp (hsound.idle (hlimits ▸ hzero))
  · exact ⟨(addsUp hsound now op).covered, perform_actions now c op⟩
  · exact hlookups.trans (Nat.zero_add _)
  · exact (Nat.zero_add _).symm.trans hentries.symm

end KeyDirectory.Cache
