import KeyDirectory.Proofs.Cache.Actions
import KeyDirectory.Proofs.Named
import Mathlib.Algebra.BigOperators.Group.List.Basic
import Mathlib.Algebra.GroupWithZero.Nat
import Mathlib.Data.List.Nodup

/-!
# The entries of a cache

The entries of a cache are a list of pairs, each key once.  Here stands what the two actions on the
entries do to the entry of each key and to sums over all entries.

* `find?_putEntry`, `find?_dropEntry`: the actions, seen by key.
* `sumOver_dropEntry`, `sumOver_putEntry_vacant`, `sumOver_putEntry_taken`: the same, seen by a sum
  over all entries.
-/

namespace KeyDirectory.Cache

open Named

/-! ## The actions by key -/

/-- A replaced entry is found under its key, and all other entries as before. -/
lemma lookup_replaceEntry (key k : String) (e : Entry) (l : List (String × Entry)) :
    (replaceEntry key e l).lookup k = if k = key then some e else l.lookup k := by
  induction l with
  | nil =>
      by_cases h : k = key
      · simp [replaceEntry, h]
      · rw [replaceEntry, lookup_cons_of_ne h, if_neg h]
  | cons entry rest ih =>
      obtain ⟨name, old⟩ := entry
      by_cases hname : name = key
      · subst hname
        by_cases h : k = name
        · simp [replaceEntry, h]
        · rw [replaceEntry, if_pos rfl, lookup_cons_of_ne h, lookup_cons_of_ne h, if_neg h]
      · rw [replaceEntry, if_neg hname]
        by_cases h : k = name
        · subst h
          simp [hname]
        · rw [lookup_cons_of_ne h, lookup_cons_of_ne h, ih]

/-- What is put under a key is found under it, and nothing else changes. -/
@[simp] lemma find?_putEntry (c : Cache) (key k : String) (e : Entry) :
    (c.putEntry key e).find? k = if k = key then some e else c.find? k :=
  lookup_replaceEntry key k e c.entries

/-- After its entry is dropped nothing is found under a key, and nothing else changes. -/
@[simp] lemma find?_dropEntry (c : Cache) (key k : String) :
    (c.dropEntry key).find? k = if k = key then none else c.find? k :=
  lookup_filter_ne key k c.entries

/-- The byte counter says nothing about the entries. -/
@[simp] lemma find?_addBytes (c : Cache) (n : Nat) (k : String) :
    (c.addBytes n).find? k = c.find? k := rfl

/-- Taking bytes off the count leaves the entries alone. -/
@[simp] lemma find?_subtractBytes (c : Cache) (n : Nat) (k : String) :
    (c.subtractBytes n).find? k = c.find? k := rfl

/-- An entry that is found splits the list where it stands. -/
lemma exists_split_of_find? {c : Cache} {key : String} {e : Entry} (h : c.find? key = some e) :
    ∃ front back, c.entries = front ++ (key, e) :: back ∧ ∀ p ∈ front, p.1 ≠ key := by
  obtain ⟨front, back, hsplit, hfront⟩ := List.lookup_eq_some_iff.mp h
  refine ⟨front, back, hsplit, fun p hp heq => ?_⟩
  exact absurd (hfront p hp) (by simp [heq])

/-- Nothing is found under a key that no entry has. -/
lemma find?_eq_none_iff {c : Cache} {key : String} :
    c.find? key = none ↔ ∀ p ∈ c.entries, p.1 ≠ key := by
  unfold find?
  rw [List.lookup_eq_none_iff]
  refine forall₂_congr fun p _ => ?_
  rw [bne_iff_ne]
  exact ne_comm

/-- Where nothing is found there is nothing. -/
lemma entries_eq_nil {c : Cache} (h : ∀ k, c.find? k = none) : c.entries = [] :=
  List.eq_nil_iff_forall_not_mem.mpr fun p hp => find?_eq_none_iff.mp (h p.1) p hp rfl

/-! ## The actions on sums over all entries -/

/-- A sum over the entries of a cache. -/
def sumOver (c : Cache) (f : Entry → Nat) : Nat :=
  (c.entries.map fun (_, e) => f e).sum

/-- No key is listed twice. -/
def HasDistinctKeys (c : Cache) : Prop :=
  (c.entries.map Prod.fst).Nodup

/-- An entry is replaced where it stands. -/
lemma replaceEntry_append_cons {key : String} {front back : List (String × Entry)} {old : Entry}
    (h : ∀ p ∈ front, p.1 ≠ key) (e : Entry) :
    replaceEntry key e (front ++ (key, old) :: back) = front ++ (key, e) :: back := by
  induction front with
  | nil => simp [replaceEntry]
  | cons entry rest ih =>
      obtain ⟨name, first⟩ := entry
      have hname : name ≠ key := h _ List.mem_cons_self
      rw [List.cons_append, replaceEntry, if_neg hname,
        ih fun p hp => h p (List.mem_cons_of_mem _ hp), List.cons_append]

/-- An entry with a new key comes last. -/
lemma replaceEntry_of_vacant {key : String} {l : List (String × Entry)}
    (h : ∀ p ∈ l, p.1 ≠ key) (e : Entry) : replaceEntry key e l = l ++ [(key, e)] := by
  induction l with
  | nil => rfl
  | cons entry rest ih =>
      obtain ⟨name, first⟩ := entry
      have hname : name ≠ key := h _ List.mem_cons_self
      rw [replaceEntry, if_neg hname, ih fun p hp => h p (List.mem_cons_of_mem _ hp),
        List.cons_append]

/-- Where keys are distinct, dropping one drops one entry. -/
lemma filter_append_cons {key : String} {front back : List (String × Entry)} {e : Entry}
    (h : ((front ++ (key, e) :: back).map Prod.fst).Nodup) :
    ((front ++ (key, e) :: back).filter fun (k, _) => k ≠ key) = front ++ back := by
  rw [List.map_append, List.map_cons] at h
  have hmid := List.nodup_middle.mp h
  rw [List.nodup_cons, List.mem_append, not_or] at hmid
  have hkeep : ∀ l : List (String × Entry), key ∉ l.map Prod.fst →
      (l.filter fun (k, _) => k ≠ key) = l := by
    intro l hl
    refine List.filter_eq_self.mpr fun p hp => ?_
    have hne : p.1 ≠ key := fun heq => hl (List.mem_map.mpr ⟨p, hp, heq⟩)
    simpa using hne
  rw [List.filter_append, List.filter_cons_of_neg (by simp), hkeep _ hmid.1.1,
    hkeep _ hmid.1.2]

/-- Putting an entry in, in place of another one or not, keeps the keys distinct. -/
lemma HasDistinctKeys.putEntry {c : Cache} (h : c.HasDistinctKeys) (key : String) (e : Entry) :
    (c.putEntry key e).HasDistinctKeys := by
  unfold HasDistinctKeys Cache.putEntry at *
  simp only
  rcases hfound : c.find? key with _ | old
  · have hvacant := find?_eq_none_iff.mp hfound
    rw [replaceEntry_of_vacant hvacant, List.map_append, List.nodup_append]
    refine ⟨h, by simp, ?_⟩
    rintro k hk _ hkey rfl
    obtain ⟨p, hp, rfl⟩ := List.mem_map.mp hk
    exact hvacant p hp (by simpa using hkey)
  · obtain ⟨front, back, hsplit, hfront⟩ := exists_split_of_find? hfound
    rw [hsplit] at h ⊢
    rw [replaceEntry_append_cons hfront]
    simpa using h

/-- Dropping an entry keeps the keys distinct. -/
lemma HasDistinctKeys.dropEntry {c : Cache} (h : c.HasDistinctKeys) (key : String) :
    (c.dropEntry key).HasDistinctKeys :=
  (List.filter_sublist.map Prod.fst).nodup h

/-- Dropping an entry takes its share out of a sum. -/
lemma sumOver_dropEntry {c : Cache} (h : c.HasDistinctKeys) {key : String} {e : Entry}
    (he : c.find? key = some e) (f : Entry → Nat) :
    (c.dropEntry key).sumOver f + f e = c.sumOver f := by
  obtain ⟨front, back, hsplit, -⟩ := exists_split_of_find? he
  unfold HasDistinctKeys at h
  unfold sumOver dropEntry
  simp only
  rw [hsplit] at h ⊢
  rw [filter_append_cons h]
  simp only [List.map_append, List.map_cons, List.sum_append, List.sum_cons]
  omega

/-- Putting an entry under a vacant key adds its share to a sum. -/
lemma sumOver_putEntry_vacant {c : Cache} {key : String} (h : c.find? key = none) (e : Entry)
    (f : Entry → Nat) : (c.putEntry key e).sumOver f = c.sumOver f + f e := by
  unfold sumOver putEntry
  simp only
  rw [replaceEntry_of_vacant (find?_eq_none_iff.mp h)]
  simp

/-- Putting an entry under a key that has one replaces its share of a sum. -/
lemma sumOver_putEntry_taken {c : Cache} {key : String} {old : Entry}
    (h : c.find? key = some old) (e : Entry) (f : Entry → Nat) :
    (c.putEntry key e).sumOver f + f old = c.sumOver f + f e := by
  obtain ⟨front, back, hsplit, hfront⟩ := exists_split_of_find? h
  unfold sumOver putEntry
  simp only
  rw [hsplit, replaceEntry_append_cons hfront]
  simp only [List.map_append, List.map_cons, List.sum_append, List.sum_cons]
  omega

/-- The share of one entry is at most the sum. -/
lemma le_sumOver {c : Cache} {key : String} {e : Entry} (h : c.find? key = some e)
    (f : Entry → Nat) : f e ≤ c.sumOver f := by
  obtain ⟨front, back, hsplit, -⟩ := exists_split_of_find? h
  unfold sumOver
  rw [hsplit]
  simp only [List.map_append, List.map_cons, List.sum_append, List.sum_cons]
  omega

end KeyDirectory.Cache
