import KeyDirectory.Cache.History
import Mathlib.Algebra.GroupWithZero.Nat

/-!
# Making room

What an insertion owes to the entries that it evicts, without the loop that evicts them.  The
entries are arranged by age, those of one age in any order, and a front of them is cut off that is
as short as it can be for the others to fit.
-/

namespace KeyDirectory.Cache

/-- The total size of some entries. -/
def totalSize (entries : List (String × Entry)) : Nat :=
  (entries.map fun p => p.2.size).sum

/-- The same entries, those stored or confirmed longest ago first. -/
structure IsByAge (arranged entries : List (String × Entry)) : Prop where
  perm : arranged.Perm entries
  sorted : arranged.Pairwise fun a b => a.2.storedAt ≤ b.2.storedAt

/-- Without the first `n` entries the others fit within a size, and with one of these `n` more they
do not. -/
structure IsShortestCut (maxBytes : Nat) (arranged : List (String × Entry)) (n : Nat) : Prop where
  le_length : n ≤ arranged.length
  fits : totalSize (arranged.drop n) ≤ maxBytes
  overflows : ∀ m < n, maxBytes < totalSize (arranged.drop m)

/-- The loop that evicts, which goes through the entries as they are arranged, takes the first `n`
of them out and nothing else: the others are left as they are. -/
structure CutsOff (c : Cache) (arranged : List (String × Entry)) (n : Nat) : Prop where
  cut : IsShortestCut c.limits.maxBytes arranged n
  evicted_eq : evictedUntilWithin (arranged.map Prod.fst) c = (arranged.take n).map Prod.fst
  entries_eq : (evictUntilWithin (arranged.map Prod.fst) c).entries =
    c.entries.filter fun p => p ∉ arranged.take n
  evictions_eq : (evictUntilWithin (arranged.map Prod.fst) c).evictions = c.evictions + n

/-- The entries once an answer has taken its place among them, before room is made. -/
def entriesWith (c : Cache) (key : String) (e : Entry) : List (String × Entry) :=
  replaceEntry key e c.entries

/-- An insertion evicts the first `n` of the entries as they are arranged, and nothing else: the
others are left as they are. -/
structure MakesRoom (c : Cache) (key : String) (e : Entry) (arranged : List (String × Entry))
    (n : Nat) : Prop where
  /-- The answer that the new one replaces no longer counts. -/
  totalSize_add : totalSize arranged + ((c.find? key).map Entry.size).getD 0 = c.bytes + e.size
  byAge : IsByAge arranged (c.entriesWith key e)
  cut : IsShortestCut c.limits.maxBytes arranged n
  evicted_eq : c.evicted key e = (arranged.take n).map Prod.fst
  entries_eq : (c.insert key e).entries =
    (c.entriesWith key e).filter fun p => p ∉ arranged.take n
  evictions_eq : (c.insert key e).evictions = c.evictions + n

end KeyDirectory.Cache
