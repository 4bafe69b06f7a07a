import KeyDirectory.Cache.Run

/-!
# The history of an entry

What the operations of a run do to the entry of one key: which of them end it, and which renew
it.  An entry that a lookup finds can so be traced back to the insertion that it comes from.
-/

namespace KeyDirectory.Cache

/-! ## Evictions -/

/-- The keys that `evictUntilWithin` evicts. -/
def evictedUntilWithin : List String → Cache → List String
  | [], _ => []
  | key :: keys, c =>
    if c.bytes ≤ c.limits.maxBytes then [] else key :: evictedUntilWithin keys (c.evict key)

/-- The keys that an insertion evicts, the first one first. -/
def evicted (c : Cache) (key : String) (e : Entry) : List String :=
  let stored := c.perform (c.storingActions key e)
  if c.accepts e then evictedUntilWithin stored.keysByAge stored else []

/-! ## One operation -/

namespace Operation

/-- Whether an operation ends the entry of a key: takes it out, drops it since it is expired,
replaces it or evicts it. -/
def ends (now : Moment) (c : Cache) (key : String) (e : Entry) : Operation → Bool
  | get k | removeExpired k => k = key && c.isExpired now e
  | insert k new => c.accepts new && (k = key || (c.evicted k new).contains key)
  | remove k => k = key
  | refresh _ _ => false
  | cleanup => c.isExpired now e

/-- What an operation makes of the entry of a key that it does not end. -/
def renew (now : Moment) (key : String) (e : Entry) : Operation → Entry
  | refresh k freshFor => if k = key then { e with storedAt := now, freshFor := freshFor } else e
  | _ => e

end Operation

/-! ## Many operations -/

/-- What operations make of the entry of a key that none of them ends: the last refresh of the
key tells when it was stored and for how long it is fresh. -/
def Entry.renewed (key : String) (e : Entry) (ops : List Timed) : Entry :=
  ops.foldl (fun e timed => timed.2.renew timed.1 key e) e

/-- Whether the entry of a key outlasts operations: none of them ends it. -/
def outlasts (key : String) : Cache → Entry → List Timed → Bool
  | _, _, [] => true
  | c, e, (now, op) :: ops =>
    !op.ends now c key e && outlasts key (op.apply now c) (op.renew now key e) ops

/-- A run goes back to an insertion: the answer was accepted and not evicted at once, and has
outlasted the operations after it. -/
structure Establishes (c : Cache) (key : String) (before : List Timed) (time : Moment)
    (first : Entry) (after : List Timed) : Prop where
  accepted : 0 < c.limits.maxBytes ∧ first.body.length ≤ c.limits.maxBytes
  kept : key ∉ (c.run before).evicted key first
  lasting : outlasts key (c.run (before ++ [(time, .insert key first)])) first after = true

end KeyDirectory.Cache
