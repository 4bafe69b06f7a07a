import KeyDirectory.Moment

/-!
# The cache of remote answers

Answers of the remote directory by request, bounded by the total size of their bodies and by
age.  The operations are put together from single actions on the entries and on the byte
counter, each of which is atomic when several calls share a cache.
-/

namespace KeyDirectory

namespace Cache

/-- The bounds of a cache. -/
structure Limits where
  /-- The greatest total size of the bodies; a cache of size zero stores nothing. -/
  maxBytes : Nat
  /-- The age at which an entry expires, if it does. -/
  maxAge : Option Duration
  /-- How often expired entries are swept out. -/
  sweepEvery : Duration
  deriving DecidableEq, Repr

/-- The time between sweeps. -/
def Limits.standardSweep : Duration := Duration.ofSeconds 60

/-- The bounds in use unless others are set. -/
def Limits.standard : Limits :=
  ⟨25000, some (Duration.ofSeconds 3600), standardSweep⟩

/-- Bounds by size and by age in seconds, where zero stands for no bound on age. -/
def Limits.ofSeconds (maxBytes seconds : Nat) : Limits :=
  ⟨maxBytes, if seconds = 0 then none else some (Duration.ofSeconds seconds), standardSweep⟩

/-- A stored answer. -/
structure Entry where
  body : List UInt8
  /-- The tag by which the remote directory recognises this body. -/
  etag : Option String
  /-- When the answer was stored or last confirmed. -/
  storedAt : Moment
  /-- For how long the answer may be used without asking, if that is bounded. -/
  freshFor : Option Duration
  deriving DecidableEq, Repr

/-- The age of an entry. -/
def Entry.age (e : Entry) (now : Moment) : Duration :=
  e.storedAt.since now

/-- The bytes that an entry counts for. -/
def Entry.size (e : Entry) : Nat :=
  e.body.length

/-- Whether an entry may be used without asking the remote directory. -/
def Entry.isFresh (e : Entry) (now : Moment) : Bool :=
  match e.freshFor with
  | some lifetime => e.age now < lifetime
  | none => true

end Cache

/-- A cache: its entries by key, each key once, and its counters. -/
structure Cache where
  limits : Cache.Limits
  entries : List (String × Cache.Entry)
  bytes : Nat
  hits : Nat
  misses : Nat
  evictions : Nat
  deriving DecidableEq, Repr

namespace Cache

/-- The cache without entries. -/
def empty (limits : Limits) : Cache :=
  ⟨limits, [], 0, 0, 0, 0⟩

/-- Whether the cache stores anything at all. -/
def isEnabled (c : Cache) : Bool :=
  0 < c.limits.maxBytes

/-- The number of entries. -/
def size (c : Cache) : Nat :=
  c.entries.length

/-- The entry of a key, expired or not. -/
def find? (c : Cache) (key : String) : Option Entry :=
  c.entries.lookup key

/-- For how long an answer may be used when the remote directory allows the given time. -/
def freshness (c : Cache) (allowed : Option Duration) : Option Duration :=
  match c.limits.maxAge, allowed with
  | some a, some b => some (min a b)
  | some a, none => some a
  | none, b => b

/-- Whether an entry has reached the greatest age. -/
def isExpired (c : Cache) (now : Moment) (e : Entry) : Bool :=
  match c.limits.maxAge with
  | some maxAge => maxAge ≤ e.age now
  | none => false

/-! ## Single actions -/

/-- Adds to the byte counter. -/
def addBytes (c : Cache) (n : Nat) : Cache :=
  { c with bytes := c.bytes + n }

/-- Takes from the byte counter. -/
def subtractBytes (c : Cache) (n : Nat) : Cache :=
  { c with bytes := c.bytes - n }

/-- The entries with one key changed to an entry. -/
def replaceEntry (key : String) (e : Entry) : List (String × Entry) → List (String × Entry)
  | [] => [(key, e)]
  | (k, old) :: rest => if k = key then (key, e) :: rest else (k, old) :: replaceEntry key e rest

/-- Puts an entry under a key. -/
def putEntry (c : Cache) (key : String) (e : Entry) : Cache :=
  { c with entries := replaceEntry key e c.entries }

/-- Drops the entry of a key. -/
def dropEntry (c : Cache) (key : String) : Cache :=
  { c with entries := c.entries.filter fun (k, _) => k ≠ key }

/-! ## Operations -/

/-- Takes the entry of a key out, expired or not. -/
def remove (c : Cache) (key : String) : Cache × Option Entry :=
  match c.find? key with
  | none => (c, none)
  | some e => ((c.dropEntry key).subtractBytes e.size, some e)

/-- Drops the entry of a key if it is expired, and tells whether it was. -/
def removeExpired (c : Cache) (now : Moment) (key : String) : Cache × Bool :=
  match c.find? key with
  | none => (c, false)
  | some e =>
    if c.isExpired now e then ((c.dropEntry key).subtractBytes e.size, true) else (c, false)

/-- Looks an answer up.  An expired entry is dropped; an entry that is no longer fresh is
returned, so that it can be confirmed. -/
def get (c : Cache) (now : Moment) (key : String) : Cache × Option Entry :=
  match c.find? key with
  | none => ({ c with misses := c.misses + 1 }, none)
  | some e =>
    if c.isExpired now e then
      let c := (c.removeExpired now key).1
      ({ c with misses := c.misses + 1 }, none)
    else ({ c with hits := c.hits + 1 }, some e)

/-- The keys, the one stored longest ago first. -/
def keysByAge (c : Cache) : List String :=
  (c.entries.mergeSort fun a b => a.2.storedAt ≤ b.2.storedAt).map Prod.fst

/-- Takes an entry out to make room. -/
def evict (c : Cache) (key : String) : Cache :=
  match c.remove key with
  | (c, some _) => { c with evictions := c.evictions + 1 }
  | (c, none) => c

/-- Evicts the given keys in order until the size is within bounds. -/
def evictUntilWithin : List String → Cache → Cache
  | [], c => c
  | key :: keys, c =>
    if c.bytes ≤ c.limits.maxBytes then c else evictUntilWithin keys (c.evict key)

/-- Evicts the oldest entries until the size is within bounds. -/
def shrink (c : Cache) : Cache :=
  if c.bytes ≤ c.limits.maxBytes then c else evictUntilWithin c.keysByAge c

/-- Stores an answer, evicting older ones to make room.  A body that is larger than the whole
cache is not stored. -/
def insert (c : Cache) (key : String) (e : Entry) : Cache :=
  if !c.isEnabled || c.limits.maxBytes < e.size then c
  else
    let old := c.find? key
    let c := (c.addBytes e.size).putEntry key e
    let c := match old with
      | some old => c.subtractBytes old.size
      | none => c
    c.shrink

/-- Marks the entry of a key as confirmed now. -/
def refresh (c : Cache) (now : Moment) (key : String) (freshFor : Option Duration) :
    Cache × Option Entry :=
  match c.find? key with
  | none => (c, none)
  | some e =>
    let e := { e with storedAt := now, freshFor := freshFor }
    (c.putEntry key e, some e)

/-- Drops the given keys as far as they are expired, and counts those dropped. -/
def removeAllExpired (now : Moment) : List String → Cache → Cache × Nat
  | [], c => (c, 0)
  | key :: keys, c =>
    let (c, dropped) := c.removeExpired now key
    let (c, count) := removeAllExpired now keys c
    (c, count + if dropped then 1 else 0)

/-- Sweeps expired entries out and counts them. -/
def cleanup (c : Cache) (now : Moment) : Cache × Nat :=
  removeAllExpired now ((c.entries.filter fun (_, e) => c.isExpired now e).map Prod.fst) c

end Cache

end KeyDirectory
