import KeyDirectory.Cache.Basic

/-!
# Runs of a cache

The operations on a cache as data, and what becomes of a cache when they are carried out one
after the other, each at its own time.  Beside the result of an operation stand the single
actions that it is made of, in their order, and what it adds to the books of a run.
-/

namespace KeyDirectory.Cache

/-- Whether an answer is stored: the cache is in use and the body is not larger than all of it. -/
def accepts (c : Cache) (e : Entry) : Bool :=
  c.isEnabled && decide (e.size ≤ c.limits.maxBytes)

/-! ## Operations -/

/-- An operation on a cache. -/
inductive Operation where
  | get (key : String)
  | insert (key : String) (entry : Entry)
  | remove (key : String)
  | refresh (key : String) (freshFor : Option Duration)
  | cleanup
  | removeExpired (key : String)
  deriving DecidableEq, Repr

namespace Operation

/-- Carries an operation out. -/
def apply (now : Moment) (c : Cache) : Operation → Cache
  | get key => (c.get now key).1
  | insert key e => c.insert key e
  | remove key => (c.remove key).1
  | refresh key freshFor => (c.refresh now key freshFor).1
  | cleanup => (c.cleanup now).1
  | removeExpired key => (c.removeExpired now key).1

end Operation

/-- An operation with the time at which it is carried out. -/
abbrev Timed := Moment × Operation

/-- Carries operations out one after the other. -/
def run (c : Cache) (ops : List Timed) : Cache :=
  ops.foldl (fun c timed => timed.2.apply timed.1 c) c

/-! ## Single actions -/

/-- A single action on the entries or on a counter. -/
inductive Action where
  | addBytes (n : Nat)
  | subtractBytes (n : Nat)
  | putEntry (key : String) (entry : Entry)
  | dropEntry (key : String)
  | countHit
  | countMiss
  | countEviction
  deriving DecidableEq, Repr

namespace Action

/-- Carries an action out. -/
def apply (c : Cache) : Action → Cache
  | addBytes n => c.addBytes n
  | subtractBytes n => c.subtractBytes n
  | putEntry key e => c.putEntry key e
  | dropEntry key => c.dropEntry key
  | countHit => { c with hits := c.hits + 1 }
  | countMiss => { c with misses := c.misses + 1 }
  | countEviction => { c with evictions := c.evictions + 1 }

/-- Whether an action takes no more from the byte counter than is there. -/
def IsCovered (c : Cache) : Action → Prop
  | subtractBytes n => n ≤ c.bytes
  | _ => True

end Action

/-- Carries actions out one after the other. -/
def perform (c : Cache) (actions : List Action) : Cache :=
  actions.foldl Action.apply c

/-- Whether no action in a list takes more from the byte counter than is there when its turn
comes. -/
def Covered : Cache → List Action → Prop
  | _, [] => True
  | c, action :: rest => action.IsCovered c ∧ Covered (action.apply c) rest

/-- The actions that take an entry out. -/
def takingOut (key : String) (e : Entry) : List Action :=
  [.dropEntry key, .subtractBytes e.size]

/-- The actions of `removeExpired`. -/
def expiryActions (c : Cache) (now : Moment) (key : String) : List Action :=
  match c.find? key with
  | none => []
  | some e => if c.isExpired now e then takingOut key e else []

/-- The actions of `evict`. -/
def evictionActions (c : Cache) (key : String) : List Action :=
  match c.find? key with
  | none => []
  | some e => takingOut key e ++ [.countEviction]

/-- The actions of `evictUntilWithin`. -/
def evictionsUntilWithin : List String → Cache → List Action
  | [], _ => []
  | key :: keys, c =>
    if c.bytes ≤ c.limits.maxBytes then []
    else c.evictionActions key ++ evictionsUntilWithin keys (c.perform (c.evictionActions key))

/-- The actions of `removeAllExpired`. -/
def expiriesOf (now : Moment) : List String → Cache → List Action
  | [], _ => []
  | key :: keys, c =>
    c.expiryActions now key ++ expiriesOf now keys (c.perform (c.expiryActions now key))

/-- The actions by which an accepted answer comes into the cache, before room is made. -/
def storingActions (c : Cache) (key : String) (e : Entry) : List Action :=
  [.addBytes e.size, .putEntry key e] ++
    (c.find? key).toList.map fun old => .subtractBytes old.size

namespace Operation

/-- The single actions that an operation is made of. -/
def actions (now : Moment) (c : Cache) : Operation → List Action
  | get key =>
    match c.find? key with
    | none => [.countMiss]
    | some e =>
      if c.isExpired now e then c.expiryActions now key ++ [.countMiss] else [.countHit]
  | insert key e =>
    if c.accepts e then
      let stored := c.perform (c.storingActions key e)
      c.storingActions key e ++
        if stored.bytes ≤ stored.limits.maxBytes then []
        else evictionsUntilWithin stored.keysByAge stored
    else []
  | remove key =>
    match c.find? key with
    | none => []
    | some e => takingOut key e
  | refresh key freshFor =>
    match c.find? key with
    | none => []
    | some e => [.putEntry key { e with storedAt := now, freshFor := freshFor }]
  | cleanup =>
    expiriesOf now ((c.entries.filter fun (_, e) => c.isExpired now e).map Prod.fst) c
  | removeExpired key => c.expiryActions now key

end Operation

/-- The entry that an operation stores, by its key. -/
def Operation.stored (c : Cache) : Operation → List (String × Entry)
  | insert key e => if c.accepts e then [(key, e)] else []
  | _ => []

/-! ## Books -/

/-- What is counted in a run. -/
structure Books where
  /-- The lookups. -/
  lookups : Nat
  /-- The answers stored under a key that was vacant. -/
  additions : Nat
  /-- The entries taken out by `remove`. -/
  removals : Nat
  /-- The entries dropped since they were expired. -/
  expiries : Nat
  deriving DecidableEq, Repr

/-- The books of several operations. -/
def Books.add (a b : Books) : Books :=
  ⟨a.lookups + b.lookups, a.additions + b.additions, a.removals + b.removals,
    a.expiries + b.expiries⟩

/-- The books of no operation. -/
def Books.blank : Books := ⟨0, 0, 0, 0⟩

/-- What an operation adds to the books, as its answer and the entry that it found tell. -/
def Operation.books (now : Moment) (c : Cache) : Operation → Books
  | get key => { Books.blank with
      lookups := 1
      expiries := if (c.find? key).any (c.isExpired now) then 1 else 0 }
  | insert key e => { Books.blank with
      additions := if c.accepts e && (c.find? key).isNone then 1 else 0 }
  | remove key => { Books.blank with removals := if (c.remove key).2.isSome then 1 else 0 }
  | refresh _ _ => Books.blank
  | cleanup => { Books.blank with expiries := (c.cleanup now).2 }
  | removeExpired key => { Books.blank with
      expiries := if (c.removeExpired now key).2 then 1 else 0 }

/-- The books of a run. -/
def books : Cache → List Timed → Books
  | _, [] => .blank
  | c, (now, op) :: ops => (op.books now c).add (books (op.apply now c) ops)

end KeyDirectory.Cache
