import KeyDirectory.Cache.Eviction
import KeyDirectory.Remote.Traffic
import KeyDirectory.Request.KeyPath

/-!
# One entry for each identity

The segments below which the keys of identities are asked for; and what a resolution of one identity
owes to the entry of another, in whatever order the moves of the traffic come.
-/

namespace KeyDirectory

/-- A name under which keys can be asked for. -/
structure KeyPath.IsIdentity (identity : String) : Prop where
  notEmpty : identity ≠ ""
  chars : ∀ c ∈ identity.toList, isIdentityChar c = true

/-- The segments below which others are added: without one empty segment at the end, and without a
root that has no name and stands alone then. -/
def Url.stem (parts : List String) : List String :=
  let kept := if parts.getLast? = some "" then parts.dropLast else parts
  if kept = [""] then [] else kept

namespace RemoteDirectory

open Remote

namespace Call

/-- The identity that a resolution under way is for. -/
def identity? : Call → Option String
  | waiting identity _ _ | answered identity _ _ _ => some identity
  | finished _ => none

/-- The entry that a resolution under way has found. -/
def held? : Call → Option Cache.Entry
  | waiting _ _ stored | answered _ _ stored _ => stored
  | finished _ => none

end Call

namespace Traffic

/-- The identity that a move resolves, if it is a step of a resolution. -/
def resolving? (t : Traffic) : Move → Option String
  | .begin _ identity => some identity
  | .answer i | .takeIn _ i => t.calls[i]?.bind Call.identity?
  | .change _ | .sweep _ => none

/-- The resolution that a move begins or brings further, as the move leaves it. -/
def resolved? (d : RemoteDirectory) (t : Traffic) (move : Move) : Option Call :=
  match move with
  | .begin _ _ => (t.step d move).calls.getLast?
  | .answer i | .takeIn _ i => (t.step d move).calls[i]?
  | .change _ | .sweep _ => none

/-- The entry that a move stores, with the identity that it is stored for. -/
def deposits (d : RemoteDirectory) (t : Traffic) : Move → List (String × Cache.Entry)
  | .takeIn now i =>
    match t.calls[i]? with
    | some (.answered identity _ _ outcome) =>
      ((d.takingIn now identity t.cache outcome).toList.flatMap (·.stored t.cache)).map
        fun (_, e) => (identity, e)
    | _ => []
  | _ => []

/-- The entries that moves one after the other store. -/
def deposited (d : RemoteDirectory) : Traffic → List Move → List (String × Cache.Entry)
  | _, [] => []
  | t, move :: moves => t.deposits d move ++ deposited d (t.step d move) moves

/-- Two states that look the same to a resolution of an identity, whatever else is in the cache. -/
structure SameFor (d : RemoteDirectory) (identity : String) (t t' : Traffic) : Prop where
  limits : t'.cache.limits = t.cache.limits
  entry : t'.cache.find? (d.cacheKey identity) = t.cache.find? (d.cacheKey identity)
  site : t'.site = t.site
  calls : t'.calls = t.calls

/-- A move evicts the entry of a key: it is among those that have to make room for the answer that
the move stores. -/
def Evicts (d : RemoteDirectory) (t : Traffic) (move : Move) (key : String) : Prop :=
  ∃ identity e arranged n, (identity, e) ∈ t.deposits d move ∧
    t.cache.MakesRoom (d.cacheKey identity) e arranged n ∧
    key ∈ (arranged.take n).map Prod.fst

end Traffic

/-- An entry was stored by a resolution of some identity other than the given one, and perhaps
confirmed since. -/
def IsStoredApartFrom (other : String) (stored : List (String × Cache.Entry)) (e : Cache.Entry) :
    Prop :=
  ∃ owner first, (owner, first) ∈ stored ∧ owner ≠ other ∧ first.body = e.body ∧
    first.etag = e.etag

/-- What a step of a resolution of one identity owes to another identity, after a run in which some
entries were stored. -/
structure KeepsApart (d : RemoteDirectory) (stored : List (String × Cache.Entry)) (t : Traffic)
    (move : Move) (identity other : String) : Prop where
  /-- What it comes to does not depend on the entry of the other. -/
  unread : ∀ t', t.SameFor d identity t' → t'.resolved? d move = t.resolved? d move
  /-- What it finds under its key was not stored for the other. -/
  found : ∀ e, t.cache.find? (d.cacheKey identity) = some e → IsStoredApartFrom other stored e
  /-- Nor was what it has found already. -/
  held : ∀ call ∈ t.calls, call.identity? = some identity → ∀ e, call.held? = some e →
    IsStoredApartFrom other stored e
  /-- The entry of the other stays as it is, unless it has to make room. -/
  left : (t.step d move).cache.find? (d.cacheKey other) = t.cache.find? (d.cacheKey other) ∨
    (t.step d move).cache.find? (d.cacheKey other) = none ∧ t.Evicts d move (d.cacheKey other)

end RemoteDirectory

end KeyDirectory
