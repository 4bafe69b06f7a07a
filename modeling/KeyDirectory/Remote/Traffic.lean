import KeyDirectory.Remote.Run

/-!
# Resolutions at the same time

Any number of resolutions over one cache, each at the first step, at the exchange or at the
second step, while the site that they ask changes.  Each move of the traffic is one step of one
resolution, one answer of the site, or something that happens beside them; they come in any
order.
-/

namespace KeyDirectory.RemoteDirectory

open Remote

/-- A resolution on its way. -/
inductive Call where
  /-- The request is sent; `stored` is the answer that it may confirm. -/
  | waiting (identity : String) (request : Request) (stored : Option Cache.Entry)
  /-- There is an outcome, which is still to be taken in. -/
  | answered (identity : String) (request : Request) (stored : Option Cache.Entry)
    (outcome : Outcome)
  | finished (body : Except Failure (Option (List UInt8)))

/-- Whether a resolution of an identity sent a tag and got it confirmed. -/
def Call.isConfirmed (identity tag : String) : Call → Bool
  | answered name request _ (.ok reply) =>
    name = identity && reply.status = 304 && request.ifNoneMatch = some tag
  | _ => false

/-- Resolutions over one cache. -/
structure Traffic where
  cache : Cache
  /-- The site as it now is. -/
  site : Site
  calls : List Call
  /-- Every entry that was stored so far, by its key and as it was when it was stored. -/
  kept : List (String × Cache.Entry)

/-- What can happen next. -/
inductive Move where
  /-- A resolution begins with its first step. -/
  | begin (now : Moment) (identity : String)
  /-- The site answers a resolution. -/
  | answer (i : Nat)
  /-- A resolution does its second step. -/
  | takeIn (now : Moment) (i : Nat)
  /-- The site changes. -/
  | change (site : Site)
  /-- Expired entries are swept out. -/
  | sweep (now : Moment)

namespace Traffic

/-- No resolutions yet, and nothing in the cache. -/
def start (limits : Cache.Limits) (site : Site) : Traffic :=
  ⟨.empty limits, site, [], []⟩

/-- A resolution begins.  A request that cannot be sent is answered at once. -/
def begin (d : RemoteDirectory) (t : Traffic) (now : Moment) (identity : String) : Traffic :=
  match d.start now identity t.cache with
  | (cache, .fresh body) => { t with cache, calls := t.calls ++ [.finished (.ok (some body))] }
  | (cache, .ask request stored) =>
    let call : Call :=
      if request.isSendable then .waiting identity request stored
      else .answered identity request stored (.error .unsendable)
    { t with cache, calls := t.calls ++ [call] }

/-- The site answers a resolution that waits for it. -/
def answer (t : Traffic) (i : Nat) : Traffic :=
  match t.calls[i]? with
  | some (.waiting identity request stored) =>
    let outcome := t.site request.url.text request.ifNoneMatch
    { t with calls := t.calls.set i (.answered identity request stored outcome) }
  | _ => t

/-- A resolution takes in the outcome that it got. -/
def takeIn (d : RemoteDirectory) (t : Traffic) (now : Moment) (i : Nat) : Traffic :=
  match t.calls[i]? with
  | some (.answered identity _ stored outcome) =>
    let (cache, body) := d.conclude now identity stored outcome t.cache
    let taken := (d.takingIn now identity t.cache outcome).toList
    { t with
      cache
      calls := t.calls.set i (.finished body)
      kept := t.kept ++ taken.flatMap (·.stored t.cache) }
  | _ => t

/-- One move; a resolution that is not at the right place does not move. -/
def step (d : RemoteDirectory) (t : Traffic) : Move → Traffic
  | .begin now identity => t.begin d now identity
  | .answer i => t.answer i
  | .takeIn now i => t.takeIn d now i
  | .change site => { t with site }
  | .sweep now => { t with cache := (t.cache.cleanup now).1 }

/-- Moves one after the other. -/
def run (d : RemoteDirectory) (t : Traffic) (moves : List Move) : Traffic :=
  moves.foldl (step d) t

/-- The entries that the second step of a resolution puts in place, by their keys. -/
def renewals (d : RemoteDirectory) (t : Traffic) (now : Moment) (i : Nat) :
    List (String × Cache.Entry) :=
  match t.calls[i]? with
  | some (.answered identity _ _ outcome) =>
    (d.takingIn now identity t.cache outcome).toList.flatMap fun op =>
      (op.actions now t.cache).filterMap fun
        | .putEntry key e => some (key, e)
        | _ => none
  | _ => []

/-- What the second step of a resolution owes to the tag that its request was sent with: the body
that it resolves from was stored under that tag, and so was every entry that it renews. -/
structure KeepsTag (d : RemoteDirectory) (t : Traffic) (now : Moment) (i : Nat)
    (key tag : String) : Prop where
  body : ∃ e, (key, e) ∈ t.kept ∧ e.etag = some tag ∧
    (t.takeIn d now i).calls[i]? = some (.finished (.ok (some e.body)))
  renewed : ∀ entry ∈ t.renewals d now i, entry.2.etag = some tag

end Traffic

end KeyDirectory.RemoteDirectory
