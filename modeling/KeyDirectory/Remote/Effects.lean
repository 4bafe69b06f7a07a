import KeyDirectory.Remote.Run

/-!
# What one resolution does

A resolution with everything that others can see of it: the requests that it has sent, the cache as
it leaves it, and its answer.  While its request is out, other resolutions may do anything to the
cache.
-/

namespace KeyDirectory

namespace Remote

/-- What changes the cache: an answer that confirms what is stored, or a complete one with the
status 200. -/
def IsTakenIn (outcome : Outcome) : Prop :=
  ∃ reply, outcome = .ok reply ∧
    (reply.status = 304 ∨ reply.status = 200 ∧ ∃ body, reply.body = .ok body)

end Remote

namespace RemoteDirectory

open Remote

section

variable {m : Type → Type} [Monad m]

/-- Resolves an identity among others.  `dispatch` is all that is done to have a request sent, and
`meanwhile` what the others do to the cache until there is an outcome. -/
def getAmong (d : RemoteDirectory) (now : m Moment) (dispatch : Request → m Outcome)
    (meanwhile : Cache → m Cache) (identity : String) (cache : Cache) : m (Cache × Answer) := do
  match d.start (← now) identity cache with
  | (cache, .fresh body) => return (cache, answer identity (some body))
  | (cache, .ask request stored) =>
    let outcome ← dispatch request
    let cache ← meanwhile cache
    let (cache, body) := d.conclude (← now) identity stored outcome cache
    return (cache, body.bind (answer identity))

end

/-- A resolution and what goes on around it. -/
structure Errand where
  identity : String
  /-- When the answer is looked up. -/
  begun : Moment
  /-- When the outcome is taken in, if there is one. -/
  ended : Moment
  /-- What comes of a request that is sent. -/
  exchange : Request → Outcome
  /-- What the others do to the cache before that. -/
  meanwhile : Cache → Cache

/-- What is written down on the way. -/
structure Journal where
  clock : Moment
  /-- The requests that were to be sent. -/
  attempts : List Request
  /-- The requests that were sent. -/
  sent : List Request

/-- Reads the clock. -/
def Journal.now : StateM Journal Moment := fun journal => (journal.clock, journal)

namespace Errand

/-- Carries a request out, which takes its time, and writes it down. -/
def carry (e : Errand) (request : Request) : StateM Journal Outcome := fun journal =>
  (e.exchange request, { journal with clock := e.ended, sent := journal.sent ++ [request] })

/-- Has a request sent, and writes down that it was to be. -/
def dispatch (e : Errand) (request : Request) : StateM Journal Outcome := do
  modify fun journal => { journal with attempts := journal.attempts ++ [request] }
  send e.carry request

/-- Lets the others do what they do. -/
def wait (e : Errand) (cache : Cache) : StateM Journal Cache :=
  pure (e.meanwhile cache)

/-- What comes of a request, sent or not. -/
def outcome (e : Errand) (request : Request) : Outcome :=
  if request.isSendable then e.exchange request else .error .unsendable

end Errand

/-- What can be seen of a resolution. -/
structure Account where
  attempts : List Request
  sent : List Request
  /-- The cache as it is left. -/
  cache : Cache
  answer : Answer

/-- Carries a resolution out. -/
def account (d : RemoteDirectory) (e : Errand) (cache : Cache) : Account :=
  let ((cache, answer), journal) :=
    (d.getAmong Journal.now e.dispatch e.wait e.identity cache).run ⟨e.begun, [], []⟩
  ⟨journal.attempts, journal.sent, cache, answer⟩

/-- The lookup that a resolution begins with: what it leaves of the cache and what it finds. -/
def lookup (d : RemoteDirectory) (e : Errand) (cache : Cache) : Cache × Option Cache.Entry :=
  cache.get e.begun (d.cacheKey e.identity)

/-! ## What is expected of a resolution -/

/-- The request for an identity by the settings: it carries the tag of what was found, if that has
one, and the token that is set, unless it is empty. -/
structure IsRequest (d : RemoteDirectory) (s : Settings) (identity : String)
    (found : Option Cache.Entry) (request : Request) : Prop where
  url : request.url = d.keysUrl identity
  tag : ∀ tag, request.ifNoneMatch = some tag ↔ ∃ entry, found = some entry ∧ entry.etag = some tag
  token : ∀ token, request.bearer = some token ↔ s.token = some token ∧ token ≠ ""

/-- The answer that a body gives: the keys of its lines in their order, as those of the remote
directory, unless it is no key listing or some line cannot be read. -/
structure Gives (body : List UInt8) (a : Answer) : Prop where
  noListing : keyLines? body = none → a = .error (.remote "JSON error: not a key listing")
  spoiled : ∀ lines failure, keyLines? body = some lines →
    Key.parseAll lines = .error failure → a = .error failure
  listed : ∀ lines keys, keyLines? body = some lines → Key.parseAll lines = .ok keys →
    a = .ok ⟨.remote, keys⟩

/-- What a resolution has to do with an outcome, given what its lookup found and the cache as the
others left it. -/
structure Handles (d : RemoteDirectory) (e : Errand) (found : Option Cache.Entry) (before : Cache)
    (outcome : Outcome) (a : Account) : Prop where
  untouched : ¬ IsTakenIn outcome → a.cache = before
  lasting : ¬ IsTakenIn outcome → ∀ entry, found = some entry →
    before.find? (d.cacheKey e.identity) = some entry → ∀ later,
      before.isExpired later entry = false →
        (a.cache.get later (d.cacheKey e.identity)).2 = some entry
  failed : ∀ fault, outcome = .error fault → a.answer = .error (.remote fault.text)
  absent : ∀ reply, outcome = .ok reply → reply.status = 404 →
    a.answer = .error (.notFound e.identity)
  refused : ∀ reply, outcome = .ok reply → reply.isSuccess = false → reply.status ≠ 304 →
    reply.status ≠ 404 → a.answer = .error (.remote
      ("GitHub returned " ++ statusText reply.status ++ " for " ++ e.identity))
  brokenOff : ∀ reply fault, outcome = .ok reply → reply.isSuccess = true →
    reply.body = .error fault → a.answer = .error (.remote fault.text)
  used : ∀ reply body, outcome = .ok reply → reply.isSuccess = true → reply.body = .ok body →
    Gives body a.answer
  confirmed : ∀ reply entry, outcome = .ok reply → reply.status = 304 → found = some entry →
    Gives ((before.find? (d.cacheKey e.identity)).getD entry).body a.answer

/-- The detail of the failure that an answer confirms something that is not there. -/
def missingDetail : String :=
  "304 Not Modified without a cached response"

/-- All that a resolution does.  What is found fresh is used and nothing is sent.  Else one request
is to be sent, and is sent if it can be; its outcome is taken in as the cache then is.  What was
found is never missed.  Every failure but that there is no such identity is fatal.  When the others
do nothing, this is how the directory resolves. -/
structure Behaves (d : RemoteDirectory) (s : Settings) (e : Errand) (cache : Cache)
    (a : Account) : Prop where
  fresh : ∀ entry, (d.lookup e cache).2 = some entry → entry.isFresh e.begun = true →
    a.attempts = [] ∧ a.sent = [] ∧ a.cache = (d.lookup e cache).1 ∧ Gives entry.body a.answer
  asked : (∀ entry, (d.lookup e cache).2 = some entry → entry.isFresh e.begun = false) →
    ∃ request, d.IsRequest s e.identity (d.lookup e cache).2 request ∧ a.attempts = [request] ∧
      a.sent = (if request.isSendable then [request] else []) ∧
      (request.isSendable = false → a.answer = .error (.remote "the request cannot be sent")) ∧
      d.Handles e (d.lookup e cache).2 (e.meanwhile (d.lookup e cache).1) (e.outcome request) a
  missed : (d.lookup e cache).2.isSome = true → a.answer ≠ .error (.remote missingDetail)
  fatal : ∀ failure, a.answer = .error failure → failure ≠ .notFound e.identity →
    failure.kind = .fatal
  alone : (∀ c, e.meanwhile c = c) → (a.cache, a.answer) =
    ((d.get Journal.now e.carry e.identity cache).run ⟨e.begun, [], []⟩).1

end RemoteDirectory

end KeyDirectory
