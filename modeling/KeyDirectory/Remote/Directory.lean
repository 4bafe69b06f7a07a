import KeyDirectory.Key.Line
import KeyDirectory.Record
import KeyDirectory.Remote.Exchange
import KeyDirectory.Remote.KeyListing
import KeyDirectory.Settings.Basic
import KeyDirectory.Source.Chain

/-!
# The remote directory

Keys from an HTTP interface that lists them as JSON.  Answers are cached by request.  A
resolution is two steps with the exchange between them: `start` looks the request up and either
has the body or knows what to send, `conclude` takes in what came of it.  Between the two steps
other resolutions may change the cache.
-/

namespace KeyDirectory

/-- The remote directory as it is set up. -/
structure RemoteDirectory where
  /-- The URL below which the interface is found. -/
  base : Url
  /-- A token, which is not empty. -/
  token : Option String
  timeout : Duration
  deriving DecidableEq, Repr

namespace RemoteDirectory

open Remote

/-- The failure of a base that is no URL. -/
def badUrl (text reason : String) : Failure :=
  .settings ("invalid API URL " ++ text ++ ": " ++ reason)

/-- Sets the remote directory up. -/
def ofSettings (s : Settings) : Except Failure RemoteDirectory :=
  match Url.parse s.remoteUrl with
  | .error fault => .error (badUrl s.remoteUrl fault.text)
  | .ok base =>
    if base.canBeBase then
      .ok ⟨base, s.token.filter fun token => !token.isEmpty,
        Duration.ofMilliseconds s.remoteTimeoutMs⟩
    else .error (.settings ("API URL cannot be a base: " ++ s.remoteUrl))

/-- The bounds of the cache. -/
def cacheLimits (s : Settings) : Cache.Limits :=
  Cache.Limits.ofSeconds s.cacheBytes s.cacheSeconds

/-- The URL of the keys of an identity. -/
def keysUrl (d : RemoteDirectory) (identity : String) : Url :=
  d.base.below ["users", identity, "keys"]

/-- The key under which the cache holds the answer for an identity. -/
def cacheKey (d : RemoteDirectory) (identity : String) : String :=
  "GET " ++ (d.keysUrl identity).text

/-- The media type that is asked for. -/
def mediaType : String := "application/vnd.github+json"

/-- The name under which requests are sent. -/
def userAgent : String := "keyway/0.1.0"

/-- The request for an identity, given what is stored for it. -/
def request (d : RemoteDirectory) (identity : String) (stored : Option Cache.Entry) : Request where
  url := d.keysUrl identity
  accept := mediaType
  userAgent := userAgent
  bearer := d.token
  ifNoneMatch := stored.bind (·.etag)

/-- What the first step of a resolution leads to. -/
inductive Lookup where
  /-- A stored body may be used without asking. -/
  | fresh (body : List UInt8)
  /-- The request has to be sent; `stored` is the answer that it may confirm. -/
  | ask (request : Request) (stored : Option Cache.Entry)

/-- The first step: looks the answer for an identity up. -/
def start (d : RemoteDirectory) (now : Moment) (identity : String) (cache : Cache) :
    Cache × Lookup :=
  match cache.get now (d.cacheKey identity) with
  | (cache, some stored) =>
    if stored.isFresh now then (cache, .fresh stored.body)
    else (cache, .ask (d.request identity (some stored)) (some stored))
  | (cache, none) => (cache, .ask (d.request identity none) none)

/-- The body that an outcome gives, with what it changes in the cache; none when the remote
directory does not know the identity. -/
def conclude (d : RemoteDirectory) (now : Moment) (identity : String)
    (stored : Option Cache.Entry) (outcome : Outcome) (cache : Cache) :
    Cache × Except Failure (Option (List UInt8)) :=
  match outcome with
  | .error fault => (cache, .error (.remote fault.text))
  | .ok reply =>
    let freshFor := cache.freshness reply.maxAge?
    if reply.status = 304 then
      let (cache, refreshed) := cache.refresh now (d.cacheKey identity) freshFor
      match refreshed.or stored with
      | some entry => (cache, .ok (some entry.body))
      | none => (cache, .error (.remote "304 Not Modified without a cached response"))
    else if reply.status = 404 then (cache, .ok none)
    else if 200 ≤ reply.status ∧ reply.status < 300 then
      match reply.body with
      | .error fault => (cache, .error (.remote fault.text))
      | .ok body =>
        let cache :=
          if reply.status = 200 then
            cache.insert (d.cacheKey identity) ⟨body, reply.etag?, now, freshFor⟩
          else cache
        (cache, .ok (some body))
    else
      (cache,
        .error (.remote ("GitHub returned " ++ statusText reply.status ++ " for " ++ identity)))

/-- What a body says that is no key listing. -/
def badListing : String := "not a key listing"

/-- The answer that a body gives; one key that cannot be read spoils all. -/
def answer (identity : String) (body : Option (List UInt8)) : Answer :=
  match body with
  | none => .error (.notFound identity)
  | some body =>
    match keyLines? body with
    | none => .error (.remote ("JSON error: " ++ badListing))
    | some lines => (Key.parseAll lines).map fun keys => ⟨.remote, keys⟩

variable {m : Type → Type} [Monad m]

/-- What comes of a request when `exchange` carries it out; a request that cannot be sent is
not. -/
def send (exchange : Request → m Outcome) (request : Request) : m Outcome :=
  if request.isSendable then exchange request else pure (.error .unsendable)

/-- Resolves an identity, with the clock read by `now` in each step. -/
def get (d : RemoteDirectory) (now : m Moment) (exchange : Request → m Outcome)
    (identity : String) (cache : Cache) : m (Cache × Answer) := do
  match d.start (← now) identity cache with
  | (cache, .fresh body) => return (cache, answer identity (some body))
  | (cache, .ask request stored) =>
    let outcome ← send exchange request
    let (cache, body) := d.conclude (← now) identity stored outcome cache
    return (cache, body.bind (answer identity))

end RemoteDirectory

end KeyDirectory
