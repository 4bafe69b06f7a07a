import KeyDirectory.Cache.Run
import KeyDirectory.Remote.Directory

/-!
# Runs of resolutions

Resolutions at the remote directory one after the other, over one cache.  Between any two of
them time passes, and the site that answers may be a different one each time: the answer to a
URL, its tag and the time for which it may be used can all have changed.  A diary tells of each
resolution when it took place, whether anything was exchanged, and what it answered.
-/

namespace KeyDirectory

namespace Remote

/-- A site as it stands at one time: what comes of a request, by the text of its URL and the tag
that it carries, if it does. -/
abbrev Site := String → Option String → Outcome

/-- Whether a reply brings what was asked for. -/
def Reply.isSuccess (r : Reply) : Bool :=
  200 ≤ r.status && r.status < 300

/-- The answer that a site now has for a URL is this body under this tag. -/
def Site.Holds (s : Site) (url : String) (body : List UInt8) (tag : Option String) : Prop :=
  ∃ reply, s url none = .ok reply ∧ reply.isSuccess = true ∧ reply.body = .ok body ∧
    reply.etag? = tag

/-- What a site may be expected to do with a tag: it either disregards the tag, or confirms that
the tag is that of the body that it now has.  An answer that is no success has no body to
confirm. -/
structure Site.IsHonest (s : Site) : Prop where
  confirms : ∀ url tag reply, s url tag = .ok reply → reply.status = 304 →
    ∃ body, tag.isSome = true ∧ s.Holds url body tag
  otherwise : ∀ url tag, s url tag = s url none ∨
    ∃ reply, s url tag = .ok reply ∧ reply.status = 304

/-- A site whose answer to every URL is one body, for a minute. -/
def Site.steady (body : List UInt8) (tag : String) : Site := fun _ sent =>
  if sent = some tag then .ok ⟨304, [], .ok []⟩
  else .ok ⟨200, [("etag", Text.Utf8.encodeText tag),
    ("cache-control", Text.Utf8.encodeText "max-age=60")], .ok body⟩

/-- Sites that use no tag for two bodies of one URL. -/
def TagsAgree (sites : List Site) : Prop :=
  ∀ s ∈ sites, ∀ s' ∈ sites, ∀ url tag body body',
    s.Holds url body (some tag) → s'.Holds url body' (some tag) → body = body'

end Remote

namespace RemoteDirectory

open Remote

/-- The remote directory at the root of a host, asked without a token. -/
def atHost (host : String) : RemoteDirectory :=
  ⟨⟨"https", some ⟨"", none, .name host, none⟩, .segments [""], none, none⟩, none,
    Duration.ofSeconds 10⟩

/-- The operation on the cache by which an outcome is taken in, if there is one. -/
def takingIn (d : RemoteDirectory) (now : Moment) (identity : String) (cache : Cache) :
    Outcome → Option Cache.Operation
  | .error _ => none
  | .ok reply =>
    if reply.status = 304 then
      some (.refresh (d.cacheKey identity) (cache.freshness reply.maxAge?))
    else
      match reply.body with
      | .error _ => none
      | .ok body =>
        if reply.status = 200 then
          some (.insert (d.cacheKey identity)
            ⟨body, reply.etag?, now, cache.freshness reply.maxAge?⟩)
        else none

/-- A resolution in a run. -/
structure Visit where
  identity : String
  /-- The time that passes before it. -/
  pause : Duration
  /-- How long an exchange takes, if there is one. -/
  delay : Duration
  /-- The site that answers. -/
  site : Site

/-- What goes on around a resolution. -/
structure World where
  clock : Moment
  /-- What came of the exchange, once there was one. -/
  exchanged : Option Outcome

/-- Reads the clock. -/
def World.now : StateM World Moment := fun world => (world.clock, world)

/-- The exchange with the site of a visit, which takes its time. -/
def Visit.exchange (v : Visit) (request : Request) : StateM World Outcome := fun world =>
  let outcome := v.site request.url.text request.ifNoneMatch
  (outcome, ⟨world.clock.after v.delay, some outcome⟩)

/-- What a diary tells of a resolution. -/
structure Note where
  visit : Visit
  /-- When the answer was looked up. -/
  begun : Moment
  /-- What came of the exchange, if there was one. -/
  exchanged : Option Outcome
  /-- When the resolution was over. -/
  ended : Moment
  answer : Answer

/-- Carries a resolution out. -/
def attend (d : RemoteDirectory) (v : Visit) (clock : Moment) (cache : Cache) : Cache × Note :=
  let begun := clock.after v.pause
  let ((cache, answer), world) := (d.get World.now v.exchange v.identity cache).run ⟨begun, none⟩
  (cache, ⟨v, begun, world.exchanged, world.clock, answer⟩)

/-- The diary of resolutions one after the other. -/
def diary (d : RemoteDirectory) : Moment → Cache → List Visit → List Note
  | _, _, [] => []
  | clock, cache, v :: visits =>
    let (cache, note) := d.attend v clock cache
    note :: diary d note.ended cache visits

/-- The URL that is asked for an identity, as text. -/
def urlText (d : RemoteDirectory) (identity : String) : String :=
  (d.keysUrl identity).text

/-- What a site makes the remote directory answer when the cache is disabled. -/
def uncachedAnswer (d : RemoteDirectory) (limits : Cache.Limits) (now : Moment) (site : Site)
    (identity : String) : Answer :=
  let exchange (request : Request) : Id Outcome := site request.url.text request.ifNoneMatch
  (d.get (pure now) exchange identity (.empty { limits with maxBytes := 0 })).2

/-! ## What a diary is held against -/

/-- The answer of a resolution that asked, or that had no request that could be sent, is the one
that the remote directory gives without a cache at that time. -/
def Note.IsDirect (d : RemoteDirectory) (limits : Cache.Limits) (n : Note) : Prop :=
  (n.exchanged.isSome = true ∨ (d.request n.visit.identity none).isSendable = false) ∧
    n.answer = d.uncachedAnswer limits n.begun n.visit.site n.visit.identity

/-- The answer of a resolution that did not ask is the one that the remote directory would have
given without a cache when the last exchange about the same URL was over.  That exchange ended
with the status 200 or 304, less long ago than the cache and the reply allow. -/
def Note.IsStored (d : RemoteDirectory) (limits : Cache.Limits) (earlier : List Note)
    (n : Note) : Prop :=
  n.exchanged = none ∧ ∃ before source between reply,
    earlier = before ++ source :: between ∧
    d.urlText source.visit.identity = d.urlText n.visit.identity ∧
    source.exchanged = some (.ok reply) ∧ (reply.status = 200 ∨ reply.status = 304) ∧
    (∀ m ∈ between, d.urlText m.visit.identity = d.urlText n.visit.identity →
      m.exchanged = none) ∧
    n.answer = d.uncachedAnswer limits source.ended source.visit.site n.visit.identity ∧
    (∀ maxAge, limits.maxAge = some maxAge → source.ended.since n.begun < maxAge) ∧
    (∀ maxAge, reply.maxAge? = some maxAge → source.ended.since n.begun < maxAge)

end RemoteDirectory

end KeyDirectory
