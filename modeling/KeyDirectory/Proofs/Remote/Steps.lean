import KeyDirectory.Proofs.Cache.Operations
import KeyDirectory.Proofs.Key.Line
import KeyDirectory.Remote.Run

/-!
# The two steps of a resolution

What the first step makes of the stored answer, and what the second makes of an outcome.

* `start_of_fresh`, `start_of_stale`: the first step answers at once, or asks with the tag of
  what is stored.
* `conclude_fst`, `takingIn_eq_some_iff`: a confirmation refreshes, a complete answer with status
  200 is stored, and nothing else touches the cache.
* `conclude_snd_congr`: but for a confirmation, the second step answers the same whatever the
  cache holds.
* `conclude_eq_error`, `answer_eq_error`: how a resolution can fail.
-/

namespace KeyDirectory.RemoteDirectory

open Remote

/-- The cache key is the method and the address. -/
lemma cacheKey_eq (d : RemoteDirectory) (identity : String) :
    d.cacheKey identity = "GET " ++ d.urlText identity := rfl

/-- Different addresses have different cache keys. -/
lemma cacheKey_inj {url url' : String} (h : "GET " ++ url = "GET " ++ url') : url = url' :=
  (String.append_right_inj "GET ").mp h

/-- Whether a request can be sent depends neither on the identity nor on what is stored. -/
lemma isSendable_request (d : RemoteDirectory) (identity identity' : String)
    (stored stored' : Option Cache.Entry) :
    (d.request identity stored).isSendable = (d.request identity' stored').isSendable := by
  unfold Request.isSendable request keysUrl Url.below
  rcases d.base.path with _ | _ <;> rfl

/-! ## The first step -/

/-- A fresh entry is answered from, and nothing is asked. -/
lemma start_of_fresh {d : RemoteDirectory} {now : Moment} {identity : String} {cache : Cache}
    {e : Cache.Entry} (hfound : (cache.get now (d.cacheKey identity)).2 = some e)
    (hfresh : e.isFresh now = true) :
    d.start now identity cache =
      ((cache.get now (d.cacheKey identity)).1, .fresh e.body) := by
  unfold start
  rcases hget : cache.get now (d.cacheKey identity) with ⟨cache', found⟩
  rw [hget] at hfound
  simp only at hfound
  subst hfound
  simp [hfresh]

/-- Without a fresh entry the call asks, with the tag of what it found. -/
lemma start_of_stale {d : RemoteDirectory} {now : Moment} {identity : String} {cache : Cache}
    (hstale : ∀ e, (cache.get now (d.cacheKey identity)).2 = some e → e.isFresh now = false) :
    d.start now identity cache =
      ((cache.get now (d.cacheKey identity)).1,
        .ask (d.request identity (cache.get now (d.cacheKey identity)).2)
          (cache.get now (d.cacheKey identity)).2) := by
  unfold start
  rcases hget : cache.get now (d.cacheKey identity) with ⟨cache', found⟩
  rw [hget] at hstale
  rcases found with _ | e
  · rfl
  · simp [hstale e rfl]

/-! ## The second step -/

/-- Whether an outcome confirms what is stored. -/
def IsConfirmation (outcome : Outcome) : Prop :=
  ∃ reply, outcome = .ok reply ∧ reply.status = 304

/-- A confirmation refreshes what is cached and answers from it. -/
lemma conclude_of_confirmation (d : RemoteDirectory) (now : Moment) (identity : String)
    (stored : Option Cache.Entry) {reply : Reply} (h : reply.status = 304) (cache : Cache) :
    d.conclude now identity stored (.ok reply) cache =
      let refreshed := cache.refresh now (d.cacheKey identity) (cache.freshness reply.maxAge?)
      (refreshed.1, match refreshed.2.or stored with
        | some e => .ok (some e.body)
        | none => .error (.remote "304 Not Modified without a cached response")) := by
  unfold conclude
  simp only [h, if_true]
  rcases (cache.refresh now (d.cacheKey identity) (cache.freshness reply.maxAge?)).2.or stored
    with _ | e <;> rfl

/-- A body is stored with its tag and answered from. -/
lemma conclude_of_ok (d : RemoteDirectory) (now : Moment) (identity : String)
    (stored : Option Cache.Entry) {reply : Reply} (h : reply.status = 200) {body : List UInt8}
    (hbody : reply.body = .ok body) (cache : Cache) :
    d.conclude now identity stored (.ok reply) cache =
      (cache.insert (d.cacheKey identity)
          ⟨body, reply.etag?, now, cache.freshness reply.maxAge?⟩, .ok (some body)) := by
  unfold conclude
  simp [h, hbody]

/-- The second step carries out the operation that takes the outcome in, and nothing else. -/
lemma conclude_fst (d : RemoteDirectory) (now : Moment) (identity : String)
    (stored : Option Cache.Entry) (outcome : Outcome) (cache : Cache) :
    (d.conclude now identity stored outcome cache).1 =
      (d.takingIn now identity cache outcome).elim cache fun op => op.apply now cache := by
  rcases outcome with fault | reply
  · rfl
  · by_cases hconfirmed : reply.status = 304
    · rw [conclude_of_confirmation _ _ _ _ hconfirmed]
      unfold takingIn
      simp only [hconfirmed, if_true]
      rfl
    · rcases hbody : reply.body with fault | body
      · unfold conclude takingIn
        simp only [hconfirmed, if_false, hbody]
        split_ifs <;> rfl
      · by_cases hok : reply.status = 200
        · rw [conclude_of_ok _ _ _ _ hok hbody]
          unfold takingIn
          simp [hbody, hok]
          rfl
        · unfold conclude takingIn
          simp only [hconfirmed, if_false, hbody, hok]
          split_ifs <;> rfl

/-- An outcome is taken in by a refresh if it confirms, and by an insertion if it is complete and
has the status 200. -/
lemma takingIn_eq_some_iff {d : RemoteDirectory} {now : Moment} {identity : String}
    {cache : Cache} {outcome : Outcome} {op : Cache.Operation} :
    d.takingIn now identity cache outcome = some op ↔
      (∃ reply, outcome = .ok reply ∧ reply.status = 304 ∧
        op = .refresh (d.cacheKey identity) (cache.freshness reply.maxAge?)) ∨
      ∃ reply body, outcome = .ok reply ∧ reply.status = 200 ∧ reply.body = .ok body ∧
        op = .insert (d.cacheKey identity)
          ⟨body, reply.etag?, now, cache.freshness reply.maxAge?⟩ := by
  rcases outcome with fault | reply
  · simp [takingIn]
  · by_cases hconfirmed : reply.status = 304
    · simp [takingIn, hconfirmed, eq_comm]
    · rcases hbody : reply.body with fault | body
      · simp [takingIn, hconfirmed, hbody]
      · by_cases hok : reply.status = 200
        · simp [takingIn, hbody, hok, eq_comm]
        · simp [takingIn, hconfirmed, hbody, hok]

/-- But for a confirmation, the answer does not depend on the cache or the time. -/
lemma conclude_snd_congr (d : RemoteDirectory) (now now' : Moment) (identity : String)
    (stored stored' : Option Cache.Entry) {outcome : Outcome} (h : ¬ IsConfirmation outcome)
    (cache cache' : Cache) :
    (d.conclude now identity stored outcome cache).2 =
      (d.conclude now' identity stored' outcome cache').2 := by
  rcases outcome with fault | reply
  · rfl
  · have hstatus : reply.status ≠ 304 := fun heq => h ⟨reply, rfl, heq⟩
    unfold conclude
    simp only [hstatus, if_false]
    rcases reply.body with fault | body
    · split_ifs <;> rfl
    · by_cases hok : reply.status = 200
      · simp [hok]
      · simp only [hok, if_false]
        split_ifs <;> rfl

/-- A success gives its body. -/
lemma conclude_snd_of_success (d : RemoteDirectory) (now : Moment) (identity : String)
    (stored : Option Cache.Entry) {reply : Reply} (h : reply.isSuccess = true)
    {body : List UInt8} (hbody : reply.body = .ok body) (cache : Cache) :
    (d.conclude now identity stored (.ok reply) cache).2 = .ok (some body) := by
  unfold Reply.isSuccess at h
  rw [Bool.and_eq_true, decide_eq_true_eq, decide_eq_true_eq] at h
  have hconfirmed : reply.status ≠ 304 := by omega
  have habsent : reply.status ≠ 404 := by omega
  unfold conclude
  simp [hconfirmed, habsent, h.1, h.2, hbody]

/-- The second step fails in one way only. -/
lemma conclude_eq_error {d : RemoteDirectory} {now : Moment} {identity : String}
    {stored : Option Cache.Entry} {outcome : Outcome} {cache : Cache} {failure : Failure}
    (h : (d.conclude now identity stored outcome cache).2 = .error failure) :
    ∃ detail, failure = .remote detail := by
  unfold conclude at h
  rcases outcome with fault | reply
  · exact ⟨_, (Except.error.inj h).symm⟩
  · dsimp only at h
    split_ifs at h with hconfirmed habsent hsuccess hok
    · split at h
      · cases h
      · exact ⟨_, (Except.error.inj h).symm⟩
    · split at h
      · exact ⟨_, (Except.error.inj h).symm⟩
      · cases h
    · split at h
      · exact ⟨_, (Except.error.inj h).symm⟩
      · cases h
    · exact ⟨_, (Except.error.inj h).symm⟩

/-- Taking in an outcome leaves the bounds of the cache alone. -/
lemma limits_conclude (d : RemoteDirectory) (now : Moment) (identity : String)
    (stored : Option Cache.Entry) (outcome : Outcome) (cache : Cache) :
    (d.conclude now identity stored outcome cache).1.limits = cache.limits := by
  rw [conclude_fst]
  rcases d.takingIn now identity cache outcome with _ | op
  · rfl
  · exact Cache.limits_apply now cache op

/-- The freshness a cache grants depends on its limits only. -/
lemma freshness_congr {c c' : Cache} (h : c.limits = c'.limits) (allowed : Option Duration) :
    c.freshness allowed = c'.freshness allowed := by
  unfold Cache.freshness
  rw [h]

/-! ## The answer -/

/-- Why a body gives no keys: there is none, it is no listing, or a key in it cannot be read. -/
lemma answer_eq_error {identity : String} {body : Option (List UInt8)} {failure : Failure}
    (h : answer identity body = .error failure) :
    failure = .notFound identity ∨ failure = .remote ("JSON error: " ++ badListing) ∨
      ∃ detail, failure = .invalidKey detail := by
  unfold answer at h
  split at h
  · exact .inl (Except.error.inj h).symm
  · split at h
    · exact .inr (.inl (Except.error.inj h).symm)
    · rename_i lines _
      rcases hparse : Key.parseAll lines with own | keys
      · rw [hparse] at h
        cases h
        exact .inr (.inr (Key.parseAllFrom_eq_error hparse))
      · rw [hparse] at h
        cases h

end KeyDirectory.RemoteDirectory
