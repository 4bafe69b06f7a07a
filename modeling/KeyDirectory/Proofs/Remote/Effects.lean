import KeyDirectory.Proofs.Remote.Steps
import KeyDirectory.Remote.Effects

/-!
# The effects of one resolution

Whether a request is sent is decided by the lookup alone, and what is done about its outcome by the
second step, which gets the cache as others left it.

* `account_of_fresh`, `account_of_asked`: the two ways a resolution can go.
* `account_alone`: when the others do nothing, it goes as it does by itself.
* `handles_conclude`: what the second step does about an outcome.
* `account_behaves`: the result.
-/

namespace KeyDirectory.RemoteDirectory

open Remote

/-- When the others do nothing, this is a resolution as it is carried out by itself. -/
lemma getAmong_pure {m : Type → Type} [Monad m] [LawfulMonad m] (d : RemoteDirectory)
    (now : m Moment) (exchange : Request → m Outcome) (identity : String) (cache : Cache) :
    d.getAmong now (send exchange) pure identity cache = d.get now exchange identity cache := by
  unfold getAmong get
  apply bind_congr
  intro begun
  rcases d.start begun identity cache with ⟨looked, body | ⟨request, stored⟩⟩
  · rfl
  · simp only [pure_bind]

variable {d : RemoteDirectory} {e : Errand} {cache : Cache}

/-! ## The request -/

/-- The request of a directory built from `s` has the fields the settings ask for. -/
lemma isRequest_request {s : Settings} (h : ofSettings s = .ok d) (identity : String)
    (found : Option Cache.Entry) : d.IsRequest s identity found (d.request identity found) := by
  have htoken : d.token = s.token.filter fun token => !token.isEmpty := by
    unfold ofSettings at h
    split at h
    · cases h
    · split_ifs at h
      cases h
      rfl
  constructor
  case url => rfl
  case tag =>
    intro tag
    exact Option.bind_eq_some_iff
  case token =>
    intro token
    show d.token = some token ↔ _
    rw [htoken, Option.filter_eq_some_iff]
    simp

/-! ## The two ways -/

/-- A lookup either finds a fresh entry or finds none. -/
lemma fresh_or_stale (d : RemoteDirectory) (e : Errand) (cache : Cache) :
    (∃ entry, (d.lookup e cache).2 = some entry ∧ entry.isFresh e.begun = true) ∨
      ∀ entry, (d.lookup e cache).2 = some entry → entry.isFresh e.begun = false := by
  rcases hfound : (d.lookup e cache).2 with _ | entry
  · right
    rintro entry ⟨⟩
  · rcases hfresh : entry.isFresh e.begun with _ | _
    · right
      rintro entry ⟨⟩
      exact hfresh
    · exact .inl ⟨entry, rfl, hfresh⟩

section

variable {dispatch : Request → StateM Journal Outcome} {meanwhile : Cache → StateM Journal Cache}

/-- A fresh entry answers at once: nothing is sent and nobody waits. -/
lemma run_getAmong_of_fresh {entry : Cache.Entry} (hfound : (d.lookup e cache).2 = some entry)
    (hfresh : entry.isFresh e.begun = true) :
    (d.getAmong Journal.now dispatch meanwhile e.identity cache).run ⟨e.begun, [], []⟩ =
      (((d.lookup e cache).1, answer e.identity (some entry.body)), ⟨e.begun, [], []⟩) := by
  unfold getAmong
  simp only [Journal.now, bind, StateT.bind, StateT.run, start_of_fresh hfound hfresh]
  rfl

/-- Without a fresh entry the run sends one request, waits, and concludes from the outcome. -/
lemma run_getAmong_of_asked
    (hstale : ∀ entry, (d.lookup e cache).2 = some entry → entry.isFresh e.begun = false) :
    (d.getAmong Journal.now dispatch meanwhile e.identity cache).run ⟨e.begun, [], []⟩ =
      let found := (d.lookup e cache).2
      let dispatched := dispatch (d.request e.identity found) ⟨e.begun, [], []⟩
      let left := meanwhile (d.lookup e cache).1 dispatched.2
      let concluded := d.conclude left.2.clock e.identity found dispatched.1 left.1
      ((concluded.1, concluded.2.bind (answer e.identity)), left.2) := by
  unfold getAmong
  simp only [Journal.now, bind, StateT.bind, StateT.run, start_of_stale hstale]
  rfl

end

/-- What comes of a request, and what is written down of it, once it is sent or not. -/
lemma send_carry (e : Errand) (request : Request) (journal : Journal) :
    send e.carry request journal = (e.outcome request,
      ⟨if request.isSendable then e.ended else journal.clock, journal.attempts,
        journal.sent ++ if request.isSendable then [request] else []⟩) := by
  unfold send Errand.outcome
  by_cases hsend : request.isSendable = true
  · rw [if_pos hsend, if_pos hsend, if_pos hsend, if_pos hsend]
    rfl
  · rw [if_neg hsend, if_neg hsend, if_neg hsend, if_neg hsend, List.append_nil]
    rfl

/-- Dispatching notes the attempt and then sends. -/
lemma dispatch_apply (e : Errand) (request : Request) (journal : Journal) :
    e.dispatch request journal =
      send e.carry request { journal with attempts := journal.attempts ++ [request] } := rfl

/-- While the run waits, the cache is what the others make of it. -/
lemma wait_apply (e : Errand) (cache : Cache) (journal : Journal) :
    e.wait cache journal = (e.meanwhile cache, journal) := rfl

/-- A request that is not sent takes no time, but then the time does not matter. -/
lemma conclude_outcome (d : RemoteDirectory) (e : Errand) (now : Moment) (request : Request)
    (found : Option Cache.Entry) (cache : Cache) :
    d.conclude (if request.isSendable then e.ended else now) e.identity found (e.outcome request)
      cache = d.conclude e.ended e.identity found (e.outcome request) cache := by
  unfold Errand.outcome
  by_cases hsend : request.isSendable = true
  · rw [if_pos hsend, if_pos hsend]
  · rw [if_neg hsend, if_neg hsend]
    rfl

/-- A fresh entry leaves an account of no request at all. -/
lemma account_of_fresh {entry : Cache.Entry} (hfound : (d.lookup e cache).2 = some entry)
    (hfresh : entry.isFresh e.begun = true) :
    d.account e cache =
      ⟨[], [], (d.lookup e cache).1, answer e.identity (some entry.body)⟩ := by
  unfold account
  rw [run_getAmong_of_fresh hfound hfresh]

/-- Without a fresh entry the account is that of one request and its outcome. -/
lemma account_of_asked
    (hstale : ∀ entry, (d.lookup e cache).2 = some entry → entry.isFresh e.begun = false) :
    d.account e cache =
      let found := (d.lookup e cache).2
      let request := d.request e.identity found
      let concluded := d.conclude e.ended e.identity found (e.outcome request)
        (e.meanwhile (d.lookup e cache).1)
      ⟨[request], if request.isSendable then [request] else [], concluded.1,
        concluded.2.bind (answer e.identity)⟩ := by
  unfold account
  rw [run_getAmong_of_asked hstale]
  simp only [dispatch_apply, send_carry, wait_apply, conclude_outcome, List.nil_append]

/-- When the others do nothing, a resolution goes as it does by itself. -/
lemma account_alone (h : ∀ c, e.meanwhile c = c) :
    ((d.account e cache).cache, (d.account e cache).answer) =
      ((d.get Journal.now e.carry e.identity cache).run ⟨e.begun, [], []⟩).1 := by
  have hwait : e.wait = pure := by
    funext c
    unfold Errand.wait
    rw [h]
  rw [← getAmong_pure, ← hwait]
  rcases d.fresh_or_stale e cache with ⟨entry, hfound, hfresh⟩ | hstale
  · rw [account_of_fresh hfound hfresh, run_getAmong_of_fresh hfound hfresh]
  · rw [account_of_asked hstale, run_getAmong_of_asked hstale]
    simp only [send_carry, wait_apply, conclude_outcome]

/-! ## The answer of a body -/

/-- A body gives the answer that the directory makes of it. -/
lemma gives_answer (identity : String) (body : List UInt8) :
    Gives body (answer identity (some body)) where
  noListing h := by
    simp only [answer, h]
    rfl
  spoiled lines failure h h' := by
    simp only [answer, h, h']
    rfl
  listed lines keys h h' := by
    simp only [answer, h, h']
    rfl

/-- It gives no two answers. -/
lemma Gives.eq {body : List UInt8} {a a' : Answer} (h : Gives body a) (h' : Gives body a') :
    a = a' := by
  rcases hlines : keyLines? body with _ | lines
  · exact (h.noListing hlines).trans (h'.noListing hlines).symm
  · rcases hkeys : Key.parseAll lines with failure | keys
    · exact (h.spoiled _ _ hlines hkeys).trans (h'.spoiled _ _ hlines hkeys).symm
    · exact (h.listed _ _ hlines hkeys).trans (h'.listed _ _ hlines hkeys).symm

/-- That there is no listing is not what a confirmation without an answer is told as. -/
lemma Gives.ne_missing {body : List UInt8} {a : Answer} (h : Gives body a) :
    a ≠ .error (.remote missingDetail) := by
  rw [h.eq (gives_answer "" body)]
  intro heq
  rcases answer_eq_error heq with heq | heq | ⟨detail, heq⟩
  · cases heq
  · exact absurd heq (by decide)
  · cases heq

/-! ## What is done about an outcome -/

/-- Only an outcome that is taken in touches the cache. -/
lemma conclude_fst_of_not_isTakenIn {outcome : Outcome} (h : ¬ IsTakenIn outcome)
    (d : RemoteDirectory) (now : Moment) (identity : String) (stored : Option Cache.Entry)
    (cache : Cache) : (d.conclude now identity stored outcome cache).1 = cache := by
  have hnone : d.takingIn now identity cache outcome = none := by
    rcases hop : d.takingIn now identity cache outcome with _ | op
    · rfl
    · rcases takingIn_eq_some_iff.mp hop with ⟨reply, hreply, hstatus, -⟩ |
        ⟨reply, body, hreply, hstatus, hbody, -⟩
      · exact absurd ⟨reply, hreply, .inl hstatus⟩ h
      · exact absurd ⟨reply, hreply, .inr ⟨hstatus, body, hbody⟩⟩ h
  rw [conclude_fst, hnone]
  rfl

/-- The second step and the answer that comes of it do about an outcome what they have to. -/
lemma handles_conclude (d : RemoteDirectory) (e : Errand) (found : Option Cache.Entry)
    (before : Cache) (outcome : Outcome) (attempts sent : List Request) :
    d.Handles e found before outcome
      ⟨attempts, sent, (d.conclude e.ended e.identity found outcome before).1,
        (d.conclude e.ended e.identity found outcome before).2.bind (answer e.identity)⟩ := by
  constructor
  case untouched =>
    intro hkept
    exact conclude_fst_of_not_isTakenIn hkept d e.ended e.identity found before
  case lasting =>
    intro hkept entry hfound hentry later hyoung
    show (Cache.get (d.conclude e.ended e.identity found outcome before).1 later _).2 = some entry
    rw [conclude_fst_of_not_isTakenIn hkept]
    exact Cache.get_eq_some_iff.mpr ⟨hentry, hyoung⟩
  case failed =>
    rintro fault rfl
    rfl
  case absent =>
    rintro reply rfl hstatus
    simp [conclude, hstatus, Except.bind, answer]
  case refused =>
    rintro reply rfl hsuccess hconfirms habsent
    have hrange : ¬ (200 ≤ reply.status ∧ reply.status < 300) := by
      simpa [Reply.isSuccess] using hsuccess
    simp [conclude, hconfirms, habsent, hrange, Except.bind]
  case brokenOff =>
    rintro reply fault rfl hsuccess hbody
    have hrange : 200 ≤ reply.status ∧ reply.status < 300 := by
      simpa [Reply.isSuccess] using hsuccess
    have hconfirms : reply.status ≠ 304 := by omega
    have habsent : reply.status ≠ 404 := by omega
    simp [conclude, hconfirms, habsent, hrange, hbody, Except.bind]
  case used =>
    rintro reply body rfl hsuccess hbody
    dsimp only
    rw [conclude_snd_of_success d e.ended e.identity found hsuccess hbody]
    exact gives_answer e.identity body
  case confirmed =>
    rintro reply entry rfl hstatus rfl
    dsimp only
    rw [conclude_of_confirmation d e.ended e.identity (some entry) hstatus]
    simp only [Cache.refresh_snd]
    cases before.find? (d.cacheKey e.identity) <;> exact gives_answer e.identity _

/-! ## How a resolution fails -/

/-- A failure is that there is no such identity, or it is fatal. -/
lemma fatal_of_answer_error {identity : String} {body : Option (List UInt8)} {failure : Failure}
    (h : answer identity body = .error failure) (hne : failure ≠ .notFound identity) :
    failure.kind = .fatal := by
  rcases answer_eq_error h with rfl | rfl | ⟨detail, rfl⟩
  · exact absurd rfl hne
  · rfl
  · rfl

/-- Every failure but that of an unknown identity is fatal. -/
lemma fatal_of_conclude_error {now : Moment} {identity : String} {found : Option Cache.Entry}
    {outcome : Outcome} {failure : Failure}
    (h : (d.conclude now identity found outcome cache).2.bind (answer identity) = .error failure)
    (hne : failure ≠ .notFound identity) : failure.kind = .fatal := by
  rcases hbody : (d.conclude now identity found outcome cache).2 with own | body
  · obtain ⟨detail, rfl⟩ := conclude_eq_error hbody
    rw [hbody] at h
    cases h
    rfl
  · rw [hbody] at h
    exact fatal_of_answer_error h hne

/-- The detail of a refused status is never that of a missing user. -/
lemma refused_ne_missing (status identity : String) :
    "GitHub returned " ++ status ++ " for " ++ identity ≠ missingDetail := by
  intro h
  have hfirst := congrArg (fun s : String => s.toList.head?) h
  simp [missingDetail] at hfirst

/-- What was found is not missed when it is confirmed, whatever has become of it. -/
lemma Handles.answer_ne {found : Option Cache.Entry} {before : Cache} {outcome : Outcome}
    {a : Account} (h : d.Handles e found before outcome a) (hfound : found.isSome = true) :
    a.answer ≠ .error (.remote missingDetail) := by
  obtain ⟨entry, rfl⟩ := Option.isSome_iff_exists.mp hfound
  rcases outcome with fault | reply
  · rw [h.failed fault rfl]
    cases fault <;> decide
  · by_cases hconfirms : reply.status = 304
    · exact (h.confirmed reply entry rfl hconfirms rfl).ne_missing
    · by_cases habsent : reply.status = 404
      · rw [h.absent reply rfl habsent]
        simp
      · rcases hsuccess : reply.isSuccess with _ | _
        · rw [h.refused reply rfl hsuccess hconfirms habsent]
          simpa using refused_ne_missing _ _
        · rcases hbody : reply.body with fault | body
          · rw [h.brokenOff reply fault rfl hsuccess hbody]
            cases fault <;> decide
          · exact (h.used reply body rfl hsuccess hbody).ne_missing

/-- **What one resolution does.**  If the lookup finds an answer that is fresh, that is used and
nothing is sent.  Else there is exactly one request to send, with the tag of what was found, if it
has one, and with the token of the settings, if that is not empty; it is sent if it can be written
down, and if it cannot, nothing is sent and the resolution fails.  Unless the outcome is a
confirmation or a complete answer with the status 200, the cache stays as it is, and what was found
can be found again.  The status 404 tells that there is no such identity; other answers that are no
success, and failures on the way, are fatal failures of the remote directory; a success gives its
body.  What the lookup found is used when it is confirmed, even if others have taken it out of the
cache meanwhile. -/
theorem account_behaves {s : Settings} (h : ofSettings s = .ok d) (e : Errand) (cache : Cache) :
    d.Behaves s e cache (d.account e cache) := by
  constructor
  case fresh =>
    intro entry hfound hfresh
    rw [account_of_fresh hfound hfresh]
    exact ⟨rfl, rfl, rfl, gives_answer e.identity entry.body⟩
  case asked =>
    intro hstale
    have hrequest := isRequest_request h e.identity (d.lookup e cache).2
    rw [account_of_asked hstale]
    have hhandles := handles_conclude d e (d.lookup e cache).2 (e.meanwhile (d.lookup e cache).1)
      (e.outcome (d.request e.identity (d.lookup e cache).2))
    refine ⟨_, hrequest, rfl, rfl, fun hsend => ?_, hhandles _ _⟩
    refine (hhandles [_] _).failed .unsendable ?_
    exact if_neg (Bool.eq_false_iff.mp hsend)
  case missed =>
    intro hfound
    rcases d.fresh_or_stale e cache with ⟨entry, hentry, hfresh⟩ | hstale
    · rw [account_of_fresh hentry hfresh]
      exact (gives_answer e.identity entry.body).ne_missing
    · rw [account_of_asked hstale]
      exact (handles_conclude d e _ _ _ _ _).answer_ne hfound
  case fatal =>
    intro failure hanswer hne
    rcases d.fresh_or_stale e cache with ⟨entry, hfound, hfresh⟩ | hstale
    · rw [account_of_fresh hfound hfresh] at hanswer
      change answer e.identity (some entry.body) = .error failure at hanswer
      exact fatal_of_answer_error hanswer hne
    · rw [account_of_asked hstale] at hanswer
      exact fatal_of_conclude_error hanswer hne
  case alone => exact account_alone

/-! ## A token that cannot be sent -/

/-- The standard settings with a token of two lines, which no header can hold. -/
def brokenSettings : Settings :=
  { Settings.standard with token := some "a\nb" }

/-- The directory of these settings. -/
def brokenDirectory : RemoteDirectory :=
  { atHost "api.github.com" with
    token := some "a\nb"
    timeout := Duration.ofMilliseconds Settings.standard.remoteTimeoutMs }

/-- Nothing is found, but no request is sent either: the one that there should be cannot be written
down, and the resolution fails. -/
theorem nothing_sent_for_broken_token :
    let e : Errand := ⟨"bob", 0, 1, fun _ => .ok ⟨200, [], .ok (Text.Utf8.encodeText "[]")⟩, id⟩
    let cache := Cache.empty (cacheLimits brokenSettings)
    ofSettings brokenSettings = .ok brokenDirectory ∧
      (brokenDirectory.lookup e cache).2 = none ∧
      (brokenDirectory.account e cache).sent = [] ∧
      (brokenDirectory.account e cache).answer =
        .error (.remote "the request cannot be sent") := by
  intro e cache
  have hfound : (brokenDirectory.lookup e cache).2 = none := rfl
  have hstale : ∀ entry, (brokenDirectory.lookup e cache).2 = some entry →
      entry.isFresh e.begun = false := by
    rw [hfound]
    rintro entry ⟨⟩
  have hbroken : (brokenDirectory.request e.identity none).isSendable = false := by
    decide +kernel
  refine ⟨by decide +kernel, hfound, ?_, ?_⟩ <;> rw [account_of_asked hstale, hfound]
  · exact if_neg (Bool.eq_false_iff.mp hbroken)
  · have houtcome : e.outcome (brokenDirectory.request e.identity none) = .error .unsendable :=
      if_neg (Bool.eq_false_iff.mp hbroken)
    simp only [houtcome]
    rfl

/-! ## A confirmation of what is gone -/

/-- The standard settings with a token. -/
def exampleSettings : Settings :=
  { Settings.standard with token := some "secret" }

/-- The directory of the settings with a token. -/
def exampleDirectory : RemoteDirectory :=
  { atHost "api.github.com" with token := some "secret", timeout := Duration.ofSeconds 1 }

/-- A key as it is listed. -/
def exampleLine : String :=
  "ssh-ed25519 AAAAC3NzaC1lZDI1NTE5AAAAIGUdUNqRHa0eh/90qPnUIxpDcS5s+Fn5fnA8qQ3prKwu"

/-- An answer with one key, which has to be confirmed each time. -/
def exampleEntry : Cache.Entry :=
  ⟨Text.Utf8.encodeText ("[\x7b\"id\":0,\"key\":\"" ++ exampleLine ++ "\"\x7d]"), some "\"v1\"", 0,
    some 0⟩

/-- A cache with this answer for `alice`. -/
def exampleCache : Cache :=
  { Cache.empty (cacheLimits exampleSettings) with
    entries := [(exampleDirectory.cacheKey "alice", exampleEntry)]
    bytes := exampleEntry.body.length }

/-- The answer is confirmed, but others have emptied the cache meanwhile. -/
def exampleErrand : Errand :=
  ⟨"alice", 0, 1, fun _ => .ok ⟨304, [], .ok []⟩, fun cache => .empty cache.limits⟩

/-- The example cache holds the entry the example errand looks for. -/
lemma lookup_example :
    (exampleDirectory.lookup exampleErrand exampleCache).2 = some exampleEntry := by
  apply Cache.get_eq_some_iff.mpr
  constructor
  · simp [exampleCache, exampleErrand, Cache.find?]
  · decide +kernel

/-- The request is sent with the tag and the token, and the key in the body that was found is the
answer. -/
theorem account_behaves_emptied :
    ofSettings exampleSettings = .ok exampleDirectory ∧
      ∃ request, (exampleDirectory.account exampleErrand exampleCache).sent = [request] ∧
        request.ifNoneMatch = some "\"v1\"" ∧ request.bearer = some "secret" ∧
        ∃ key : PublicKey, key.canonical = exampleLine ∧
          (exampleDirectory.account exampleErrand exampleCache).answer = .ok ⟨.remote, [key]⟩ := by
  have hsettings : ofSettings exampleSettings = .ok exampleDirectory := by decide +kernel
  have hbehaves := account_behaves hsettings exampleErrand exampleCache
  have hstale : ∀ entry, (exampleDirectory.lookup exampleErrand exampleCache).2 = some entry →
      entry.isFresh exampleErrand.begun = false := by
    intro entry hfound
    rw [lookup_example] at hfound
    cases hfound
    decide
  obtain ⟨request, hrequest, -, hsent, -, hhandles⟩ := hbehaves.asked hstale
  rw [lookup_example] at hrequest hhandles
  have hbearer : request.bearer = some "secret" := (hrequest.token _).mpr ⟨rfl, by decide⟩
  have hsend : request.isSendable = true := by
    unfold Request.isSendable
    rw [hrequest.url, hbearer]
    decide +kernel
  have houtcome : exampleErrand.outcome request = .ok ⟨304, [], .ok []⟩ := if_pos hsend
  have hlines : keyLines? exampleEntry.body = some [exampleLine] := by
    decide +kernel
  have hkeys : (Key.parseAll [exampleLine]).toOption.any
      (fun keys => keys.map PublicKey.canonical = [exampleLine]) = true := by
    decide +kernel
  rcases hparsed : Key.parseAll [exampleLine] with failure | keys
  · rw [hparsed] at hkeys
    cases hkeys
  rw [hparsed] at hkeys
  obtain ⟨key, rfl, hcanonical⟩ := List.map_eq_singleton_iff.mp (of_decide_eq_true hkeys)
  refine ⟨hsettings, request, hsent.trans (if_pos hsend), ?_, hbearer, key, hcanonical, ?_⟩
  · exact (hrequest.tag _).mpr ⟨exampleEntry, rfl, rfl⟩
  · exact (hhandles.confirmed _ exampleEntry houtcome rfl rfl).listed _ _ hlines hparsed

end KeyDirectory.RemoteDirectory
