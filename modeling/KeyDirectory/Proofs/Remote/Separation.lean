import KeyDirectory.Proofs.Cache.Eviction
import KeyDirectory.Proofs.Remote.Interleaving
import KeyDirectory.Proofs.Url.Below

/-!
# Each identity has an entry of its own

The URL of an identity can be read back from its text, so the answers for two identities are stored
under two keys.  A step of a resolution looks at one key and changes what is under it; under any
other key it leaves what it finds, or takes it out to make room.

* `keysUrl_eq`, `eq_of_cacheKey_eq`: the URL and the key of an identity.
* `cache_step_eq_run`: a move is at most one operation on the cache.
* `kept_run`: what is stored in a run is stored under the keys of the identities that it is for.
* `resolved?_congr`, `find?_step_of_ne`: what a step looks at and what it changes.
* `identities_kept_apart`: the result.
-/

namespace KeyDirectory.RemoteDirectory

open Remote
open KeyPath (IsIdentity)

variable {d : RemoteDirectory} {t t' : Traffic} {identity other : String}

/-! ## The URL and the key of an identity -/

/-- The base of a directory is what its settings parse to, and it has path segments. -/
lemma base_of_ofSettings {s : Settings} (h : ofSettings s = .ok d) :
    Url.parse s.remoteUrl = .ok d.base ∧ ∃ parts, d.base.path = .segments parts := by
  unfold ofSettings at h
  rcases hparse : Url.parse s.remoteUrl with fault | base
  · rw [hparse] at h
    cases h
  · rw [hparse] at h
    dsimp only at h
    split_ifs at h with hbase
    cases h
    refine ⟨rfl, ?_⟩
    unfold Url.canBeBase at hbase
    rcases hpath : base.path with text | parts
    · rw [hpath] at hbase
      cases hbase
    · exact ⟨parts, rfl⟩

variable {parts : List String}

/-- The address of an identity's keys is the base with three segments after its stem. -/
lemma keysUrl_eq (hpath : d.base.path = .segments parts) (h : IsIdentity identity) :
    d.keysUrl identity =
      { d.base with path := .segments (Url.stem parts ++ ["users", identity, "keys"]) } :=
  Url.below_users hpath h

/-- No two identities have one key. -/
lemma eq_of_cacheKey_eq (hpath : d.base.path = .segments parts) (h : IsIdentity identity)
    (h' : IsIdentity other) (hkey : d.cacheKey identity = d.cacheKey other) :
    identity = other := by
  have htext := cacheKey_inj hkey
  rw [keysUrl_eq hpath h, keysUrl_eq hpath h'] at htext
  exact Url.text_users_inj htext

/-! ## A move and the cache -/

/-- The cache after the start of a call is the cache after its lookup. -/
lemma start_fst (d : RemoteDirectory) (now : Moment) (identity : String) (cache : Cache) :
    (d.start now identity cache).1 = (cache.get now (d.cacheKey identity)).1 := by
  unfold start
  rcases cache.get now (d.cacheKey identity) with ⟨cache', _ | stored⟩
  · rfl
  · dsimp only
    split_ifs <;> rfl

/-- The resolution that the first step of one comes to. -/
def Call.ofLookup (identity : String) : Lookup → Call
  | .fresh body => .finished (.ok (some body))
  | .ask request stored =>
    if request.isSendable then .waiting identity request stored
    else .answered identity request stored (.error .unsendable)

/-- Beginning a call looks its key up and appends what the call waits for. -/
lemma begin_eq (d : RemoteDirectory) (t : Traffic) (now : Moment) (identity : String) :
    t.begin d now identity =
      { t with
        cache := (t.cache.get now (d.cacheKey identity)).1
        calls := t.calls ++ [Call.ofLookup identity (d.start now identity t.cache).2] } := by
  rw [← start_fst]
  unfold Traffic.begin
  rcases d.start now identity t.cache with ⟨cache, body | ⟨request, stored⟩⟩ <;> rfl

/-- An answer of the site leaves the cache alone. -/
lemma cache_answer (t : Traffic) (i : Nat) : (t.answer i).cache = t.cache := by
  unfold Traffic.answer
  split <;> rfl

section takeIn

variable {i : Nat} {request : Request} {stored : Option Cache.Entry} {outcome : Outcome}

/-- Taking in does to the cache the one operation its outcome calls for. -/
lemma takeIn_eq (hcall : t.calls[i]? = some (.answered identity request stored outcome))
    (d : RemoteDirectory) (now : Moment) :
    t.takeIn d now i =
      { t with
        cache := (d.takingIn now identity t.cache outcome).elim t.cache fun op =>
          op.apply now t.cache
        calls := t.calls.set i (.finished (d.conclude now identity stored outcome t.cache).2)
        kept := t.kept ++
          (d.takingIn now identity t.cache outcome).toList.flatMap (·.stored t.cache) } := by
  rw [← conclude_fst d now identity stored]
  unfold Traffic.takeIn
  rw [hcall]

/-- The identity that resolves when a call's outcome is taken in is the call's own. -/
lemma eq_of_resolving? (hcall : t.calls[i]? = some (.answered identity request stored outcome))
    {now : Moment} (h : t.resolving? (.takeIn now i) = some other) : identity = other :=
  Option.some.inj ((congrArg (·.bind Call.identity?) hcall).symm.trans h)

/-- What taking in deposits is stored under the call's identity. -/
lemma deposits_takeIn (hcall : t.calls[i]? = some (.answered identity request stored outcome))
    (d : RemoteDirectory) (now : Moment) :
    t.deposits d (.takeIn now i) =
      ((d.takingIn now identity t.cache outcome).toList.flatMap (·.stored t.cache)).map
        fun p => (identity, p.2) := by
  unfold Traffic.deposits
  dsimp only
  rw [hcall]

/-- There is nothing to take in before the site has answered. -/
lemma takeIn_of_not_answered (h : ∀ identity request stored outcome,
    t.calls[i]? ≠ some (.answered identity request stored outcome)) (d : RemoteDirectory)
    (now : Moment) : t.takeIn d now i = t := by
  unfold Traffic.takeIn
  split
  · next hcall => exact absurd hcall (h _ _ _ _)
  · rfl

end takeIn

/-- A call is either answered or not. -/
lemma answered_or_not (t : Traffic) (i : Nat) :
    (∃ identity request stored outcome,
      t.calls[i]? = some (.answered identity request stored outcome)) ∨
    ∀ identity request stored outcome,
      t.calls[i]? ≠ some (.answered identity request stored outcome) := by
  by_cases h : ∃ identity request stored outcome,
      t.calls[i]? = some (.answered identity request stored outcome)
  · exact .inl h
  · exact .inr fun identity request stored outcome hcall =>
      h ⟨identity, request, stored, outcome, hcall⟩

/-- A move is at most one operation on the cache. -/
lemma cache_step_eq_run (d : RemoteDirectory) (t : Traffic) (move : Move) :
    ∃ ops, (t.step d move).cache = t.cache.run ops := by
  cases move with
  | begin now identity =>
      refine ⟨[(now, .get (d.cacheKey identity))], ?_⟩
      exact congrArg Traffic.cache (begin_eq d t now identity)
  | answer i => exact ⟨[], cache_answer t i⟩
  | takeIn now i =>
      rcases answered_or_not t i with ⟨identity, request, stored, outcome, hcall⟩ | hnot
      · have hcache := congrArg Traffic.cache (takeIn_eq hcall d now)
        rcases htaken : d.takingIn now identity t.cache outcome with _ | op
        · rw [htaken] at hcache
          exact ⟨[], hcache⟩
        · rw [htaken] at hcache
          exact ⟨[(now, op)], hcache⟩
      · exact ⟨[], congrArg Traffic.cache (takeIn_of_not_answered hnot d now)⟩
  | change site => exact ⟨[], rfl⟩
  | sweep now => exact ⟨[(now, .cleanup)], rfl⟩

/-- Every run keeps the cache sound. -/
lemma sound_run (h : t.cache.Sound) (moves : List Move) : (Traffic.run d t moves).cache.Sound := by
  induction moves generalizing t with
  | nil => exact h
  | cons move moves ih =>
      refine ih ?_
      obtain ⟨ops, hops⟩ := cache_step_eq_run d t move
      rw [hops]
      exact Cache.sound_run h ops

/-! ## What is stored for whom -/

/-- What is stored for an identity is stored under its key. -/
lemma fst_of_mem_stored {now : Moment} {outcome : Outcome} {op : Cache.Operation}
    (hop : d.takingIn now identity t.cache outcome = some op) {p : String × Cache.Entry}
    (hp : p ∈ op.stored t.cache) : p.1 = d.cacheKey identity := by
  rcases takingIn_eq_some_iff.mp hop with ⟨reply, -, -, rfl⟩ | ⟨reply, body, -, -, -, rfl⟩
  · cases hp
  · unfold Cache.Operation.stored at hp
    dsimp only at hp
    split_ifs at hp
    · rw [List.mem_singleton.mp hp]
    · cases hp

/-- A step adds its deposits to the record, each under the key of its identity. -/
lemma kept_step (d : RemoteDirectory) (t : Traffic) (move : Move) :
    (t.step d move).kept =
      t.kept ++ (t.deposits d move).map fun p => (d.cacheKey p.1, p.2) := by
  cases move with
  | begin now identity =>
      rw [Traffic.step, begin_eq]
      exact (List.append_nil _).symm
  | answer i =>
      have hkept : (t.answer i).kept = t.kept := by
        unfold Traffic.answer
        split <;> rfl
      exact hkept.trans (List.append_nil _).symm
  | takeIn now i =>
      rcases answered_or_not t i with ⟨identity, request, stored, outcome, hcall⟩ | hnot
      · rw [Traffic.step, takeIn_eq hcall, deposits_takeIn hcall]
        have hsame : ∀ p ∈ (d.takingIn now identity t.cache outcome).toList.flatMap
            (·.stored t.cache), (d.cacheKey identity, p.2) = p := by
          intro p hp
          obtain ⟨op, hop, hp⟩ := List.mem_flatMap.mp hp
          rw [← fst_of_mem_stored (Option.mem_toList.mp hop) hp]
        rw [List.map_map]
        exact congrArg (t.kept ++ ·) ((List.map_congr_left hsame).trans (List.map_id _)).symm
      · rw [Traffic.step, takeIn_of_not_answered hnot, Traffic.deposits]
        split
        · next hcall => exact absurd hcall (hnot _ _ _ _)
        · exact (List.append_nil _).symm
  | change site => exact (List.append_nil _).symm
  | sweep now => exact (List.append_nil _).symm

/-- A run adds all its deposits to the record. -/
lemma kept_run (d : RemoteDirectory) (t : Traffic) (moves : List Move) :
    (Traffic.run d t moves).kept =
      t.kept ++ (t.deposited d moves).map fun p => (d.cacheKey p.1, p.2) := by
  induction moves generalizing t with
  | nil => exact (List.append_nil _).symm
  | cons move moves ih =>
      have hrest : (Traffic.run d t (move :: moves)).kept =
          (Traffic.run d (t.step d move) moves).kept := rfl
      rw [hrest, ih, kept_step, Traffic.deposited, List.map_append, List.append_assoc]

/-- What is recorded under the key of an identity was stored for no other. -/
lemma isStoredApartFrom_of_recorded {limits : Cache.Limits} {site : Site} {moves : List Move}
    (hkey : d.cacheKey identity ≠ d.cacheKey other) {e : Cache.Entry}
    (h : Recorded (Traffic.run d (.start limits site) moves).kept (d.cacheKey identity) e) :
    IsStoredApartFrom other (Traffic.deposited d (.start limits site) moves) e := by
  obtain ⟨first, hkept, hbody, hetag⟩ := h
  rw [kept_run] at hkept
  rcases List.mem_append.mp hkept with hbefore | hstored
  · cases hbefore
  · obtain ⟨⟨owner, e'⟩, hmem, heq⟩ := List.mem_map.mp hstored
    obtain ⟨howner, rfl⟩ := Prod.mk.inj heq
    refine ⟨owner, e', hmem, ?_, hbody, hetag⟩
    rintro rfl
    exact hkey howner.symm

/-! ## What a step looks at -/

/-- Two caches of the same limits and the same entry under a key answer its lookup alike. -/
lemma get_snd_congr {c c' : Cache} {key : String} (hlimits : c'.limits = c.limits)
    (hentry : c'.find? key = c.find? key) (now : Moment) :
    (c'.get now key).2 = (c.get now key).2 := by
  refine Option.ext fun e => ?_
  rw [Cache.get_eq_some_iff, Cache.get_eq_some_iff, hentry, Cache.isExpired_congr hlimits]

/-- Two caches that agree on an identity's key start its call alike. -/
lemma start_snd_congr {c c' : Cache} (hlimits : c'.limits = c.limits)
    (hentry : c'.find? (d.cacheKey identity) = c.find? (d.cacheKey identity)) (now : Moment) :
    (d.start now identity c').2 = (d.start now identity c).2 := by
  have hget := get_snd_congr hlimits hentry now
  by_cases hfresh : ∃ e, (c.get now (d.cacheKey identity)).2 = some e ∧ e.isFresh now = true
  · obtain ⟨e, he, hfresh⟩ := hfresh
    rw [start_of_fresh he hfresh, start_of_fresh (hget.trans he) hfresh]
  · have hstale : ∀ e, (c.get now (d.cacheKey identity)).2 = some e → e.isFresh now = false :=
      fun e he => by_contra fun hnot => hfresh ⟨e, he, by simpa using hnot⟩
    rw [start_of_stale hstale, start_of_stale (hget ▸ hstale), hget]

/-- Two caches that agree on an identity's key conclude its call alike. -/
lemma conclude_snd_eq {c c' : Cache} (hlimits : c'.limits = c.limits)
    (hentry : c'.find? (d.cacheKey identity) = c.find? (d.cacheKey identity)) (now : Moment)
    (stored : Option Cache.Entry) (outcome : Outcome) :
    (d.conclude now identity stored outcome c').2 =
      (d.conclude now identity stored outcome c).2 := by
  by_cases hconfirmed : IsConfirmation outcome
  · obtain ⟨reply, rfl, hstatus⟩ := hconfirmed
    rw [conclude_of_confirmation _ _ _ _ hstatus, conclude_of_confirmation _ _ _ _ hstatus]
    dsimp only
    rw [Cache.refresh_snd, Cache.refresh_snd, hentry, freshness_congr hlimits]
  · exact conclude_snd_congr d now now identity stored stored hconfirmed c' c

/-- What a step of a resolution comes to depends on the entry under its own key alone. -/
lemma resolved?_congr {move : Move} (hresolving : t.resolving? move = some identity)
    (h : t.SameFor d identity t') : t'.resolved? d move = t.resolved? d move := by
  cases move with
  | begin now name =>
      obtain rfl : name = identity := Option.some.inj hresolving
      unfold Traffic.resolved? Traffic.step
      dsimp only
      rw [begin_eq, begin_eq, start_snd_congr h.limits h.entry now, List.getLast?_concat,
        List.getLast?_concat]
  | answer i =>
      unfold Traffic.resolved? Traffic.step Traffic.answer
      dsimp only
      rw [h.calls, h.site]
      split
      · rfl
      · rw [h.calls]
  | takeIn now i =>
      unfold Traffic.resolved? Traffic.step
      dsimp only
      rcases answered_or_not t i with ⟨name, request, stored, outcome, hcall⟩ | hnot
      · obtain rfl := eq_of_resolving? hcall hresolving
        have hcall' : t'.calls[i]? = some (.answered name request stored outcome) := by
          rw [h.calls, hcall]
        rw [takeIn_eq hcall, takeIn_eq hcall', conclude_snd_eq h.limits h.entry, h.calls]
      · have hnot' : ∀ name request stored outcome,
            t'.calls[i]? ≠ some (.answered name request stored outcome) := by
          rw [h.calls]
          exact hnot
        rw [takeIn_of_not_answered hnot, takeIn_of_not_answered hnot', h.calls]
  | change site => cases hresolving
  | sweep now => cases hresolving

/-! ## What a step changes -/

/-- What the second step of a resolution does to the entry of another key. -/
lemma find?_takingIn_of_ne (hsound : t.cache.Sound)
    (hkey : d.cacheKey identity ≠ d.cacheKey other) {now : Moment} {outcome : Outcome}
    {op : Cache.Operation} (hop : d.takingIn now identity t.cache outcome = some op) :
    (op.apply now t.cache).find? (d.cacheKey other) = t.cache.find? (d.cacheKey other) ∨
      (op.apply now t.cache).find? (d.cacheKey other) = none ∧
        ∃ e arranged n, (d.cacheKey identity, e) ∈ op.stored t.cache ∧
          t.cache.MakesRoom (d.cacheKey identity) e arranged n ∧
          d.cacheKey other ∈ (arranged.take n).map Prod.fst := by
  rcases takingIn_eq_some_iff.mp hop with ⟨reply, -, -, rfl⟩ | ⟨reply, body, -, -, -, rfl⟩
  · refine .inl ?_
    rw [Cache.Operation.apply, Cache.find?_refresh, if_neg hkey.symm]
  · generalize (⟨body, reply.etag?, now, t.cache.freshness reply.maxAge?⟩ : Cache.Entry) = e
    rw [Cache.Operation.apply]
    rcases hacc : t.cache.accepts e with _ | _
    · rw [Cache.insert_of_not_accepts hacc]
      exact .inl rfl
    · rw [Cache.find?_insert_of_accepts hacc, if_neg hkey.symm]
      split_ifs with hevicted
      · obtain ⟨arranged, n, hroom⟩ :=
          Cache.exists_makesRoom hsound.toBalanced hacc (d.cacheKey identity)
        refine .inr ⟨rfl, e, arranged, n, ?_, hroom, hroom.evicted_eq ▸ hevicted⟩
        rw [Cache.Operation.stored, if_pos hacc]
        exact List.mem_singleton_self _
      · exact .inl rfl

/-- A step of a resolution leaves the entry of another key, or evicts it to make room. -/
lemma find?_step_of_ne (hsound : t.cache.Sound) {move : Move}
    (hresolving : t.resolving? move = some identity)
    (hkey : d.cacheKey identity ≠ d.cacheKey other) :
    (t.step d move).cache.find? (d.cacheKey other) = t.cache.find? (d.cacheKey other) ∨
      (t.step d move).cache.find? (d.cacheKey other) = none ∧
        t.Evicts d move (d.cacheKey other) := by
  cases move with
  | begin now name =>
      obtain rfl : name = identity := Option.some.inj hresolving
      refine .inl ?_
      rw [Traffic.step, begin_eq]
      dsimp only
      rw [Cache.find?_get, if_neg fun h => hkey.symm h.1]
  | answer i =>
      refine .inl ?_
      rw [Traffic.step, cache_answer]
  | takeIn now i =>
      rcases answered_or_not t i with ⟨name, request, stored, outcome, hcall⟩ | hnot
      · obtain rfl := eq_of_resolving? hcall hresolving
        rw [Traffic.step, takeIn_eq hcall]
        dsimp only
        rcases hop : d.takingIn now name t.cache outcome with _ | op
        · exact .inl rfl
        · rcases find?_takingIn_of_ne hsound hkey hop with hsame |
            ⟨hgone, e, arranged, n, hmem, hroom, hcut⟩
          · exact .inl hsame
          · refine .inr ⟨hgone, name, e, arranged, n, ?_, hroom, hcut⟩
            rw [deposits_takeIn hcall, hop]
            exact List.mem_map.mpr ⟨_, by simpa using hmem, rfl⟩
      · refine .inl ?_
        rw [Traffic.step, takeIn_of_not_answered hnot]
  | change site => cases hresolving
  | sweep now => cases hresolving

/-- What a traced call holds is on record under the key of its identity. -/
lemma recorded_of_held {call : Call} (h : call.IsTraced d t.kept)
    (hidentity : call.identity? = some identity) {e : Cache.Entry} (he : call.held? = some e) :
    Recorded t.kept (d.cacheKey identity) e := by
  cases call with
  | waiting name request stored =>
      obtain rfl : name = identity := Option.some.inj hidentity
      exact h.2 e he
  | answered name request stored outcome =>
      obtain rfl : name = identity := Option.some.inj hidentity
      exact h.2 e he
  | finished body => cases hidentity

/-- **Each identity has one URL and one entry.**  Let the settings be such that the remote directory
can be set up.  The URL of an identity is the base that they name, with three segments added to those of
its path; two identities have two keys in the cache; and in every run a step of a resolution of the
one neither reads nor changes the entry of the other, unless to evict it by size. -/
theorem identities_kept_apart {s : Settings} (h : ofSettings s = .ok d) :
    Url.parse s.remoteUrl = .ok d.base ∧
      (∃ parts, d.base.path = .segments parts ∧ ∀ identity, IsIdentity identity →
        d.keysUrl identity =
          { d.base with path := .segments (Url.stem parts ++ ["users", identity, "keys"]) }) ∧
      (∀ identity other, IsIdentity identity → IsIdentity other →
        d.cacheKey identity = d.cacheKey other → identity = other) ∧
      ∀ limits site moves move identity other, IsIdentity identity → IsIdentity other →
        identity ≠ other →
        (Traffic.run d (.start limits site) moves).resolving? move = some identity →
        KeepsApart d (Traffic.deposited d (.start limits site) moves)
          (Traffic.run d (.start limits site) moves) move identity other := by
  obtain ⟨hparse, parts, hpath⟩ := base_of_ofSettings h
  refine ⟨hparse, ⟨parts, hpath, fun identity => keysUrl_eq hpath⟩,
    fun identity other => eq_of_cacheKey_eq hpath, ?_⟩
  intro limits site moves move identity other hidentity hother hne hresolving
  have hkey : d.cacheKey identity ≠ d.cacheKey other :=
    fun heq => hne (eq_of_cacheKey_eq hpath hidentity hother heq)
  have htraced := traced_run (traced_start d limits site) moves
  have hsound : (Traffic.run d (.start limits site) moves).cache.Sound :=
    sound_run (Cache.sound_empty limits) moves
  constructor
  · exact fun t' hsame => resolved?_congr hresolving hsame
  · exact fun e he => isStoredApartFrom_of_recorded hkey (htraced.cache _ e he)
  · intro call hcall hcallIdentity e he
    exact isStoredApartFrom_of_recorded hkey
      (recorded_of_held (htraced.calls call hcall) hcallIdentity he)
  · exact find?_step_of_ne hsound hresolving hkey

/-- The answer for one identity is taken in while that for another is stored, below a base with a
path that ends in a slash. -/
theorem identities_kept_apart_two :
    let s := { Settings.standard with remoteUrl := "https://api.example.com/v3/" }
    let d : RemoteDirectory :=
      ⟨⟨"https", some ⟨"", none, .name "api.example.com", none⟩, .segments ["v3", ""], none, none⟩,
        none, Duration.ofMilliseconds 1000⟩
    let begun := Traffic.start .standard (Site.steady [91, 93] "v1")
    let moves : List Move :=
      [.begin 0 "alice", .answer 0, .takeIn 0 0, .begin 1 "bob", .answer 1]
    let t := Traffic.run d begun moves
    ofSettings s = .ok d ∧ (IsIdentity "alice" ∧ IsIdentity "bob") ∧
      d.keysUrl "bob" = { d.base with path := .segments ["v3", "users", "bob", "keys"] } ∧
      d.cacheKey "bob" ≠ d.cacheKey "alice" ∧ t.resolving? (.takeIn 1 1) = some "bob" ∧
      KeepsApart d (begun.deposited d moves) t (.takeIn 1 1) "bob" "alice" ∧
      (t.cache.find? (d.cacheKey "alice")).isSome = true := by
  intro s d begun moves t
  have hsettings : ofSettings s = .ok d := by decide +kernel
  have halice : IsIdentity "alice" := Url.isIdentity_of_all (by decide) (by decide +kernel)
  have hbob : IsIdentity "bob" := Url.isIdentity_of_all (by decide) (by decide +kernel)
  have hne : "bob" ≠ "alice" := by decide
  have hresolving : t.resolving? (.takeIn 1 1) = some "bob" := by decide +kernel
  obtain ⟨-, ⟨parts, hpath, hurl⟩, hkeys, hapart⟩ := identities_kept_apart hsettings
  have hparts : parts = ["v3", ""] := (Url.Path.segments.inj hpath).symm
  refine ⟨hsettings, ⟨halice, hbob⟩, ?_, ?_, hresolving, ?_, by decide +kernel⟩
  · rw [hurl "bob" hbob, hparts]
    rfl
  · exact fun heq => hne (hkeys "bob" "alice" hbob halice heq)
  · exact hapart _ _ moves _ "bob" "alice" hbob halice hne hresolving

/-- Of a path that is nothing but two slashes both are dropped: the keys are asked for below the
root of the host, and not below the segment without a name. -/
theorem keysUrl_nameless_root :
    let s := { Settings.standard with remoteUrl := "https://api.github.com//" }
    let d : RemoteDirectory :=
      ⟨⟨"https", some ⟨"", none, .name "api.github.com", none⟩, .segments ["", ""], none, none⟩,
        none, Duration.ofMilliseconds 1000⟩
    (ofSettings s = .ok d ∧ d.base.path = .segments ["", ""] ∧ IsIdentity "bob") ∧
      (d.keysUrl "bob").path ≠ .segments (["", ""].dropLast ++ ["users", "bob", "keys"]) ∧
      (d.keysUrl "bob").text = "https://api.github.com/users/bob/keys" := by
  intro s d
  have hbob : IsIdentity "bob" := Url.isIdentity_of_all (by decide) (by decide +kernel)
  exact ⟨⟨by decide +kernel, rfl, hbob⟩, by decide +kernel, by decide +kernel⟩

end KeyDirectory.RemoteDirectory
