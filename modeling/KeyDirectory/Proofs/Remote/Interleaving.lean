import KeyDirectory.Proofs.Remote.Site
import KeyDirectory.Remote.Traffic

/-!
# Confirmations among resolutions at the same time

When a confirmation comes in, the entry that it refreshes need not be the one that was looked
up: another resolution may have stored a different answer meanwhile.  The law that a confirmation
only speaks of its own tag therefore holds exactly when the entry is gone or still has that tag.

* `Traced`: the invariant, that every entry was stored with the tag that it has.
* `traced_step`, `traced_run`: it holds in whatever order the moves come.
* `keepsTag_confirmed_iff`: the exact condition.
* `renewed_under_another_tag`: a run in which the condition fails.
-/

namespace KeyDirectory.RemoteDirectory

open Remote

variable {d : RemoteDirectory}

/-! ## The invariant -/

/-- An entry of this body and tag was stored under a key. -/
def Recorded (kept : List (String × Cache.Entry)) (key : String) (e : Cache.Entry) : Prop :=
  ∃ first, (key, first) ∈ kept ∧ first.body = e.body ∧ first.etag = e.etag

/-- A resolution that is under way has sent the tag of the entry that it holds, and that entry
was stored with it. -/
def Call.IsTraced (d : RemoteDirectory) (kept : List (String × Cache.Entry)) : Call → Prop
  | waiting identity request stored | answered identity request stored _ =>
    request = d.request identity stored ∧
      ∀ e, stored = some e → Recorded kept (d.cacheKey identity) e
  | finished _ => True

/-- Every entry, in the cache or held by a resolution, was stored with the tag that it has. -/
structure Traced (d : RemoteDirectory) (t : Traffic) : Prop where
  cache : ∀ key e, t.cache.find? key = some e → Recorded t.kept key e
  calls : ∀ call ∈ t.calls, call.IsTraced d t.kept

/-- What is on record stays on record. -/
lemma Recorded.append {kept : List (String × Cache.Entry)} {key : String} {e : Cache.Entry}
    (h : Recorded kept key e) (more : List (String × Cache.Entry)) :
    Recorded (kept ++ more) key e := by
  obtain ⟨first, hmem, hsame⟩ := h
  exact ⟨first, List.mem_append_left more hmem, hsame⟩

/-- A traced call stays traced as the record grows. -/
lemma Call.IsTraced.append {kept : List (String × Cache.Entry)} {call : Call}
    (h : call.IsTraced d kept) (more : List (String × Cache.Entry)) :
    call.IsTraced d (kept ++ more) := by
  cases call with
  | waiting identity request stored => exact ⟨h.1, fun e he => (h.2 e he).append more⟩
  | answered identity request stored outcome => exact ⟨h.1, fun e he => (h.2 e he).append more⟩
  | finished body => trivial

/-- An operation leaves entries that were recorded, as long as what it stores is recorded too. -/
lemma recorded_apply {kept : List (String × Cache.Entry)} {c : Cache}
    (h : ∀ key e, c.find? key = some e → Recorded kept key e) (now : Moment)
    (op : Cache.Operation) {key : String} {e : Cache.Entry}
    (he : (op.apply now c).find? key = some e) : Recorded (kept ++ op.stored c) key e := by
  rcases Cache.find?_apply he with ⟨old, hold, hbody, hetag⟩ | hstored
  · obtain ⟨first, hmem, hbody', hetag'⟩ := h key old hold
    exact ⟨first, List.mem_append_left _ hmem, hbody'.trans hbody, hetag'.trans hetag⟩
  · exact ⟨e, List.mem_append_right _ hstored, rfl, rfl⟩

/-! ## One move keeps the invariant -/

/-- One more traced call leaves all calls traced. -/
lemma traced_concat {kept : List (String × Cache.Entry)} {calls : List Call}
    (h : ∀ call ∈ calls, call.IsTraced d kept) {call : Call} (hcall : call.IsTraced d kept) :
    ∀ other ∈ calls ++ [call], other.IsTraced d kept := by
  intro other hother
  rcases List.mem_append.mp hother with hbefore | hlast
  · exact h other hbefore
  · obtain rfl := List.mem_singleton.mp hlast
    exact hcall

/-- Beginning a call keeps the traffic traced: the call holds what the cache held. -/
lemma traced_begin {t : Traffic} (h : Traced d t) (now : Moment) (identity : String) :
    Traced d (t.begin d now identity) := by
  have hcache : ∀ key e, (t.cache.get now (d.cacheKey identity)).1.find? key = some e →
      Recorded t.kept key e :=
    fun key e he => h.cache key e (Cache.find?_of_find?_get he)
  have hfound : ∀ e, (t.cache.get now (d.cacheKey identity)).2 = some e →
      Recorded t.kept (d.cacheKey identity) e :=
    fun e he => h.cache _ e (Cache.get_eq_some_iff.mp he).1
  unfold Traffic.begin
  by_cases hfresh : ∃ e, (t.cache.get now (d.cacheKey identity)).2 = some e ∧
      e.isFresh now = true
  · obtain ⟨e, he, hfresh⟩ := hfresh
    rw [start_of_fresh he hfresh]
    exact ⟨hcache, traced_concat h.calls trivial⟩
  · rw [start_of_stale fun e he => by_contra fun hnot => hfresh ⟨e, he, by simpa using hnot⟩]
    simp only
    split_ifs
    · exact ⟨hcache, traced_concat h.calls ⟨rfl, hfound⟩⟩
    · exact ⟨hcache, traced_concat h.calls ⟨rfl, hfound⟩⟩

/-- An answer of the site keeps the traffic traced. -/
lemma traced_answer {t : Traffic} (h : Traced d t) (i : Nat) : Traced d (t.answer i) := by
  unfold Traffic.answer
  split
  next identity request stored hcall =>
    have hwaiting := h.calls _ (List.mem_of_getElem? hcall)
    refine ⟨h.cache, fun call hmem => ?_⟩
    rcases List.mem_or_eq_of_mem_set hmem with hbefore | rfl
    · exact h.calls call hbefore
    · exact hwaiting
  next => exact h

/-- Taking an outcome in keeps the traffic traced: what it stores goes on record. -/
lemma traced_takeIn {t : Traffic} (h : Traced d t) (now : Moment) (i : Nat) :
    Traced d (t.takeIn d now i) := by
  unfold Traffic.takeIn
  split
  next identity request stored outcome hcall =>
    refine ⟨fun key e he => ?_, fun call hmem => ?_⟩
    · simp only at he ⊢
      rw [conclude_fst] at he
      rcases htaken : d.takingIn now identity t.cache outcome with _ | op
      · rw [htaken] at he
        exact (h.cache key e he).append _
      · rw [htaken] at he
        simpa using recorded_apply h.cache now op he
    · rcases List.mem_or_eq_of_mem_set hmem with hbefore | rfl
      · exact (h.calls call hbefore).append _
      · trivial
  next => exact h

/-- Whatever the move, every entry was stored with the tag that it has. -/
lemma traced_step {t : Traffic} (h : Traced d t) (move : Move) : Traced d (t.step d move) := by
  cases move with
  | begin now identity => exact traced_begin h now identity
  | answer i => exact traced_answer h i
  | takeIn now i => exact traced_takeIn h now i
  | change site => exact ⟨h.cache, h.calls⟩
  | sweep now =>
      refine ⟨fun key e he => ?_, h.calls⟩
      have hrecorded := recorded_apply h.cache now .cleanup he
      rw [show Cache.Operation.cleanup.stored t.cache = [] from rfl, List.append_nil] at hrecorded
      exact hrecorded

/-- Every run of traced traffic is traced. -/
lemma traced_run {t : Traffic} (h : Traced d t) (moves : List Move) :
    Traced d (Traffic.run d t moves) := by
  induction moves generalizing t with
  | nil => exact h
  | cons move moves ih => exact ih (traced_step h move)

/-- Traffic that has not begun is traced. -/
lemma traced_start (d : RemoteDirectory) (limits : Cache.Limits) (site : Site) :
    Traced d (.start limits site) :=
  ⟨fun _ _ he => (nomatch he), fun _ hcall => absurd hcall List.not_mem_nil⟩

/-! ## The exact condition -/

/-- What it takes for a resolution to be confirmed. -/
lemma exists_of_isConfirmed {call : Option Call} {identity tag : String}
    (h : call.any (·.isConfirmed identity tag) = true) :
    ∃ request stored reply, call = some (.answered identity request stored (.ok reply)) ∧
      reply.status = 304 ∧ request.ifNoneMatch = some tag := by
  rcases call with _ | (_ | ⟨name, request, stored, _ | reply⟩ | _)
  · cases h
  · cases h
  · cases h
  · simp only [Option.any_some, Call.isConfirmed, Bool.and_eq_true, decide_eq_true_eq] at h
    obtain ⟨⟨rfl, hstatus⟩, htag⟩ := h
    exact ⟨request, stored, reply, rfl, hstatus, htag⟩
  · cases h

section Confirmation

variable {t : Traffic} {i : Nat} {identity : String} {request : Request}
  {stored : Option Cache.Entry} {reply : Reply}

/-- A confirmation renews what then stands under its key. -/
lemma renewals_of_confirmation (d : RemoteDirectory)
    (hcall : t.calls[i]? = some (.answered identity request stored (.ok reply)))
    (hstatus : reply.status = 304) (now : Moment) :
    t.renewals d now i =
      ((t.cache.find? (d.cacheKey identity)).map fun e => (d.cacheKey identity,
        { e with storedAt := now, freshFor := t.cache.freshness reply.maxAge? })).toList := by
  have htaken : d.takingIn now identity t.cache (.ok reply) =
      some (.refresh (d.cacheKey identity) (t.cache.freshness reply.maxAge?)) :=
    takingIn_eq_some_iff.mpr (.inl ⟨reply, rfl, hstatus, rfl⟩)
  unfold Traffic.renewals
  simp only [hcall, htaken, Option.toList_some, List.flatMap_cons, List.flatMap_nil,
    List.append_nil]
  unfold Cache.Operation.actions
  rcases hfound : t.cache.find? (d.cacheKey identity) with _ | e
  · simp [hfound]
  · simp [hfound]

/-- A confirmed resolution gives the body that stands under its key, or else the one that it
holds. -/
lemma calls_takeIn_of_confirmation
    (hcall : t.calls[i]? = some (.answered identity request stored (.ok reply)))
    (hstatus : reply.status = 304) (now : Moment) {e : Cache.Entry}
    (he : (t.cache.find? (d.cacheKey identity)).or stored = some e) :
    (t.takeIn d now i).calls[i]? = some (.finished (.ok (some e.body))) := by
  obtain ⟨hlt, -⟩ := List.getElem?_eq_some_iff.mp hcall
  unfold Traffic.takeIn
  simp only [hcall, conclude_of_confirmation _ _ _ _ hstatus, Cache.refresh_snd]
  rw [List.getElem?_set_self hlt]
  rcases hfound : t.cache.find? (d.cacheKey identity) with _ | e'
  · rw [hfound, Option.none_or] at he
    subst he
    rfl
  · rw [hfound, Option.some_or] at he
    cases he
    rfl

/-- The law of a confirmation holds if and only if what stands under its key is still of the tag
that was sent. -/
lemma Traced.keepsTag_iff (h : Traced d t) {tag : String}
    (hconfirmed : t.calls[i]?.any (·.isConfirmed identity tag) = true) (now : Moment) :
    t.KeepsTag d now i (d.cacheKey identity) tag ↔
      ∀ e, t.cache.find? (d.cacheKey identity) = some e → e.etag = some tag := by
  obtain ⟨request, stored, reply, hcall, hstatus, htag⟩ := exists_of_isConfirmed hconfirmed
  have hrenewals := renewals_of_confirmation d hcall hstatus now
  constructor
  · intro hkeeps e he
    have hrenewed := hkeeps.renewed
    rw [hrenewals, he] at hrenewed
    exact hrenewed _ (List.mem_singleton_self _)
  · intro htagged
    obtain ⟨rfl, hstored⟩ := h.calls _ (List.mem_of_getElem? hcall)
    obtain ⟨e₀, hheld, hetag⟩ := Option.bind_eq_some_iff.mp htag
    -- The entry that the body comes from, whether it still stands or was only held.
    obtain ⟨e, he, htag', first, hmem, hbody, hetag'⟩ : ∃ e,
        (t.cache.find? (d.cacheKey identity)).or stored = some e ∧ e.etag = some tag ∧
          Recorded t.kept (d.cacheKey identity) e := by
      rcases hfound : t.cache.find? (d.cacheKey identity) with _ | e
      · exact ⟨e₀, hheld, hetag, hstored e₀ hheld⟩
      · exact ⟨e, rfl, htagged e hfound, h.cache _ e hfound⟩
    refine ⟨⟨first, hmem, hetag'.trans htag', ?_⟩, ?_⟩
    · rw [hbody]
      exact calls_takeIn_of_confirmation hcall hstatus now he
    · intro entry hentry
      rw [hrenewals, Option.mem_toList] at hentry
      obtain ⟨e', hfound, rfl⟩ := Option.map_eq_some_iff.mp hentry
      exact htagged e' hfound

end Confirmation

/-- In every run, with the moves in any order, a resolution that sent a tag and gets it confirmed
keeps to that tag if and only if the entry under its key is gone or has that tag when the
confirmation is taken in.  If another answer was stored in the meantime, that one is renewed and
resolved from. -/
theorem keepsTag_confirmed_iff (d : RemoteDirectory) (limits : Cache.Limits) (site : Site)
    (moves : List Move) (now : Moment) {i : Nat} {identity tag : String}
    (hconfirmed : (Traffic.run d (.start limits site) moves).calls[i]?.any
      (·.isConfirmed identity tag) = true) :
    (Traffic.run d (.start limits site) moves).KeepsTag d now i (d.cacheKey identity) tag ↔
      ∀ e, (Traffic.run d (.start limits site) moves).cache.find? (d.cacheKey identity) = some e →
        e.etag = some tag :=
  (traced_run (traced_start d limits site) moves).keepsTag_iff hconfirmed now

/-- An answer is stored, and a minute later two resolutions ask for it to be confirmed.  The site
changes and answers the one, and changes back and confirms to the other. -/
def race (first second : Site) : List Move :=
  [.begin 0 "alice", .answer 0, .takeIn 0 0,
    .begin (Duration.ofSeconds 61) "alice", .begin (Duration.ofSeconds 61) "alice",
    .change second, .answer 2, .change first, .answer 1]

/-- As long as the first answer still stands, the confirmation keeps to its tag. -/
theorem keepsTag_confirmed_iff_race :
    let d := atHost "api.github.com"
    let first := Site.steady [91, 93] "\"v1\""
    let second := Site.steady [91, 123, 125, 93] "\"v2\""
    let t := Traffic.run d (.start .standard first) (race first second)
    t.calls[1]?.any (·.isConfirmed "alice" "\"v1\"") = true ∧
      t.KeepsTag d (Duration.ofSeconds 61) 1 (d.cacheKey "alice") "\"v1\"" := by
  intro d first second t
  have hconfirmed : t.calls[1]?.any (·.isConfirmed "alice" "\"v1\"") = true := by
    decide +kernel
  have hstands : (t.cache.find? (d.cacheKey "alice")).all
      (fun e => decide (e.etag = some "\"v1\"")) = true := by
    decide +kernel
  refine ⟨hconfirmed, (keepsTag_confirmed_iff d .standard first (race first second)
    (Duration.ofSeconds 61) hconfirmed).mpr ?_⟩
  intro e he
  have htag : (t.cache.find? (d.cacheKey "alice")) = some e := he
  rw [htag] at hstands
  simpa using hstands

/-- When the other resolution has stored its answer before the confirmation is taken in, the
confirmation renews that answer, and its resolution gives that body, although both sites are
honest and use no tag twice. -/
theorem renewed_under_another_tag :
    let d := atHost "api.github.com"
    let first := Site.steady [91, 93] "\"v1\""
    let second := Site.steady [91, 123, 125, 93] "\"v2\""
    let now : Moment := Duration.ofSeconds 61
    let t := Traffic.run d (.start .standard first) (race first second ++ [.takeIn now 2])
    (first.IsHonest ∧ second.IsHonest ∧ TagsAgree [first, second]) ∧
      t.calls[1]?.any (·.isConfirmed "alice" "\"v1\"") = true ∧
      ¬ t.KeepsTag d now 1 (d.cacheKey "alice") "\"v1\"" := by
  intro d first second now t
  have hfirst : plainText? (Text.Utf8.encodeText "\"v1\"") = some "\"v1\"" := by decide +kernel
  have hsecond : plainText? (Text.Utf8.encodeText "\"v2\"") = some "\"v2\"" := by decide +kernel
  refine ⟨⟨steady_isHonest hfirst _, steady_isHonest hsecond _, ?_⟩, by decide +kernel, ?_⟩
  · intro s hs s' hs' url tag body body' h h'
    simp only [List.mem_cons, List.not_mem_nil, or_false] at hs hs'
    rcases hs with rfl | rfl <;> rcases hs' with rfl | rfl
    · exact holds_unique h h'
    · obtain ⟨-, htag⟩ := steady_holds h
      obtain ⟨-, htag'⟩ := steady_holds h'
      rw [htag, hfirst, hsecond] at htag'
      exact absurd htag' (by decide)
    · obtain ⟨-, htag⟩ := steady_holds h
      obtain ⟨-, htag'⟩ := steady_holds h'
      rw [htag, hfirst, hsecond] at htag'
      exact absurd htag' (by decide)
    · exact holds_unique h h'
  · intro hkeeps
    have hother : (t.renewals d now 1).any (fun entry => decide (entry.2.etag = some "\"v2\"")) =
        true := by
      decide +kernel
    obtain ⟨entry, hentry, htag⟩ := List.any_eq_true.mp hother
    rw [hkeeps.renewed entry hentry] at htag
    exact absurd htag (by decide)

end KeyDirectory.RemoteDirectory
