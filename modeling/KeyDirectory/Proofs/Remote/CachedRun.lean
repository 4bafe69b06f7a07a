import KeyDirectory.Proofs.Remote.Site

/-!
# A cached run against one without a cache

Every answer of a run is the answer that the remote directory would have given without its
cache, either at the same time or when the stored answer was last known to be right.

* `attend_of_fresh`, `attend_of_unsendable`, `attend_of_asked`: the three ways a resolution can
  go.
* `Explained`: the invariant, that every stored answer goes back to an exchange of the diary.
* `explained_attend`: one resolution keeps the invariant, and its note is right.
* `diary_agrees_without_cache`: the result, for every note of every diary.
-/

namespace KeyDirectory.RemoteDirectory

open Remote

/-! ## One resolution -/

variable {d : RemoteDirectory} {v : Visit} {clock : Moment} {cache : Cache}

/-- A fresh answer is used without an exchange. -/
lemma attend_of_fresh {e : Cache.Entry}
    (hfound : (cache.get (clock.after v.pause) (d.cacheKey v.identity)).2 = some e)
    (hfresh : e.isFresh (clock.after v.pause) = true) :
    d.attend v clock cache =
      ((cache.get (clock.after v.pause) (d.cacheKey v.identity)).1,
        ⟨v, clock.after v.pause, none, clock.after v.pause,
          answer v.identity (some e.body)⟩) := by
  unfold attend get
  simp only [World.now, bind, StateT.bind, StateT.run, start_of_fresh hfound hfresh]
  rfl

/-- A request that cannot be sent is a failure, and there is no exchange. -/
lemma attend_of_unsendable
    (hstale : ∀ e, (cache.get (clock.after v.pause) (d.cacheKey v.identity)).2 = some e →
      e.isFresh (clock.after v.pause) = false)
    (hsend : (d.request v.identity none).isSendable = false) :
    d.attend v clock cache =
      ((cache.get (clock.after v.pause) (d.cacheKey v.identity)).1,
        ⟨v, clock.after v.pause, none, clock.after v.pause,
          .error (.remote TransportFault.unsendable.text)⟩) := by
  unfold attend get
  rw [isSendable_request d v.identity v.identity none
    (cache.get (clock.after v.pause) (d.cacheKey v.identity)).2] at hsend
  simp only [World.now, bind, StateT.bind, StateT.run, start_of_stale hstale, send, hsend]
  rfl

/-- Otherwise the site is asked with the tag of what is stored, and its answer is taken in. -/
lemma attend_of_asked
    (hstale : ∀ e, (cache.get (clock.after v.pause) (d.cacheKey v.identity)).2 = some e →
      e.isFresh (clock.after v.pause) = false)
    (hsend : (d.request v.identity none).isSendable = true) :
    d.attend v clock cache =
      let begun := clock.after v.pause
      let found := cache.get begun (d.cacheKey v.identity)
      let outcome := v.site (d.urlText v.identity) (found.2.bind (·.etag))
      let concluded := d.conclude (begun.after v.delay) v.identity found.2 outcome found.1
      (concluded.1,
        ⟨v, begun, some outcome, begun.after v.delay, concluded.2.bind (answer v.identity)⟩) := by
  unfold attend get
  rw [isSendable_request d v.identity v.identity none
    (cache.get (clock.after v.pause) (d.cacheKey v.identity)).2] at hsend
  simp only [World.now, bind, StateT.bind, StateT.run, start_of_stale hstale, send, hsend,
    if_true]
  rfl

/-! ## Without a cache -/

/-- On an empty cache every lookup misses and asks without a tag. -/
lemma start_empty (d : RemoteDirectory) (limits : Cache.Limits) (now : Moment)
    (identity : String) :
    d.start now identity (.empty limits) =
      ({ Cache.empty limits with misses := 1 }, .ask (d.request identity none) none) := rfl

/-- Without a cache, a request that can be sent is answered by what the site sends for it. -/
lemma uncachedAnswer_of_sendable {d : RemoteDirectory} {identity : String}
    (hsend : (d.request identity none).isSendable = true) {site : Site}
    (hplain : ¬ IsConfirmation (site (d.urlText identity) none)) (limits : Cache.Limits)
    (now now' : Moment) (stored : Option Cache.Entry) (cache : Cache) :
    d.uncachedAnswer limits now site identity =
      (d.conclude now' identity stored (site (d.urlText identity) none) cache).2.bind
        (answer identity) := by
  rw [conclude_snd_congr d now' now identity stored none hplain cache
    { Cache.empty { limits with maxBytes := 0 } with misses := 1 }]
  unfold uncachedAnswer get
  simp only [start_empty, send, hsend, if_true, pure_bind]
  rfl

/-- Without a cache, a request that cannot be sent is a failure. -/
lemma uncachedAnswer_of_unsendable {d : RemoteDirectory} {identity : String}
    (hsend : (d.request identity none).isSendable = false) (site : Site)
    (limits : Cache.Limits) (now : Moment) :
    d.uncachedAnswer limits now site identity =
      .error (.remote TransportFault.unsendable.text) := by
  unfold uncachedAnswer get
  simp only [start_empty, send, hsend, pure_bind]
  rfl

/-- A site that has a body for a URL makes the remote directory answer with it. -/
lemma uncachedAnswer_of_holds {d : RemoteDirectory} {identity : String}
    (hsend : (d.request identity none).isSendable = true) {site : Site} {body : List UInt8}
    {tag : Option String} (h : site.Holds (d.urlText identity) body tag) (limits : Cache.Limits)
    (now : Moment) : d.uncachedAnswer limits now site identity = answer identity (some body) := by
  obtain ⟨reply, hreply, hsuccess, hbody, -⟩ := h
  have hplain : ¬ IsConfirmation (site (d.urlText identity) none) := by
    rintro ⟨reply', hreply', hstatus⟩
    rw [hreply] at hreply'
    cases hreply'
    simp [Reply.isSuccess, hstatus] at hsuccess
  rw [uncachedAnswer_of_sendable hsend hplain limits now now none (.empty limits), hreply,
    conclude_snd_of_success d now identity none hsuccess hbody]
  rfl

/-! ## The invariant -/

/-- What is stale stays stale. -/
lemma isFresh_eq_false_of_le {e : Cache.Entry} {now later : Moment} (hle : now ≤ later)
    (h : e.isFresh now = false) : e.isFresh later = false := by
  have hage : e.age now ≤ e.age later := Int.toNat_le_toNat (Int.sub_le_sub_right hle _)
  unfold Cache.Entry.isFresh at *
  rcases hlifetime : e.freshFor with _ | lifetime
  · rw [hlifetime] at h
    cases h
  · rw [hlifetime] at h
    simp only [decide_eq_false_iff_not, Nat.not_lt] at *
    exact Nat.le_trans h hage

/-- A note tells of the exchange that gave an entry its body and its marks: what the site had
then is what the entry holds. -/
structure Note.Gives (d : RemoteDirectory) (limits : Cache.Limits) (url : String) (source : Note)
    (e : Cache.Entry) : Prop where
  urlText_eq : d.urlText source.visit.identity = url
  isSendable : (d.request source.visit.identity none).isSendable = true
  exchanged : ∃ reply, source.exchanged = some (.ok reply) ∧
    (reply.status = 200 ∨ reply.status = 304) ∧
    e.freshFor = (Cache.empty limits).freshness reply.maxAge?
  holds : source.visit.site.Holds url e.body e.etag
  storedAt_eq : e.storedAt = source.ended

/-- An entry goes back to a note of the diary, and if something was exchanged about its URL since
then, it is stale. -/
def Backed (d : RemoteDirectory) (limits : Cache.Limits) (past : List Note) (clock : Moment)
    (url : String) (e : Cache.Entry) : Prop :=
  ∃ before source between, past = before ++ source :: between ∧ source.Gives d limits url e ∧
    ((∃ m ∈ between, d.urlText m.visit.identity = url ∧ m.exchanged ≠ none) →
      e.isFresh clock = false)

/-- Every entry of the cache goes back to the diary so far. -/
structure Explained (d : RemoteDirectory) (limits : Cache.Limits) (sites : List Site)
    (past : List Note) (clock : Moment) (cache : Cache) : Prop where
  limits_eq : cache.limits = limits
  site_mem : ∀ n ∈ past, n.visit.site ∈ sites
  backed : ∀ url e, cache.find? ("GET " ++ url) = some e → Backed d limits past clock url e

/-- An entry stays backed when time passes and when there is one more note, unless that note
tells of an exchange that the entry is too fresh for. -/
lemma Backed.extend {limits : Cache.Limits} {past : List Note} {clock later : Moment}
    {url : String} {e : Cache.Entry} (h : Backed d limits past clock url e)
    (hle : clock ≤ later) {n : Note}
    (hnote : d.urlText n.visit.identity = url → n.exchanged ≠ none → e.isFresh later = false) :
    Backed d limits (past ++ [n]) later url e := by
  obtain ⟨before, source, between, rfl, hgives, hstale⟩ := h
  refine ⟨before, source, between ++ [n], by simp, hgives, ?_⟩
  rintro ⟨m, hm, hurl, hexchanged⟩
  rcases List.mem_append.mp hm with hbetween | hlast
  · exact isFresh_eq_false_of_le hle (hstale ⟨m, hbetween, hurl, hexchanged⟩)
  · obtain rfl := List.mem_singleton.mp hlast
    exact hnote hurl hexchanged

/-- The last note backs what it gives. -/
lemma Note.Gives.backed {limits : Cache.Limits} {past : List Note} {clock : Moment} {url : String}
    {n : Note} {e : Cache.Entry} (h : n.Gives d limits url e) :
    Backed d limits (past ++ [n]) clock url e :=
  ⟨past, n, [], rfl, h, fun ⟨_, hm, _⟩ => absurd hm List.not_mem_nil⟩

/-! ## One resolution keeps the invariant -/

section Step

variable {limits : Cache.Limits} {sites : List Site} {past : List Note}

/-- A lookup keeps the limits an explained cache was opened with. -/
lemma Explained.limits_get (h : Explained d limits sites past clock cache) (now : Moment)
    (key : String) : (cache.get now key).1.limits = (Cache.empty limits).limits :=
  (Cache.limits_apply now cache (.get key)).trans h.limits_eq

/-- With one more note of one of the sites, all notes are still of the sites. -/
lemma Explained.site_mem_concat (h : Explained d limits sites past clock cache) {n : Note}
    (hsite : n.visit.site ∈ sites) : ∀ m ∈ past ++ [n], m.visit.site ∈ sites := by
  intro m hm
  rcases List.mem_append.mp hm with hpast | hlast
  · exact h.site_mem m hpast
  · obtain rfl := List.mem_singleton.mp hlast
    exact hsite

/-- A resolution without an exchange keeps the invariant. -/
lemma Explained.of_get (h : Explained d limits sites past clock cache) {later : Moment}
    (hle : clock ≤ later) {key : String} {n : Note} (hsite : n.visit.site ∈ sites)
    (hexchanged : n.exchanged = none) :
    Explained d limits sites (past ++ [n]) later (cache.get later key).1 where
  limits_eq := h.limits_get later key
  site_mem := h.site_mem_concat hsite
  backed := by
    intro url e he
    exact (h.backed url e (Cache.find?_of_find?_get he)).extend hle
      fun _ hasked => absurd hexchanged hasked

/-- The answer of a lookup is fresh for less time than the cache and the reply allow. -/
lemma lt_of_isFresh {e : Cache.Entry} {now : Moment} {allowed : Option Duration}
    (hfreshFor : e.freshFor = (Cache.empty limits).freshness allowed)
    (hfresh : e.isFresh now = true) :
    (∀ maxAge, limits.maxAge = some maxAge → e.storedAt.since now < maxAge) ∧
      ∀ maxAge, allowed = some maxAge → e.storedAt.since now < maxAge := by
  unfold Cache.freshness Cache.empty at hfreshFor
  unfold Cache.Entry.isFresh Cache.Entry.age at hfresh
  rw [hfreshFor] at hfresh
  constructor
  · intro maxAge hmax
    rw [hmax] at hfresh
    rcases allowed with _ | time
    · simpa using hfresh
    · simp only [decide_eq_true_eq] at hfresh
      exact Nat.lt_of_lt_of_le hfresh (Nat.min_le_left _ _)
  · rintro time rfl
    rcases hmax : limits.maxAge with _ | maxAge
    · rw [hmax] at hfresh
      simpa using hfresh
    · rw [hmax] at hfresh
      simp only [decide_eq_true_eq] at hfresh
      exact Nat.lt_of_lt_of_le hfresh (Nat.min_le_right _ _)

/-- A fresh answer is one that the site gave before. -/
lemma isStored_of_fresh (h : Explained d limits sites past clock cache)
    (hle : clock ≤ clock.after v.pause) {e : Cache.Entry}
    (hfound : (cache.get (clock.after v.pause) (d.cacheKey v.identity)).2 = some e)
    (hfresh : e.isFresh (clock.after v.pause) = true) :
    Note.IsStored d limits past
      ⟨v, clock.after v.pause, none, clock.after v.pause, answer v.identity (some e.body)⟩ := by
  obtain ⟨hentry, -⟩ := Cache.get_eq_some_iff.mp hfound
  rw [cacheKey_eq] at hentry
  obtain ⟨before, source, between, hpast, hgives, hstale⟩ := h.backed _ e hentry
  obtain ⟨reply, hexchanged, hstatus, hfreshFor⟩ := hgives.exchanged
  obtain ⟨hcache, hreply⟩ := lt_of_isFresh hfreshFor hfresh
  rw [hgives.storedAt_eq] at hcache hreply
  have hsend := hgives.isSendable
  rw [isSendable_request d _ v.identity none none] at hsend
  refine ⟨rfl, before, source, between, reply, hpast, hgives.urlText_eq, hexchanged, hstatus, ?_,
    (uncachedAnswer_of_holds hsend hgives.holds limits source.ended).symm, hcache, hreply⟩
  intro m hm hurl
  by_contra hasked
  have hnot := isFresh_eq_false_of_le hle (hstale ⟨m, hm, hurl, hasked⟩)
  rw [hnot] at hfresh
  cases hfresh

/-- What an honest site confirms is the body that it has. -/
lemma holds_of_confirmation (h : Explained d limits sites past clock cache)
    (hhonest : v.site.IsHonest) (hsite : v.site ∈ sites) (htags : TagsAgree sites)
    {now : Moment} {reply : Reply}
    (hreply : v.site (d.urlText v.identity)
      ((cache.get now (d.cacheKey v.identity)).2.bind (·.etag)) = .ok reply)
    (hstatus : reply.status = 304) :
    ∃ e, (cache.get now (d.cacheKey v.identity)).2 = some e ∧
      v.site.Holds (d.urlText v.identity) e.body e.etag := by
  obtain ⟨body, htag, hholds⟩ := hhonest.confirms _ _ reply hreply hstatus
  rcases hfound : (cache.get now (d.cacheKey v.identity)).2 with _ | e
  · rw [hfound] at htag
    cases htag
  · rw [hfound] at htag hholds
    refine ⟨e, rfl, ?_⟩
    obtain ⟨tag, hetag⟩ := Option.isSome_iff_exists.mp htag
    simp only [Option.bind_some] at hetag hholds
    obtain ⟨hentry, -⟩ := Cache.get_eq_some_iff.mp hfound
    rw [cacheKey_eq] at hentry
    obtain ⟨before, source, between, rfl, hgives, -⟩ := h.backed _ e hentry
    have hsource : source.visit.site ∈ sites := h.site_mem source (by simp)
    have hbefore := hgives.holds
    rw [hetag] at hholds hbefore ⊢
    rw [htags _ hsource _ hsite _ tag _ _ hbefore hholds]
    exact hholds

/-- The answer of a resolution that asks is the one without a cache. -/
lemma answer_of_asked (h : Explained d limits sites past clock cache)
    (hhonest : v.site.IsHonest) (hsite : v.site ∈ sites) (htags : TagsAgree sites)
    (hsend : (d.request v.identity none).isSendable = true) (now ended : Moment) :
    (d.conclude ended v.identity (cache.get now (d.cacheKey v.identity)).2
        (v.site (d.urlText v.identity)
          ((cache.get now (d.cacheKey v.identity)).2.bind (·.etag)))
        (cache.get now (d.cacheKey v.identity)).1).2.bind (answer v.identity) =
      d.uncachedAnswer limits now v.site v.identity := by
  by_cases hconfirmed : IsConfirmation (v.site (d.urlText v.identity)
    ((cache.get now (d.cacheKey v.identity)).2.bind (·.etag)))
  · obtain ⟨reply, hreply, hstatus⟩ := hconfirmed
    obtain ⟨e, hfound, hholds⟩ := holds_of_confirmation h hhonest hsite htags hreply hstatus
    rw [hreply, conclude_of_confirmation _ _ _ _ hstatus, uncachedAnswer_of_holds hsend hholds]
    simp only [Cache.refresh_snd, Cache.find?_get_of_get hfound]
    rfl
  · rw [eq_plain_of_not_confirmation hhonest hconfirmed]
    exact (uncachedAnswer_of_sendable hsend (not_isConfirmation_plain hhonest _) limits now _ _
      _).symm

section Asked

variable {now ended : Moment} {outcome : Outcome}

/-- An entry that is found after an outcome was taken in is the one that its note gives, or was
there before. -/
lemma Explained.gives_or_kept (h : Explained d limits sites past clock cache)
    (hhonest : v.site.IsHonest) (hsite : v.site ∈ sites) (htags : TagsAgree sites)
    (hsend : (d.request v.identity none).isSendable = true)
    (houtcome : v.site (d.urlText v.identity)
      ((cache.get now (d.cacheKey v.identity)).2.bind (·.etag)) = outcome) (result : Answer)
    {op : Cache.Operation}
    (htaken : d.takingIn ended v.identity (cache.get now (d.cacheKey v.identity)).1 outcome =
      some op) {url : String} {e : Cache.Entry}
    (he : (op.apply ended (cache.get now (d.cacheKey v.identity)).1).find? ("GET " ++ url) =
      some e) :
    Note.Gives d limits url ⟨v, now, some outcome, ended, result⟩ e ∨
      (cache.get now (d.cacheKey v.identity)).1.find? ("GET " ++ url) = some e := by
  have hfreshness := freshness_congr (h.limits_get now (d.cacheKey v.identity))
  rcases takingIn_eq_some_iff.mp htaken with
    ⟨reply, rfl, hstatus, rfl⟩ | ⟨reply, body, rfl, hstatus, hbody, rfl⟩
  · obtain ⟨e', hfound, hholds⟩ := holds_of_confirmation h hhonest hsite htags houtcome hstatus
    simp only [Cache.Operation.apply] at he
    rw [Cache.find?_refresh, Cache.find?_get_of_get hfound] at he
    split_ifs at he with hkey
    · cases he
      obtain rfl := cacheKey_inj hkey
      exact .inl ⟨rfl, hsend, ⟨reply, rfl, .inr hstatus, hfreshness _⟩, hholds, rfl⟩
    · exact .inr he
  · rcases Cache.find?_insert_eq_some_iff.mp he with ⟨hentry, -⟩ | ⟨hkey, rfl, -⟩
    · exact .inr hentry
    · obtain rfl := cacheKey_inj hkey.symm
      have hholds := holds_of_ok hhonest houtcome hstatus hbody
      exact .inl ⟨rfl, hsend, ⟨reply, rfl, .inl hstatus, hfreshness _⟩, hholds, rfl⟩

/-- A resolution that asks keeps the invariant. -/
lemma Explained.of_asked (h : Explained d limits sites past clock cache)
    (hhonest : v.site.IsHonest) (hsite : v.site ∈ sites) (htags : TagsAgree sites)
    (hsend : (d.request v.identity none).isSendable = true)
    (hnow : clock ≤ now) (hended : now ≤ ended)
    (hstale : ∀ e, (cache.get now (d.cacheKey v.identity)).2 = some e → e.isFresh now = false)
    (houtcome : v.site (d.urlText v.identity)
      ((cache.get now (d.cacheKey v.identity)).2.bind (·.etag)) = outcome) (result : Answer) :
    Explained d limits sites (past ++ [⟨v, now, some outcome, ended, result⟩]) ended
      (d.conclude ended v.identity (cache.get now (d.cacheKey v.identity)).2 outcome
        (cache.get now (d.cacheKey v.identity)).1).1 where
  limits_eq := (limits_conclude _ _ _ _ _ _).trans (h.limits_get now _)
  site_mem := h.site_mem_concat hsite
  backed := by
    intro url e he
    -- An entry that was there before is too stale for the note, if it is of the same URL.
    have hkept : (cache.get now (d.cacheKey v.identity)).1.find? ("GET " ++ url) = some e →
        Backed d limits (past ++ [⟨v, now, some outcome, ended, result⟩]) ended url e := by
      intro hbefore
      refine (h.backed url e (Cache.find?_of_find?_get hbefore)).extend
        (Int.le_trans hnow hended) ?_
      rintro rfl -
      exact isFresh_eq_false_of_le hended (hstale e (Cache.get_of_find?_get hbefore))
    rw [conclude_fst] at he
    rcases htaken : d.takingIn ended v.identity (cache.get now (d.cacheKey v.identity)).1
      outcome with _ | op
    · rw [htaken] at he
      exact hkept he
    · rw [htaken, Option.elim_some] at he
      rcases h.gives_or_kept hhonest hsite htags hsend houtcome result htaken he with
        hgives | hbefore
      · exact hgives.backed
      · exact hkept hbefore

end Asked

/-- One resolution keeps the invariant, and its note is right. -/
lemma explained_attend (h : Explained d limits sites past clock cache)
    (hhonest : v.site.IsHonest) (hsite : v.site ∈ sites) (htags : TagsAgree sites) :
    let note := (d.attend v clock cache).2
    Explained d limits sites (past ++ [note]) note.ended (d.attend v clock cache).1 ∧
      (note.IsDirect d limits ∨ note.IsStored d limits past) := by
  have hnow : clock ≤ clock.after v.pause := Moment.le_after (Int.le_refl clock) v.pause
  by_cases hfresh : ∃ e, (cache.get (clock.after v.pause) (d.cacheKey v.identity)).2 = some e ∧
      e.isFresh (clock.after v.pause) = true
  · obtain ⟨e, hfound, hfresh⟩ := hfresh
    rw [attend_of_fresh hfound hfresh]
    exact ⟨h.of_get hnow hsite rfl, .inr (isStored_of_fresh h hnow hfound hfresh)⟩
  · have hstale : ∀ e, (cache.get (clock.after v.pause) (d.cacheKey v.identity)).2 = some e →
        e.isFresh (clock.after v.pause) = false := by
      intro e he
      by_contra hnot
      exact hfresh ⟨e, he, by simpa using hnot⟩
    rcases hsend : (d.request v.identity none).isSendable with _ | _
    · rw [attend_of_unsendable hstale hsend]
      refine ⟨h.of_get hnow hsite rfl, .inl ⟨.inr hsend, ?_⟩⟩
      exact (uncachedAnswer_of_unsendable hsend v.site limits _).symm
    · rw [attend_of_asked hstale hsend]
      have hanswered := Moment.le_after (Int.le_refl (clock.after v.pause)) v.delay
      refine ⟨h.of_asked hhonest hsite htags hsend hnow hanswered hstale rfl _,
        .inl ⟨.inl rfl, ?_⟩⟩
      exact answer_of_asked h hhonest hsite htags hsend _ _

end Step

/-! ## Whole runs -/

/-- The cache starts without anything to explain. -/
lemma explained_empty (d : RemoteDirectory) (limits : Cache.Limits) (sites : List Site)
    (clock : Moment) : Explained d limits sites [] clock (.empty limits) :=
  ⟨rfl, fun _ hn => absurd hn List.not_mem_nil, fun _ _ he => by cases he⟩

/-- Every note of a diary that goes on from an explained cache is right. -/
lemma diary_of_explained {d : RemoteDirectory} {limits : Cache.Limits} {sites : List Site}
    (htags : TagsAgree sites) {visits : List Visit} {past : List Note} {clock : Moment}
    {cache : Cache} (h : Explained d limits sites past clock cache)
    (hvisits : ∀ v ∈ visits, v.site.IsHonest ∧ v.site ∈ sites) {earlier later : List Note}
    {n : Note} (hdiary : d.diary clock cache visits = earlier ++ n :: later) :
    n.IsDirect d limits ∨ n.IsStored d limits (past ++ earlier) := by
  induction visits generalizing past clock cache earlier with
  | nil => cases earlier <;> cases hdiary
  | cons v visits ih =>
      obtain ⟨hhonest, hsite⟩ := hvisits v (by simp)
      obtain ⟨hnext, hright⟩ := explained_attend h hhonest hsite htags
      unfold diary at hdiary
      cases earlier with
      | nil =>
          obtain ⟨rfl, -⟩ := List.cons.inj hdiary
          rw [List.append_nil]
          exact hright
      | cons first earlier =>
          obtain ⟨rfl, hrest⟩ := List.cons.inj hdiary
          have hind := ih hnext (fun w hw => hvisits w (by simp [hw])) hrest
          rw [List.append_assoc] at hind
          exact hind

/-- In every diary over a cache that was empty at first, with any limits, any passing of time and
sites that change as they like, every answer is the one without a cache: at the time of the
resolution if it asked, and at the end of the last exchange about its URL if it did not. -/
theorem diary_agrees_without_cache (d : RemoteDirectory) (limits : Cache.Limits) (clock : Moment)
    (visits : List Visit) (hhonest : ∀ v ∈ visits, v.site.IsHonest)
    (htags : TagsAgree (visits.map (·.site))) {earlier later : List Note} {n : Note}
    (hdiary : d.diary clock (.empty limits) visits = earlier ++ n :: later) :
    n.IsDirect d limits ∨ n.IsStored d limits earlier :=
  diary_of_explained htags (explained_empty d limits _ clock)
    (fun v hv => ⟨hhonest v hv, List.mem_map_of_mem hv⟩) hdiary

/-- Two resolutions in a row at a steady site, of which the second does not ask. -/
theorem diary_agrees_without_cache_steady :
    let d := atHost "api.github.com"
    let site := Site.steady [91, 93] "\"v1\""
    let visits : List Visit := [⟨"alice", 0, 5, site⟩, ⟨"alice", 10, 5, site⟩]
    (∀ v ∈ visits, v.site.IsHonest) ∧ TagsAgree (visits.map (·.site)) ∧
      ∃ first second, d.diary 0 (.empty .standard) visits = [first] ++ second :: [] ∧
        second.exchanged.isSome = false ∧
        (second.IsDirect d .standard ∨ second.IsStored d .standard [first]) := by
  intro d site visits
  have hvisits : ∀ v ∈ visits, v.site.IsHonest := by
    simpa [visits] using steady_isHonest (by decide +kernel) _
  have htags : TagsAgree (visits.map (·.site)) := by
    intro s hs s' hs' url tag body body' h h'
    obtain rfl : s = site := by simpa [visits] using hs
    obtain rfl : s' = site := by simpa [visits] using hs'
    exact holds_unique h h'
  refine ⟨hvisits, htags, _, _, rfl, ?_,
    diary_agrees_without_cache d .standard 0 visits hvisits htags rfl⟩
  decide +kernel

end KeyDirectory.RemoteDirectory
