import KeyDirectory.Proofs.Remote.Steps

/-!
# Honest sites

What can be concluded from an answer of a site that confirms only what it has.

* `eq_plain_of_not_confirmation`: unless it confirms, an honest site disregards the tag.
* `holds_of_ok`: a complete answer with status 200 is what the site holds.
* `steady_isHonest`, `steady_holds`: the sites that never change are honest, and what they hold.
-/

namespace KeyDirectory.RemoteDirectory

open Remote

/-- An honest site has nothing to confirm when it gets no tag. -/
lemma not_isConfirmation_plain {site : Site} (h : site.IsHonest) (url : String) :
    ¬ IsConfirmation (site url none) := by
  rintro ⟨reply, hreply, hstatus⟩
  obtain ⟨body, htag, -⟩ := h.confirms url none reply hreply hstatus
  cases htag

/-- An honest site that confirms nothing answers as if there were no tag. -/
lemma eq_plain_of_not_confirmation {site : Site} (h : site.IsHonest) {url : String}
    {tag : Option String} (hnot : ¬ IsConfirmation (site url tag)) :
    site url tag = site url none := by
  rcases h.otherwise url tag with heq | ⟨reply, hreply, hstatus⟩
  · exact heq
  · exact absurd ⟨reply, hreply, hstatus⟩ hnot

/-- What an honest site sends with the status 200 it sends without a tag too. -/
lemma holds_of_ok {site : Site} (h : site.IsHonest) {url : String} {tag : Option String}
    {reply : Reply} (hreply : site url tag = .ok reply) (hstatus : reply.status = 200)
    {body : List UInt8} (hbody : reply.body = .ok body) : site.Holds url body reply.etag? := by
  have hnot : ¬ IsConfirmation (site url tag) := by
    rintro ⟨reply', hreply', hstatus'⟩
    rw [hreply] at hreply'
    cases hreply'
    rw [hstatus] at hstatus'
    cases hstatus'
  rw [eq_plain_of_not_confirmation h hnot] at hreply
  exact ⟨reply, hreply, by simp [Reply.isSuccess, hstatus], hbody, rfl⟩

/-- A site has one body for a URL. -/
lemma holds_unique {site : Site} {url : String} {body body' : List UInt8}
    {tag tag' : Option String} (h : site.Holds url body tag) (h' : site.Holds url body' tag') :
    body = body' := by
  obtain ⟨reply, hreply, -, hbody, -⟩ := h
  obtain ⟨reply', hreply', -, hbody', -⟩ := h'
  rw [hreply] at hreply'
  cases hreply'
  rw [hbody] at hbody'
  exact Except.ok.inj hbody'

/-- A steady site is honest, if its tag can be read in a header. -/
lemma steady_isHonest {tag : String} (hplain : plainText? (Text.Utf8.encodeText tag) = some tag)
    (body : List UInt8) : (Site.steady body tag).IsHonest where
  confirms := by
    intro url sent reply hreply hstatus
    unfold Site.steady at hreply
    split_ifs at hreply with hsent
    · subst hsent
      exact ⟨body, rfl, _, if_neg (by simp), rfl, rfl, hplain⟩
    · cases hreply
      cases hstatus
  otherwise := by
    intro url sent
    by_cases hsent : sent = some tag
    · exact .inr ⟨_, if_pos hsent, rfl⟩
    · refine .inl ?_
      unfold Site.steady
      rw [if_neg hsent, if_neg (by simp)]

/-- What a steady site holds. -/
lemma steady_holds {body body' : List UInt8} {tag url : String} {tag' : Option String}
    (h : (Site.steady body tag).Holds url body' tag') :
    body' = body ∧ tag' = plainText? (Text.Utf8.encodeText tag) := by
  obtain ⟨reply, hreply, -, hbody, hetag⟩ := h
  unfold Site.steady at hreply
  rw [if_neg (by simp)] at hreply
  cases hreply
  exact ⟨(Except.ok.inj hbody).symm, hetag.symm⟩

end KeyDirectory.RemoteDirectory
