import KeyDirectory.Listing.Format
import KeyDirectory.Listing.PageView
import KeyDirectory.Proofs.Text.Markup
import KeyDirectory.Proofs.Timestamp

/-!
# A page has no other markup than its own

A page is what its parts are written as: the texts and values that come from outside are escaped,
and a source and a time hold no character that means anything.  So a reader of markup finds the
parts again, whatever identity and keys there are, and its tags are those of a page with as many
blank rows.

* `outline_pageParts`: the tags of a page and where the values of their attributes are.
* `write_pageView`: the text of a page is its parts written out.
* `page_contained`: the result.
-/

namespace KeyDirectory.Listing

open Text.Entity (escape escapeChar escapeChars escapeChars_append escapeChars_eq_self
  exists_reference isSpecial not_mem_escapeChars)
open Text.Markup (Part Tag plain withValue writeAttribute)

/-! ## Tags -/

/-- The outline of the rows is told by their number. -/
lemma outline_rows (rows : List (String × String)) :
    (rows.flatMap rowParts).map Part.outline =
      ((List.replicate rows.length ("", "")).flatMap rowParts).map Part.outline := by
  induction rows with
  | nil => rfl
  | cons row rows ih =>
      rw [List.flatMap_cons, List.map_append, ih, List.length_cons, List.replicate_succ,
        List.flatMap_cons, List.map_append]
      rfl

/-- So is the outline of the page. -/
theorem outline_pageParts (identity source time : String) (rows : List (String × String)) :
    (pageParts identity source time rows).map Part.outline = pageOutline rows.length := by
  have hrows : rows = [] ↔ List.replicate rows.length ("", "") = [] := by simp
  simp only [pageOutline, pageParts, List.map_append, ← hrows]
  split_ifs
  · rfl
  · rw [outline_rows]
    rfl

/-- All tags of the outline are proper ones. -/
lemma isProper_pageOutline (n : Nat) : ∀ tag ∈ pageOutline n, tag.isProper = true := by
  have hhead : ∀ p ∈ prologParts ++ headParts "" "" "", p.outline.isProper = true := by
    decide +kernel
  have hrow : ∀ p ∈ rowParts ("", ""), p.outline.isProper = true := by decide +kernel
  have hnone : ∀ p ∈ noKeysParts, p.outline.isProper = true := by decide +kernel
  have hfoot : ∀ p ∈ footParts "", p.outline.isProper = true := by decide +kernel
  intro tag htag
  obtain ⟨p, hp, rfl⟩ := List.mem_map.mp htag
  rw [pageParts, List.mem_append, List.mem_append] at hp
  rcases hp with (hp | hp) | hp
  · exact hhead p hp
  · split_ifs at hp
    · exact hnone p hp
    · obtain ⟨row, hmem, hp⟩ := List.mem_flatMap.mp hp
      rw [List.eq_of_mem_replicate hmem] at hp
      exact hrow p hp
  · exact hfoot p hp

/-- So are those of the page, whatever it shows. -/
lemma isProper_pageParts {identity source time : String} {rows : List (String × String)} {p : Part}
    (hp : p ∈ pageParts identity source time rows) : p.tag.isProper = true := by
  rw [← Text.Markup.isProper_outline]
  refine isProper_pageOutline rows.length _ ?_
  rw [← outline_pageParts identity source time]
  exact List.mem_map_of_mem hp

/-! ## Texts -/

/-- The row of a page without keys, written out. -/
lemma write_noKeysParts :
    "<li><em>No keys</em></li>\n".toList = noKeysParts.flatMap Part.write := by
  decide +kernel

/-- The row of one key, written out. -/
lemma write_rowParts (key : PublicKey) :
    (pageRow key).toList = (rowParts (key.canonical, key.fingerprint)).flatMap Part.write := by
  simp [pageRow, rowParts, plain, Part.write, escape, escapeChars, escapeChar]

/-- The rows of all keys, written out. -/
lemma write_rows (keys : List PublicKey) : (pageRows keys).toList =
    (if keys.map (fun key => (key.canonical, key.fingerprint)) = [] then noKeysParts
      else (keys.map fun key => (key.canonical, key.fingerprint)).flatMap rowParts).flatMap
        Part.write := by
  simp only [pageRows, List.isEmpty_iff, List.map_eq_nil_iff]
  split_ifs
  · exact write_noKeysParts
  · rw [String.toList_join, List.flatMap_map, List.flatMap_map, List.flatMap_assoc]
    exact congrArg (keys.flatMap ·) (funext write_rowParts)

/-- The word for a source is written as it is. -/
lemma escapeChars_origin (origin : Origin) :
    escapeChars origin.text.toList = origin.text.toList := by
  cases origin <;> decide +kernel

/-- A timestamp is written as it is. -/
lemma escapeChars_timestamp (t : Timestamp) : escapeChars t.text.toList = t.text.toList := by
  have hne : ∀ c ∈ t.text.toList, ∀ d, Timestamp.isShown d = false → c ≠ d := by
    rintro c hc d hd rfl
    exact Timestamp.not_mem_text hd t hc
  refine escapeChars_eq_self fun c hc => ⟨hne c hc _ (by decide), ?_⟩
  simp [isSpecial, hne c hc '<' (by decide), hne c hc '>' (by decide), hne c hc '"' (by decide),
    hne c hc '\'' (by decide)]

/-- What a page begins with, written out. -/
lemma write_prologParts : prologParts.flatMap Part.write =
    ("<!DOCTYPE html>\n<html lang=\"en\">\n<head>\n<meta charset=\"utf-8\">\n" ++
      "<meta name=\"viewport\" content=\"width=device-width, initial-scale=1\">\n").toList := by
  decide +kernel

/-- The heading of a page, written out. -/
lemma write_headParts (identity : String) {source time : String}
    (hsource : escapeChars source.toList = source.toList)
    (htime : escapeChars time.toList = time.toList) :
    (headParts identity source time).flatMap Part.write =
      ("<title>SSH keys for " ++ escape identity ++ "</title>\n</head>\n<body>\n" ++
        "<h1>SSH keys for " ++ escape identity ++ "</h1>\n" ++
        "<p>Source: " ++ source ++ ". Generated " ++ time ++ ".</p>\n" ++ "<ul>\n").toList := by
  rw [escapeChars] at hsource htime
  simp [headParts, plain, Part.write, escape, escapeChars, escapeChar, hsource, htime]

/-- What comes after the keys, written out. -/
lemma write_footParts (identity : String) : (footParts identity).flatMap Part.write =
    ("</ul>\n" ++ "<p>\nDownload as <a href=\"/" ++ escape identity ++
      ".authorized_keys\">authorized_keys</a>\n" ++ "or as a <a href=\"/" ++ escape identity ++
      ".sh\">setup script</a>.\n</p>\n</body>\n</html>\n").toList := by
  simp [footParts, plain, withValue, writeAttribute, Part.write, escape, escapeChars, escapeChar]

/-- A page is its parts, written out one after the other. -/
theorem write_pageView (l : Listing) : l.pageText.toList = l.pageView.flatMap Part.write := by
  have hhead := write_headParts l.identity (escapeChars_origin l.record.origin)
    (escapeChars_timestamp l.generated)
  simp only [pageView, pageParts, List.flatMap_append, write_prologParts, hhead, write_footParts,
    ← write_rows, ← String.toList_append]
  unfold pageText
  simp only [String.append_assoc]

/-- **A page cannot be injected into.**  An escaped text holds no character that begins or ends a
tag or a value, each ampersand in it begins one of the five references, reading these back gives
the text, and texts may be escaped piece by piece.  So, whatever the identity, the source, the time
and the keys are, a page is its view written out, followed by the bytes of the suffix, and is read
as that view, which has a row for each key in order with the canonical text of the key, or the row
that says that there are none.  Which tags there are and where their values stand depends on the
number of keys only. -/
theorem page_contained :
    (∀ x : String,
      (∀ c ∈ (escape x).toList, c ≠ '<' ∧ c ≠ '>' ∧ c ≠ '"' ∧ c ≠ '\'') ∧
      (∀ before rest, (escape x).toList = before ++ '&' :: rest →
        ∃ reference ∈ ["&amp;", "&lt;", "&gt;", "&quot;", "&#39;"],
          reference.toList <+: '&' :: rest) ∧
      Text.Markup.unescaped (escape x).toList = x) ∧
    (∀ x y : String, escape (x ++ y) = escape x ++ escape y) ∧
    ∀ (suffix : List UInt8) (l : Listing),
      ((Format.page suffix).render l).body = Text.Utf8.encodeText l.pageText ++ suffix ∧
      l.pageText.toList = l.pageView.flatMap Part.write ∧
      Text.Markup.read? l.pageText = some l.pageView ∧
      l.pageView.map Part.outline = pageOutline l.record.keys.length := by
  refine ⟨fun x => ⟨?_, ?_, ?_⟩, ?_, fun suffix l => ⟨rfl, write_pageView l, ?_, ?_⟩⟩
  · intro c hc
    have hne : ∀ d, isSpecial d = true → c ≠ d := by
      rintro d hd rfl
      rw [escape, String.toList_ofList] at hc
      exact not_mem_escapeChars hd x.toList hc
    exact ⟨hne _ (by decide), hne _ (by decide), hne _ (by decide), hne _ (by decide)⟩
  · intro before rest h
    rw [escape, String.toList_ofList] at h
    exact exists_reference h
  · rw [escape, String.toList_ofList]
    exact Text.Markup.unescaped_escapeChars x
  · intro x y
    rw [escape, String.toList_append, escapeChars_append, String.ofList_append]
    rfl
  · exact Text.Markup.read?_of_write (fun p hp => isProper_pageParts hp) (write_pageView l)
  · rw [pageView, outline_pageParts, List.length_map]

/-- An identity that ends a value, a tag and an element where it is not escaped. -/
theorem page_contained_breakout :
    let l : Listing := ⟨"\"></title>&", ⟨.folder, []⟩, .human, .ofSeconds 0⟩
    (escape l.identity).toList = "&quot;&gt;&lt;/title&gt;".toList ++ '&' :: "amp;".toList ∧
      (∃ reference ∈ ["&amp;", "&lt;", "&gt;", "&quot;", "&#39;"],
        reference.toList <+: '&' :: "amp;".toList) ∧
      plain "title" "SSH keys for \"></title>&" ∈ l.pageView ∧
      Text.Markup.read? l.pageText = some l.pageView ∧
      l.pageView.map Part.outline = pageOutline 0 := by
  intro l
  have hescaped : (escape l.identity).toList =
      "&quot;&gt;&lt;/title&gt;".toList ++ '&' :: "amp;".toList := by decide +kernel
  obtain ⟨htexts, -, hpages⟩ := page_contained
  obtain ⟨-, -, hread, houtline⟩ := hpages [] l
  refine ⟨hescaped, (htexts l.identity).2.1 _ _ hescaped, ?_, hread, houtline⟩
  simp [pageView, pageParts, headParts, l]

end KeyDirectory.Listing
