import KeyDirectory.Proofs.Text.Utf8
import KeyDirectory.Remote.Separation

/-!
# URLs of identities below a base

The characters of an identity need no encoding, so an identity is one segment of a URL as it is, and
can be read off the text.

* `addSegment_of_isIdentity`: an identity is added as it is.
* `below_users`: the URL of the keys of an identity.
* `text_users_inj`: no two identities have the same text.
-/

namespace KeyDirectory.Url

open KeyPath (IsIdentity isIdentityChar)

variable {name : String}

/-! ## Segments -/

/-- A name of identity characters is an identity. -/
lemma isIdentity_of_all (hne : name ≠ "") (h : name.toList.all isIdentityChar = true) :
    IsIdentity name :=
  ⟨hne, List.all_eq_true.mp h⟩

/-- The characters of an identity can stand in a segment. -/
lemma isIdentityChar_segment {c : Char} (h : isIdentityChar c = true) :
    c.toNat < 128 ∧ escapesPath c = false ∧ c ≠ '/' ∧ c ≠ '%' ∧ c ≠ '\\' ∧ c ≠ '.' ∧
      c ≠ '\t' ∧ c ≠ '\n' ∧ c ≠ '\r' := by
  unfold isIdentityChar at h
  rcases (Bool.or_eq_true _ _).mp h with halphanum | hhyphen
  · exact Text.Utf8.forall_alphanum (P := fun c => c.toNat < 128 ∧ escapesPath c = false ∧
      c ≠ '/' ∧ c ≠ '%' ∧ c ≠ '\\' ∧ c ≠ '.' ∧ c ≠ '\t' ∧ c ≠ '\n' ∧ c ≠ '\r')
      (by decide +kernel) halphanum
  · obtain rfl := of_decide_eq_true hhyphen
    decide +kernel

/-- Text in which nothing is to be escaped stays as it is. -/
lemma encode_eq_self {escapes : Char → Bool} {s : List Char}
    (h : ∀ c ∈ s, c.toNat < 128 ∧ escapes c = false) : Text.Percent.encode escapes s = s := by
  induction s with
  | nil => rfl
  | cons c s ih =>
      obtain ⟨⟨hsmall, hkept⟩, hrest⟩ := List.forall_mem_cons.mp h
      have hlater := ih hrest
      unfold Text.Percent.encode at hlater ⊢
      rw [List.flatMap_cons, hlater, if_pos (by simp [hsmall, hkept]), List.singleton_append]

/-- An identity is added as it is, in the place of a root without a name. -/
lemma addSegment_of_isIdentity (h : IsIdentity name) (scheme : String) (above : List String) :
    addSegment scheme above name = (if above = [""] then [] else above) ++ [name] := by
  have hstop : '.' ∉ name.toList := by
    intro hmem
    obtain ⟨-, -, -, -, -, hne, -⟩ := isIdentityChar_segment (h.chars _ hmem)
    exact hne rfl
  have hnamed : ¬ (name = "." ∨ name = "..") := by
    rintro (rfl | rfl)
    · exact hstop (by decide +kernel)
    · exact hstop (by decide +kernel)
  have hkept : name.toList.filter (fun c => c ≠ '\t' && c ≠ '\n' && c ≠ '\r') = name.toList := by
    rw [List.filter_eq_self]
    intro c hc
    obtain ⟨-, -, -, -, -, -, htab, hline, hreturn⟩ := isIdentityChar_segment (h.chars c hc)
    simp [htab, hline, hreturn]
  have hencoded : encoded (escapesSegment scheme) name.toList = name := by
    unfold encoded
    rw [encode_eq_self, String.ofList_toList]
    intro c hc
    obtain ⟨hsmall, hpath, hslash, hpercent, hback, -⟩ := isIdentityChar_segment (h.chars c hc)
    refine ⟨hsmall, ?_⟩
    unfold escapesSegment
    simp [hpath, hslash, hpercent, hback]
  unfold addSegment
  rw [if_neg hnamed]
  dsimp only
  rw [hkept]
  split
  · next heq => exact absurd (heq ▸ List.mem_cons_self) hstop
  · next heq => exact absurd (heq ▸ List.mem_cons_self) hstop
  · rw [hencoded]

/-- The stem is the segments without an empty last one, and a lone empty segment is none. -/
lemma stem_eq (parts : List String) :
    stem parts = if dropEmptyLast parts = [""] then [] else dropEmptyLast parts := by
  by_cases hroot : parts = [""]
  · subst hroot
    rfl
  · have hkept : dropEmptyLast parts =
        if parts.getLast? = some "" then parts.dropLast else parts := by
      unfold dropEmptyLast
      by_cases hlast : parts.getLast? = some ""
      · have hlong : parts.length > 1 := by
          rcases parts with _ | ⟨first, _ | ⟨second, rest⟩⟩
          · cases hlast
          · exact absurd (congrArg (fun first => [first]) (Option.some.inj hlast)) hroot
          · simp
        rw [if_pos ⟨hlong, hlast⟩, if_pos hlast]
      · rw [if_neg fun h => hlast h.2, if_neg hlast]
    rw [hkept]
    rfl

/-- Segments with a name after them are not those of the root. -/
lemma not_root_append {parts : List String} (h : name ≠ "") : parts ++ [name] ≠ [""] := by
  intro heq
  have hlast := congrArg List.getLast? heq
  rw [List.getLast?_concat] at hlast
  exact h (Option.some.inj hlast)

/-- The URL of the keys of an identity: the segments below which they are asked for, and then just
three more. -/
lemma below_users {u : Url} {parts : List String} (hpath : u.path = .segments parts)
    (h : IsIdentity name) :
    u.below ["users", name, "keys"] =
      { u with path := .segments (stem parts ++ ["users", name, "keys"]) } := by
  have husers : IsIdentity "users" := isIdentity_of_all (by decide) (by decide +kernel)
  have hkeys : IsIdentity "keys" := isIdentity_of_all (by decide) (by decide +kernel)
  unfold below
  rw [hpath]
  dsimp only
  rw [List.foldl_cons, List.foldl_cons, List.foldl_cons, List.foldl_nil,
    addSegment_of_isIdentity husers, addSegment_of_isIdentity h,
    addSegment_of_isIdentity hkeys, ← stem_eq, if_neg (not_root_append husers.notEmpty),
    if_neg (not_root_append h.notEmpty), List.append_assoc, List.append_assoc]
  rfl

/-! ## The text of a URL -/

/-- Segments are written one after the other. -/
lemma segmentsText_append (front back : List String) :
    segmentsText (front ++ back) = segmentsText front ++ segmentsText back := by
  unfold segmentsText
  rw [← String.toList_inj, String.toList_append, String.toList_join, String.toList_join,
    String.toList_join, List.map_append, List.flatMap_append]

/-- What guards the path of the keys of an identity does not depend on the identity. -/
lemma pathGuard_users (u : Url) (parts : List String) (name name' : String) :
    pathGuard { u with path := .segments (parts ++ ["users", name, "keys"]) } =
      pathGuard { u with path := .segments (parts ++ ["users", name', "keys"]) } := by
  unfold pathGuard
  rcases u.authority with _ | authority
  · rcases parts with _ | ⟨first, rest⟩
    · rfl
    · by_cases hfirst : first = ""
      · subst hfirst
        rcases rest with _ | ⟨second, rest⟩ <;> rfl
      · simp [hfirst]
  · rfl

/-- The text of a URL around its path. -/
lemma exists_text_eq (u : Url) : ∃ start rest, ∀ path,
    text { u with path } = start ++ pathGuard { u with path } ++ path.text ++ rest := by
  rcases u with ⟨scheme, _ | authority, -, query, fragment⟩
  · refine ⟨scheme ++ ":", introduced "?" query ++ introduced "#" fragment, fun path => ?_⟩
    simp only [text, textWithoutFragment, String.append_assoc, String.empty_append]
  · refine ⟨scheme ++ ":" ++ "//" ++ authority.text,
      introduced "?" query ++ introduced "#" fragment, fun path => ?_⟩
    simp only [text, textWithoutFragment, String.append_assoc]

/-- The text of the URL for an identity is the same for all identities, but for the identity. -/
lemma exists_text_users (u : Url) (parts : List String) : ∃ front back, ∀ name,
    text { u with path := .segments (parts ++ ["users", name, "keys"]) } =
      front ++ name ++ back := by
  have hpath : ∀ name, Path.text (.segments (parts ++ ["users", name, "keys"])) =
      segmentsText parts ++ "/users/" ++ name ++ "/keys" := by
    intro name
    have hlast : segmentsText ["users", name, "keys"] = "/users/" ++ name ++ "/keys" := by
      rw [← String.toList_inj, segmentsText, String.toList_join]
      simp
    rw [Path.text, segmentsText_append, hlast, String.append_assoc, String.append_assoc,
      String.append_assoc]
  obtain ⟨start, rest, htext⟩ := exists_text_eq u
  refine ⟨start ++ pathGuard { u with path := .segments (parts ++ ["users", "", "keys"]) } ++
      segmentsText parts ++ "/users/", "/keys" ++ rest, fun name => ?_⟩
  rw [htext, hpath, pathGuard_users u parts name ""]
  simp only [String.append_assoc]

/-- No two identities have the same text. -/
lemma text_users_inj {u : Url} {parts : List String} {name name' : String}
    (h : text { u with path := .segments (parts ++ ["users", name, "keys"]) } =
      text { u with path := .segments (parts ++ ["users", name', "keys"]) }) : name = name' := by
  obtain ⟨front, back, htext⟩ := exists_text_users u parts
  rw [htext, htext, String.append_left_inj, String.append_right_inj] at h
  exact h

end KeyDirectory.Url
