import KeyDirectory.Proofs.Source.Blocklist
import KeyDirectory.Server.Reach
import Mathlib.Tactic.Lemma
import Mathlib.Tactic.SplitIfs

/-!
# Paths written out

* `KeyPath.IsProper.parse?_text`: a path that was written out is read again.
* `KeyPath.IsProper.path_of_target`: a request for it is for it.
* `IsSpelling.lowerCase_eq`: in lower case all spellings of a word are the word.
-/

namespace KeyDirectory

namespace KeyPath

variable {p : KeyPath}

/-- What stands between the slashes of a path. -/
def between (p : KeyPath) : List Char :=
  p.identity.toList ++ if p.extension.isEmpty then [] else '.' :: p.extension.toList

/-- What stands between the slashes is the identity, the point and the extension. -/
lemma mem_between {c : Char} (h : c ∈ p.between) :
    c ∈ p.identity.toList ∨ c = '.' ∨ c ∈ p.extension.toList := by
  rcases List.mem_append.mp h with h | h
  · exact .inl h
  · split_ifs at h
    · exact absurd h List.not_mem_nil
    · exact .inr (List.mem_cons.mp h)

/-- The text of a path is a slash, what stands between, and perhaps a last slash. -/
lemma toList_text (p : KeyPath) (slash : Bool) :
    (p.text slash).toList = '/' :: (p.between ++ if slash then ['/'] else []) := by
  unfold text between
  split_ifs <;> simp

/-- The text of a path consists of slashes, the identity, the point and the extension. -/
lemma mem_text {slash : Bool} {c : Char} (h : c ∈ (p.text slash).toList) :
    c = '/' ∨ c ∈ p.identity.toList ∨ c = '.' ∨ c ∈ p.extension.toList := by
  rw [toList_text, List.mem_cons, List.mem_append] at h
  rcases h with h | h | h
  · exact .inl h
  · exact .inr (mem_between h)
  · split_ifs at h
    · exact .inl (List.mem_singleton.mp h)
    · exact absurd h List.not_mem_nil

/-- A last slash is dropped, whether it is there or not. -/
lemma withoutLastSlash_append {s : List Char} (h : '/' ∉ s) (slash : Bool) :
    withoutLastSlash (s ++ if slash then ['/'] else []) = s := by
  unfold withoutLastSlash
  cases slash with
  | true => simp
  | false =>
    simp only [Bool.false_eq_true, if_false, List.append_nil]
    exact if_neg fun hlast => h (List.mem_of_getLast? hlast)

/-- Text without a point is all name. -/
lemma splitAtPoint_of_not_mem {s : List Char} (h : '.' ∉ s) : splitAtPoint s = (s, none) := by
  have hall : ∀ c ∈ s, decide (c ≠ '.') = true := fun c hc =>
    decide_eq_true (ne_of_mem_of_not_mem hc h)
  unfold splitAtPoint
  rw [List.takeWhile_eq_self_iff.mpr hall, List.dropWhile_eq_nil_iff.mpr hall]

/-- The first point ends the name. -/
lemma splitAtPoint_append {s : List Char} (t : List Char) (h : '.' ∉ s) :
    splitAtPoint (s ++ '.' :: t) = (s, some t) := by
  have hall : ∀ c ∈ s, decide (c ≠ '.') = true := fun c hc =>
    decide_eq_true (ne_of_mem_of_not_mem hc h)
  unfold splitAtPoint
  rw [List.takeWhile_append_of_pos hall, List.dropWhile_append_of_pos hall]
  simp

/-- The characters of an identity and of an extension do not divide a path. -/
lemma isIdentityChar_ne {c : Char} (h : isIdentityChar c = true) :
    c ≠ '/' ∧ c ≠ '.' ∧ c ≠ '?' ∧ c ≠ '#' ∧ c ≠ '_' := by
  refine ⟨?_, ?_, ?_, ?_, ?_⟩ <;> rintro rfl <;> cases h

/-- No character of an extension ends a path. -/
lemma isExtensionChar_ne {c : Char} (h : isExtensionChar c = true) :
    c ≠ '/' ∧ c ≠ '?' ∧ c ≠ '#' := by
  refine ⟨?_, ?_, ?_⟩ <;> rintro rfl <;> cases h

/-- The identity and the extension of a path are made of the characters that they may have. -/
structure IsProper (p : KeyPath) : Prop where
  identity_ne : p.identity.toList ≠ []
  identity : ∀ c ∈ p.identity.toList, isIdentityChar c = true
  extension : ∀ c ∈ p.extension.toList, isExtensionChar c = true

/-- No slash stands between the slashes of a proper path. -/
lemma IsProper.slash_not_mem (h : p.IsProper) : '/' ∉ p.between := by
  intro hmem
  rcases mem_between hmem with hmem | hpoint | hmem
  · exact (isIdentityChar_ne (h.identity _ hmem)).1 rfl
  · cases hpoint
  · exact (isExtensionChar_ne (h.extension _ hmem)).1 rfl

/-- A path that was written out is read again. -/
lemma IsProper.parse?_text (h : p.IsProper) (slash : Bool) : parse? (p.text slash) = some p := by
  have hpoint : '.' ∉ p.identity.toList := fun hmem =>
    (isIdentityChar_ne (h.identity _ hmem)).2.1 rfl
  have hidentity : (!p.identity.toList.isEmpty && p.identity.toList.all isIdentityChar) = true := by
    simpa [h.identity_ne] using h.identity
  have hsplit : splitAtPoint p.between =
      (p.identity.toList, if p.extension.isEmpty then none else some p.extension.toList) := by
    unfold between
    split_ifs
    · rw [List.append_nil, splitAtPoint_of_not_mem hpoint]
    · rw [splitAtPoint_append _ hpoint]
  rw [parse?, toList_text]
  simp only [parseChars?, withoutLastSlash_append h.slash_not_mem, hsplit]
  by_cases hext : p.extension.isEmpty = true
  · obtain ⟨identity, extension⟩ := p
    obtain rfl : extension = "" := String.isEmpty_iff.mp hext
    simp [hidentity]
  · have hne : p.extension ≠ "" := fun heq => hext (String.isEmpty_iff.mpr heq)
    have hall : p.extension.toList.all isExtensionChar = true := by simpa using h.extension
    simp [hext, hne, hidentity, hall]

/-- A request for a path that was written out, with or without a query, is for that path. -/
lemma IsProper.path_of_target (h : p.IsProper) {slash : Bool} {query : String}
    (hquery : IsQuery query) {request : Server.Request}
    (htarget : request.target = p.text slash ++ query) : request.path = p.text slash := by
  have hplain : ∀ c ∈ (p.text slash).toList, (c ≠ '?' && c ≠ '#') = true := by
    intro c hc
    rcases mem_text hc with rfl | hc | rfl | hc
    · rfl
    · simp [(isIdentityChar_ne (h.identity c hc)).2.2]
    · rfl
    · simp [(isExtensionChar_ne (h.extension c hc)).2]
  have hend : query.toList.takeWhile (fun c => c ≠ '?' && c ≠ '#') = [] := by
    rcases hquery with rfl | ⟨rest, rfl⟩ <;> simp
  have hhead : (p.text slash ++ query).toList.head? = some '/' := by
    rw [String.toList_append, toList_text]
    rfl
  unfold Server.Request.path Server.pathOfTarget
  rw [htarget]
  simp only [hhead, if_true]
  rw [String.toList_append, List.takeWhile_append_of_pos hplain, hend, List.append_nil,
    String.ofList_toList]

end KeyPath

/-! ## Spellings -/

namespace Text

/-- On ASCII the lower case is taken character by character. -/
lemma lowerCaseAfter_of_ascii {s : List Char} (h : ∀ c ∈ s, c.toNat < 128) (afterCased : Bool) :
    lowerCaseAfter afterCased s = s.map Char.toLower := by
  induction s generalizing afterCased with
  | nil => rfl
  | cons c rest ih =>
    obtain ⟨hc, hrest⟩ := List.forall_mem_cons.mp h
    have hsigma : c ≠ 'Σ' := by
      rintro rfl
      exact absurd hc (by decide)
    have hdotted : c ≠ 'İ' := by
      rintro rfl
      exact absurd hc (by decide)
    rw [lowerCaseAfter, if_neg hsigma, if_neg hdotted, ih hrest]
    simp [lowerChar, hc]

end Text

/-- Only a letter or an underscore becomes a character of an extension in lower case. -/
lemma isExtensionChar_of_toLower {c : Char} (h : KeyPath.isExtensionChar c.toLower = true) :
    KeyPath.isExtensionChar c = true := by
  by_cases hupper : c.isUpper = true
  · have halpha : c.isAlpha = true := Bool.or_eq_true_iff.mpr (.inl hupper)
    exact Bool.or_eq_true_iff.mpr (.inl halpha)
  · have hsame : c.toLower = c := dif_neg fun hrange => hupper (decide_eq_true hrange)
    rwa [hsame] at h

/-- The characters of an extension are ASCII. -/
lemma toNat_lt_of_isExtensionChar {c : Char} (h : KeyPath.isExtensionChar c = true) :
    c.toNat < 128 := by
  rcases Bool.or_eq_true_iff.mp h with halpha | hunderscore
  · rcases Bool.or_eq_true_iff.mp halpha with hupper | hlower
    · have hle : c.val ≤ 'Z'.val := (of_decide_eq_true hupper).2
      exact Nat.lt_of_le_of_lt (UInt32.le_iff_toNat_le.mp hle) (by decide)
    · have hle : c.val ≤ 'z'.val := of_decide_eq_true (Bool.and_eq_true_iff.mp hlower).2
      exact Nat.lt_of_le_of_lt (UInt32.le_iff_toNat_le.mp hle) (by decide)
  · rw [of_decide_eq_true hunderscore]
    decide

namespace IsSpelling

variable {word text : String}

/-- The spellings of a word that can be an extension can be extensions. -/
lemma isExtension (h : IsSpelling word text)
    (hword : ∀ c ∈ word.toList, KeyPath.isExtensionChar c = true) :
    ∀ c ∈ text.toList, KeyPath.isExtensionChar c = true := by
  intro c hc
  refine isExtensionChar_of_toLower (hword _ ?_)
  rw [← h]
  exact List.mem_map_of_mem hc

/-- Every spelling of a word has the word as its lower case. -/
lemma lowerCase_eq (h : IsSpelling word text)
    (hword : ∀ c ∈ word.toList, KeyPath.isExtensionChar c = true) :
    Text.lowerCase text = word := by
  have hascii : ∀ c ∈ text.toList, c.toNat < 128 := fun c hc =>
    toNat_lt_of_isExtensionChar (h.isExtension hword c hc)
  rw [Text.lowerCase, Text.lowerCaseAfter_of_ascii hascii, h, String.ofList_toList]

end IsSpelling

end KeyDirectory
