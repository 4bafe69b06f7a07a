import KeyDirectory.Proofs.Request.KeyPath
import KeyDirectory.Request.Grammar

/-!
# The reader of key paths against their grammar

* `withoutLastSlash_spec`, `splitAtPoint_spec`: cutting a path loses nothing but what divides it.
* `exists_text_of_parse?`: what is read was written.
* `IsProper.text_injective`: a path is written from its parts in one way.
* `IsProper.not_hasFault`: what a path that was written out does not have.
* `parse?_eq_some_iff_isWritten`: the result.
-/

namespace KeyDirectory

namespace KeyPath

variable {p p' : KeyPath} {path : String} {slash slash' : Bool}

/-! ## Characters -/

/-- Letters are ASCII. -/
lemma toNat_lt_of_isLetter {c : Char} (h : IsLetter c) : c.toNat < 128 := by
  rcases h with ⟨-, h⟩ | ⟨-, h⟩
  · have hle : c.toNat ≤ 90 := h
    omega
  · have hle : c.toNat ≤ 122 := h
    omega

/-- An identity is made of letters, digits and dashes. -/
lemma isIdentityChar_iff {c : Char} :
    isIdentityChar c = true ↔ IsLetter c ∨ IsNumeral c ∨ c = '-' := by
  unfold isIdentityChar Char.isAlphanum Char.isAlpha Char.isUpper Char.isLower Char.isDigit
  simp only [IsLetter, IsNumeral, Bool.or_eq_true, Bool.and_eq_true, decide_eq_true_eq, or_assoc]
  rfl

/-- An extension is made of letters and underscores. -/
lemma isExtensionChar_iff {c : Char} : isExtensionChar c = true ↔ IsLetter c ∨ c = '_' := by
  unfold isExtensionChar Char.isAlpha Char.isUpper Char.isLower
  simp only [IsLetter, Bool.or_eq_true, Bool.and_eq_true, decide_eq_true_eq]
  rfl

/-- The characters of an identity are ASCII. -/
lemma toNat_lt_of_isIdentityChar {c : Char} (h : isIdentityChar c = true) : c.toNat < 128 := by
  rcases isIdentityChar_iff.mp h with h | ⟨-, h⟩ | rfl
  · exact toNat_lt_of_isLetter h
  · have hle : c.toNat ≤ 57 := h
    omega
  · decide

/-- A path is written by the grammar iff it is the text of a proper key path. -/
lemma isWritten_iff : IsWritten path p slash ↔ p.IsProper ∧ path = p.text slash := by
  constructor
  · rintro ⟨hne, hidentity, hextension, rfl⟩
    refine ⟨⟨?_, ?_, ?_⟩, rfl⟩
    · simpa using hne
    · exact fun c hc => isIdentityChar_iff.mpr (hidentity c hc)
    · exact fun c hc => isExtensionChar_iff.mpr (hextension c hc)
  · rintro ⟨⟨hne, hidentity, hextension⟩, rfl⟩
    refine ⟨?_, ?_, ?_, rfl⟩
    · simpa using hne
    · exact fun c hc => isIdentityChar_iff.mp (hidentity c hc)
    · exact fun c hc => isExtensionChar_iff.mp (hextension c hc)

/-! ## Cutting a path -/

/-- Only a slash at the end is cut off. -/
lemma withoutLastSlash_spec (s : List Char) :
    ∃ slash : Bool, s = withoutLastSlash s ++ if slash then ['/'] else [] := by
  unfold withoutLastSlash
  split_ifs with hlast
  · exact ⟨true, (List.dropLast_append_getLast? '/' hlast).symm⟩
  · exact ⟨false, (List.append_nil s).symm⟩

/-- Only a point in between is cut out. -/
lemma splitAtPoint_spec {s identity : List Char} {extension : Option (List Char)}
    (h : splitAtPoint s = (identity, extension)) :
    s = identity ++ extension.elim [] ('.' :: ·) := by
  by_cases hpoint : '.' ∈ s
  · obtain ⟨before, after, rfl, hbefore⟩ := List.eq_append_cons_of_mem hpoint
    rw [splitAtPoint_append after hbefore] at h
    obtain ⟨rfl, rfl⟩ := Prod.mk.inj h
    rfl
  · rw [splitAtPoint_of_not_mem hpoint] at h
    obtain ⟨rfl, rfl⟩ := Prod.mk.inj h
    exact (List.append_nil s).symm

/-- What is read was written out. -/
lemma exists_text_of_parse? (h : parse? path = some p) :
    p.IsProper ∧ ∃ slash, path = p.text slash := by
  unfold parse? parseChars? at h
  split at h
  case h_2 => cases h
  case h_1 rest hpath =>
    obtain ⟨slash, hrest⟩ := withoutLastSlash_spec rest
    rcases hsplit : splitAtPoint (withoutLastSlash rest) with ⟨identity, extension⟩
    simp only [hsplit, Option.ite_none_right_eq_some, Bool.and_eq_true, Bool.not_eq_true',
      List.isEmpty_eq_false_iff, Option.some.injEq] at h
    obtain ⟨⟨⟨hne, hidentity⟩, hextension⟩, rfl⟩ := h
    rw [splitAtPoint_spec hsplit] at hrest
    have hchars : ∀ c ∈ extension.getD [], isExtensionChar c = true := by
      cases extension with
      | none => simp
      | some e => simpa using (Bool.and_eq_true_iff.mp hextension).2
    refine ⟨⟨?_, ?_, ?_⟩, slash, ?_⟩
    · rwa [String.toList_ofList]
    · rw [String.toList_ofList]
      exact List.all_eq_true.mp hidentity
    · rwa [String.toList_ofList]
    · rw [← String.toList_inj, hpath, hrest, toList_text, between]
      cases extension with
      | none => simp
      | some e =>
        have hnil : e ≠ [] := by simpa using (Bool.and_eq_true_iff.mp hextension).1
        simp [hnil]

/-! ## What was written out -/

namespace IsProper

/-- A path is written from its parts, with or without a slash, in one way. -/
lemma text_injective (h : p.IsProper) (h' : p'.IsProper) (heq : p.text slash = p'.text slash') :
    p = p' ∧ slash = slash' := by
  have hread := h.parse?_text slash
  rw [heq, h'.parse?_text] at hread
  obtain rfl := Option.some.inj hread
  refine ⟨rfl, ?_⟩
  have hchars := congrArg String.toList heq
  rw [toList_text, toList_text, List.cons.injEq, List.append_cancel_left_eq] at hchars
  cases slash <;> cases slash' <;> simp_all

/-- A path has no other slash than the first and the last, and no more than one point. -/
lemma count_slash_le (h : p.IsProper) (slash : Bool) :
    (p.between ++ if slash then ['/'] else []).count '/' ≤ 1 := by
  rw [List.count_append, List.count_eq_zero.mpr h.slash_not_mem]
  cases slash <;> simp

/-- The text of a proper path has at most one point. -/
lemma count_point_le (h : p.IsProper) (slash : Bool) : (p.text slash).toList.count '.' ≤ 1 := by
  have hidentity : '.' ∉ p.identity.toList := fun hmem =>
    (isIdentityChar_ne (h.identity _ hmem)).2.1 rfl
  have hextension : '.' ∉ p.extension.toList := fun hmem =>
    absurd (h.extension _ hmem) (by decide)
  rw [toList_text, List.count_cons_of_ne (by decide), List.count_append, between,
    List.count_append, List.count_eq_zero.mpr hidentity]
  split_ifs <;> simp [List.count_eq_zero.mpr hextension]

/-- The parts of a path do not begin with a slash, and end neither with a slash nor with a point. -/
lemma exists_first (h : p.IsProper) : ∃ c rest, p.between = c :: rest ∧ c ≠ '/' := by
  obtain ⟨c, rest, hidentity⟩ := List.exists_cons_of_ne_nil h.identity_ne
  have hc : isIdentityChar c = true := h.identity c (by rw [hidentity]; exact List.mem_cons_self)
  rw [between, hidentity]
  exact ⟨c, _, rfl, (isIdentityChar_ne hc).1⟩

/-- A proper path does not end in a slash or a point of its own. -/
lemma exists_last (h : p.IsProper) :
    ∃ c rest, p.between = rest ++ [c] ∧ c ≠ '/' ∧ c ≠ '.' := by
  unfold between
  split_ifs with hempty
  · obtain ⟨rest, c, hidentity⟩ :=
      (List.eq_nil_or_concat' p.identity.toList).resolve_left h.identity_ne
    have hc : isIdentityChar c = true := h.identity c (by rw [hidentity]; simp)
    rw [hidentity, List.append_nil]
    exact ⟨c, rest, rfl, (isIdentityChar_ne hc).1, (isIdentityChar_ne hc).2.1⟩
  · have hne : p.extension.toList ≠ [] := by simpa using hempty
    obtain ⟨rest, c, hextension⟩ := (List.eq_nil_or_concat' p.extension.toList).resolve_left hne
    have hc : isExtensionChar c = true := h.extension c (by rw [hextension]; simp)
    refine ⟨c, p.identity.toList ++ '.' :: rest, by rw [hextension]; simp, ?_, ?_⟩
    · rintro rfl
      exact absurd hc (by decide)
    · rintro rfl
      exact absurd hc (by decide)

/-- The text of a proper path is ASCII. -/
lemma toNat_lt (h : p.IsProper) {c : Char} (hc : c ∈ (p.text slash).toList) : c.toNat < 128 := by
  rcases mem_text hc with rfl | hc | rfl | hc
  · decide
  · exact toNat_lt_of_isIdentityChar (h.identity c hc)
  · decide
  · exact toNat_lt_of_isExtensionChar (h.extension c hc)

/-- The text of a proper path has no percent sign. -/
lemma percent_not_mem (h : p.IsProper) : '%' ∉ (p.text slash).toList := by
  intro hmem
  rcases mem_text hmem with hc | hc | hc | hc
  · exact absurd hc (by decide)
  · exact absurd (h.identity _ hc) (by decide)
  · exact absurd hc (by decide)
  · exact absurd (h.extension _ hc) (by decide)

/-- The text of a proper path has no two slashes in a row. -/
lemma not_doubledSlash (h : p.IsProper) : ¬ ['/', '/'] <:+: (p.text slash).toList := by
  rintro ⟨before, after, heq⟩
  obtain ⟨c, rest, hfirst, hc⟩ := h.exists_first
  rw [toList_text] at heq
  cases before with
  | nil =>
    rw [hfirst] at heq
    exact hc (List.cons.inj (List.cons.inj heq).2).1.symm
  | cons b before =>
    -- Two slashes after the first character are one too many.
    have hcount := congrArg (List.count '/') (List.cons.inj heq).2
    have hle := h.count_slash_le slash
    rw [← hcount] at hle
    simp only [List.append_eq, List.count_append, List.count_cons_self] at hle
    omega

/-- The text of a proper path has no point without an extension after it. -/
lemma not_emptyExtension (h : p.IsProper) (before : String) (ending : Bool) :
    p.text slash ≠ before ++ "." ++ if ending then "/" else "" := by
  intro heq
  obtain ⟨c, rest, hlast, hslash, hpoint⟩ := h.exists_last
  have hchars : '/' :: rest ++ [c] ++ (if slash then ['/'] else []) =
      before.toList ++ ['.'] ++ if ending then ['/'] else [] := by
    have hends := congrArg String.toList heq
    rw [toList_text, hlast] at hends
    cases ending <;> simpa using hends
  have hends : ∀ {s t : List Char} {a b : Char}, s ++ [a] = t ++ [b] → a = b := fun heq =>
    List.singleton_inj.mp (List.append_inj_right' heq rfl)
  -- The last characters differ, or, where both paths end with a slash, the ones before it.
  cases slash <;> cases ending
  · exact hpoint (hends (List.append_cancel_right hchars))
  · rw [if_neg Bool.false_ne_true, List.append_nil] at hchars
    exact hslash (hends hchars)
  · rw [if_neg Bool.false_ne_true, List.append_nil] at hchars
    exact absurd (hends hchars) (by decide)
  · exact hpoint (hends (List.append_cancel_right hchars))

/-- A path that was written out has no fault. -/
lemma not_hasFault (h : p.IsProper) : ¬ HasFault (p.text slash) := by
  rintro (htwo | ⟨before, ending, heq⟩ | hdoubled | hpercent | ⟨c, hc, hforeign⟩)
  · have hone := h.count_point_le slash
    omega
  · exact h.not_emptyExtension before ending heq
  · exact h.not_doubledSlash hdoubled
  · exact h.percent_not_mem hpercent
  · have hascii := h.toNat_lt hc
    omega

end IsProper

/-! ## The result -/

/-- **The key paths that are read.**  A path is read as an identity and an extension if and only if
it is a slash, the identity, the extension with a point in front of it where it is not empty, and
at most one more slash, the identity being one or more letters, numerals and hyphens and the
extension letters and underscores.  No path is made so in two ways.  Every other path is refused,
among them those with a second point, an empty extension after a point, a doubled slash, a percent
sign or a character beyond ASCII. -/
theorem parse?_eq_some_iff_isWritten (path : String) :
    (∀ p, parse? path = some p ↔ ∃ slash, IsWritten path p slash) ∧
      (parse? path = none ↔ ∀ p slash, ¬ IsWritten path p slash) ∧
      (∀ p p' slash slash', IsWritten path p slash → IsWritten path p' slash' →
        p = p' ∧ slash = slash') ∧
      (HasFault path → parse? path = none) := by
  have hread : ∀ p, parse? path = some p ↔ ∃ slash, IsWritten path p slash := by
    intro p
    simp only [isWritten_iff]
    constructor
    · intro h
      obtain ⟨hproper, slash, hpath⟩ := exists_text_of_parse? h
      exact ⟨slash, hproper, hpath⟩
    · rintro ⟨slash, hproper, rfl⟩
      exact hproper.parse?_text slash
  refine ⟨hread, ?_, ?_, ?_⟩
  · rw [Option.eq_none_iff_forall_ne_some]
    simp only [ne_eq, hread, not_exists]
  · intro p p' slash slash' h h'
    obtain ⟨hproper, rfl⟩ := isWritten_iff.mp h
    obtain ⟨hproper', heq⟩ := isWritten_iff.mp h'
    exact hproper.text_injective hproper' heq
  · intro hfault
    rw [Option.eq_none_iff_forall_ne_some]
    intro p hp
    obtain ⟨hproper, slash, rfl⟩ := exists_text_of_parse? hp
    exact hproper.not_hasFault hfault

/-- A path with letters of both cases, an extension and a slash at its end is made in one way, and
with one point more it is refused. -/
theorem parse?_eq_some_iff_isWritten_bob :
    let p : KeyPath := ⟨"Bob-2", "HTML"⟩
    parse? "/Bob-2.HTML/" = some p ∧ IsWritten "/Bob-2.HTML/" p true ∧
      (∀ p' slash, IsWritten "/Bob-2.HTML/" p' slash → p = p' ∧ true = slash) ∧
      HasFault "/Bob-2.HTML./" ∧ parse? "/Bob-2.HTML./" = none := by
  intro p
  have hwritten : IsWritten "/Bob-2.HTML/" p true := by
    refine ⟨?_, ?_, ?_, ?_⟩
    · decide
    · exact fun c hc => isIdentityChar_iff.mp (List.all_eq_true.mp (by decide +kernel) c hc)
    · exact fun c hc => isExtensionChar_iff.mp (List.all_eq_true.mp (by decide +kernel) c hc)
    · decide +kernel
  have hfault : HasFault "/Bob-2.HTML./" := .secondPoint (by decide +kernel)
  obtain ⟨hread, -, hunique, -⟩ := parse?_eq_some_iff_isWritten "/Bob-2.HTML/"
  obtain ⟨-, -, -, hrefused⟩ := parse?_eq_some_iff_isWritten "/Bob-2.HTML./"
  refine ⟨(hread p).mpr ⟨true, hwritten⟩, hwritten, ?_, hfault, hrefused hfault⟩
  intro p' slash hwritten'
  exact hunique p p' true slash hwritten hwritten'

end KeyPath

end KeyDirectory
