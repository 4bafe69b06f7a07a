import KeyDirectory.Text.Entity
import Mathlib.Tactic.Lemma
import Mathlib.Tactic.SplitIfs

/-!
# Escaped text

* `not_mem_escapeChars`: what an escaped text does not hold.
* `exists_reference`: what an ampersand in an escaped text begins.
* `unescapeChars_escapeChars`: an escaped text is read back.
-/

namespace KeyDirectory.Text.Entity

/-- The five references. -/
def references : List String := ["&amp;", "&lt;", "&gt;", "&quot;", "&#39;"]

/-- What means something in a page besides the ampersand. -/
def isSpecial (c : Char) : Bool :=
  c = '<' || c = '>' || c = '"' || c = '\''

/-- A character is written as itself, where it means nothing, or as a reference. -/
lemma escapeChar_cases (c : Char) :
    (escapeChar c = [c] ∧ c ≠ '&' ∧ isSpecial c = false) ∨
      ∃ reference ∈ references, escapeChar c = reference.toList := by
  unfold escapeChar
  split_ifs with hamp hlt hgt hquot hapos
  · exact .inr ⟨_, by simp [references], rfl⟩
  · exact .inr ⟨_, by simp [references], rfl⟩
  · exact .inr ⟨_, by simp [references], rfl⟩
  · exact .inr ⟨_, by simp [references], rfl⟩
  · exact .inr ⟨_, by simp [references], rfl⟩
  · exact .inl ⟨rfl, hamp, by simp [isSpecial, hlt, hgt, hquot, hapos]⟩

/-- An ampersand stands only at the beginning of a reference. -/
lemma reference_spec : ∀ reference ∈ references,
    reference.toList = '&' :: reference.toList.tail ∧ '&' ∉ reference.toList.tail ∧
      ∀ c ∈ reference.toList, isSpecial c = false := by
  simp [references, isSpecial]

/-- No special character survives the escaping. -/
lemma not_mem_escapeChars {c : Char} (h : isSpecial c = true) (s : List Char) :
    c ∉ escapeChars s := by
  intro hc
  obtain ⟨d, -, hc⟩ := List.mem_flatMap.mp hc
  rcases escapeChar_cases d with ⟨hd, -, hplain⟩ | ⟨reference, href, hd⟩
  · rw [hd, List.mem_singleton] at hc
    rw [hc, hplain] at h
    cases h
  · rw [hd] at hc
    rw [(reference_spec reference href).2.2 c hc] at h
    cases h

/-- An ampersand in an escaped text begins a reference. -/
lemma exists_reference {s before rest : List Char} (h : escapeChars s = before ++ '&' :: rest) :
    ∃ reference ∈ references, reference.toList <+: '&' :: rest := by
  induction s generalizing before with
  | nil => simp [escapeChars] at h
  | cons c s ih =>
      rw [← List.singleton_append, escapeChars_append, List.append_eq_append_iff] at h
      rcases h with ⟨more, -, hs⟩ | ⟨inside, hc, hrest⟩
      · exact ih hs
      · rcases inside with _ | ⟨d, inside⟩
        · exact @ih [] hrest.symm
        · -- the ampersand is one of the character's own, so it is the first one of a reference
          obtain ⟨rfl, rfl⟩ := List.cons.inj hrest
          rw [escapeChars, List.flatMap_singleton] at hc
          rcases escapeChar_cases c with ⟨hplain, hne, -⟩ | ⟨reference, href, hwritten⟩
          · rw [hplain] at hc
            rcases before with _ | ⟨e, before⟩
            · exact absurd (List.cons.inj hc).1 hne
            · simp at hc
          · obtain ⟨hfirst, htail, -⟩ := reference_spec reference href
            rw [hwritten, hfirst] at hc
            rcases before with _ | ⟨e, before⟩
            · refine ⟨reference, href, ?_⟩
              rw [hfirst, hc]
              exact ⟨escapeChars s, rfl⟩
            · refine absurd ?_ htail
              rw [(List.cons.inj hc).2]
              simp

/-! ## Reading back -/

/-- A character other than the ampersand stands for itself. -/
lemma unescapeChars_cons {c : Char} (h : c ≠ '&') (s : List Char) :
    unescapeChars (c :: s) = c :: unescapeChars s := by
  simp [unescapeChars, h]

/-- An escaped character is read back as itself. -/
lemma unescapeChars_escapeChar (c : Char) (s : List Char) :
    unescapeChars (escapeChar c ++ s) = c :: unescapeChars s := by
  unfold escapeChar
  split_ifs with hamp hlt hgt hquot hapos
  · subst hamp; rfl
  · subst hlt; rfl
  · subst hgt; rfl
  · subst hquot; rfl
  · subst hapos; rfl
  · exact unescapeChars_cons hamp s

/-- Escaped text is read back as it was. -/
@[simp] lemma unescapeChars_escapeChars (s : List Char) : unescapeChars (escapeChars s) = s := by
  induction s with
  | nil => rfl
  | cons c s ih =>
      rw [escapeChars, List.flatMap_cons, unescapeChars_escapeChar, ← escapeChars, ih]

/-! ## Plain text -/

/-- A text in which no character means anything is written as it is. -/
lemma escapeChars_eq_self {s : List Char} (h : ∀ c ∈ s, c ≠ '&' ∧ isSpecial c = false) :
    escapeChars s = s := by
  induction s with
  | nil => rfl
  | cons c s ih =>
      obtain ⟨⟨hamp, hspecial⟩, hs⟩ := List.forall_mem_cons.mp h
      have hc : escapeChar c = [c] := by
        simp only [isSpecial, Bool.or_eq_false_iff, decide_eq_false_iff_not] at hspecial
        simp [escapeChar, hamp, hspecial]
      rw [escapeChars, List.flatMap_cons, hc, ← escapeChars, ih hs, List.singleton_append]

end KeyDirectory.Text.Entity
