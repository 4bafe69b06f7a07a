import KeyDirectory.Proofs.Source.Blocklist
import KeyDirectory.Text.Split

/-!
# Words and lines of a text

* `takeWhile_word`, `word_unique`: the first word of a text.
* `pieces_append`, `pieces_of_not_mem`, `pieces_join_lines`: the lines of a text.
* `trimRight_append`, `trim_concat`, `trim_append_space_eq`: the blanks at the ends of a text.
-/

namespace KeyDirectory.Text

/-! ## Words -/

section word

variable {α : Type} [DecidableEq α] {sep : α}

/-- What a text reads up to its first separator. -/
lemma takeWhile_word {word tail : List α} (h : sep ∉ word)
    (htail : tail = [] ∨ ∃ rest, tail = sep :: rest) :
    (word ++ tail).takeWhile (fun c => decide (c ≠ sep)) = word := by
  have hword : ∀ c ∈ word, decide (c ≠ sep) = true := by
    intro c hc
    exact decide_eq_true fun heq => h (heq ▸ hc)
  rw [List.takeWhile_append_of_pos hword]
  rcases htail with rfl | ⟨rest, rfl⟩ <;> simp

/-- What stands before the first separator of a text, and what after it. -/
lemma word_unique {word word' rest rest' : List α} (h : sep ∉ word) (h' : sep ∉ word')
    (heq : word ++ sep :: rest = word' ++ sep :: rest') : word = word' ∧ rest = rest' := by
  have hcut : cutAtFirst sep (word ++ sep :: rest) = some (word, rest) :=
    cutAtFirst_eq_some_iff.mpr ⟨rfl, h⟩
  have hcut' : cutAtFirst sep (word ++ sep :: rest) = some (word', rest') :=
    cutAtFirst_eq_some_iff.mpr ⟨heq, h'⟩
  exact Prod.mk.inj (Option.some.inj (hcut.symm.trans hcut'))

/-! ## Lines -/

/-- There is always a piece, if an empty one. -/
lemma pieces_ne_nil (s : List α) : pieces sep s ≠ [] := by
  cases s with
  | nil => simp [pieces]
  | cons c s =>
      rw [pieces]
      split_ifs
      · exact List.cons_ne_nil _ _
      · split <;> exact List.cons_ne_nil _ _

/-- A character that does not separate joins the first piece. -/
lemma pieces_cons_of_ne {c : α} (h : c ≠ sep) {s line : List α} {lines : List (List α)}
    (hs : pieces sep s = line :: lines) : pieces sep (c :: s) = (c :: line) :: lines := by
  rw [pieces, if_neg h, hs]

/-- A text without a separator is its only line. -/
lemma pieces_of_not_mem {s : List α} (h : sep ∉ s) : pieces sep s = [s] := by
  induction s with
  | nil => rfl
  | cons c s ih =>
      rw [List.mem_cons, not_or] at h
      exact pieces_cons_of_ne (Ne.symm h.1) (ih h.2)

/-- A separator divides the lines before it from those after it. -/
lemma pieces_append (s rest : List α) :
    pieces sep (s ++ sep :: rest) = pieces sep s ++ pieces sep rest := by
  induction s with
  | nil => simp [pieces]
  | cons c s ih =>
      by_cases hc : c = sep
      · rw [List.cons_append, pieces, if_pos hc, pieces, if_pos hc, ih, List.cons_append]
      · obtain ⟨line, lines, hs⟩ := List.exists_cons_of_ne_nil (pieces_ne_nil s)
        rw [hs, List.cons_append] at ih
        rw [List.cons_append, pieces_cons_of_ne hc ih, pieces_cons_of_ne hc hs, List.cons_append]

/-- A character that is no separator belongs to the last line. -/
lemma pieces_concat {c : α} (hc : c ≠ sep) (s : List α) : ∃ lines line,
    pieces sep s = lines ++ [line] ∧ pieces sep (s ++ [c]) = lines ++ [line ++ [c]] := by
  induction s with
  | nil => exact ⟨[], [], rfl, pieces_cons_of_ne hc rfl⟩
  | cons d s ih =>
      obtain ⟨lines, line, hs, hmore⟩ := ih
      by_cases hd : d = sep
      · refine ⟨[] :: lines, line, ?_, ?_⟩
        · rw [pieces, if_pos hd, hs, List.cons_append]
        · rw [List.cons_append, pieces, if_pos hd, hmore, List.cons_append]
      · cases lines with
        | nil => exact ⟨[], d :: line, pieces_cons_of_ne hd hs, pieces_cons_of_ne hd hmore⟩
        | cons first lines =>
            exact ⟨(d :: first) :: lines, line, pieces_cons_of_ne hd hs, pieces_cons_of_ne hd hmore⟩

/-- The first line of a text ends at the first separator. -/
lemma pieces_append_sep {word : List α} (h : sep ∉ word) (rest : List α) :
    pieces sep (word ++ sep :: rest) = word :: pieces sep rest := by
  rw [pieces_append, pieces_of_not_mem h, List.singleton_append]

/-- The lines of a text that was written line by line, the last one of them being empty. -/
lemma pieces_flatMap {words : List (List α)} (h : ∀ word ∈ words, sep ∉ word) :
    pieces sep (words.flatMap (· ++ [sep])) = words ++ [[]] := by
  induction words with
  | nil => rfl
  | cons word words ih =>
      rw [List.forall_mem_cons] at h
      rw [List.flatMap_cons, List.append_assoc, List.singleton_append, pieces_append_sep h.1,
        ih h.2, List.cons_append]

/-- The characters of a line are those of the text, and no separator. -/
lemma mem_of_mem_pieces {s line : List α} {c : α} (h : line ∈ pieces sep s) (hc : c ∈ line) :
    c ∈ s ∧ c ≠ sep := by
  induction s generalizing line with
  | nil =>
      rw [pieces, List.mem_singleton] at h
      subst h
      cases hc
  | cons d s ih =>
      by_cases hd : d = sep
      · rw [pieces, if_pos hd, List.mem_cons] at h
        rcases h with rfl | h
        · cases hc
        · exact ⟨List.mem_cons_of_mem d (ih h hc).1, (ih h hc).2⟩
      · obtain ⟨first, lines, hs⟩ := List.exists_cons_of_ne_nil (pieces_ne_nil s)
        rw [pieces_cons_of_ne hd hs, List.mem_cons] at h
        rw [hs] at ih
        rcases h with rfl | h
        · rcases List.mem_cons.mp hc with rfl | hc
          · exact ⟨List.mem_cons_self, hd⟩
          · exact ⟨List.mem_cons_of_mem d (ih List.mem_cons_self hc).1,
              (ih List.mem_cons_self hc).2⟩
        · exact ⟨List.mem_cons_of_mem d (ih (List.mem_cons_of_mem first h) hc).1,
            (ih (List.mem_cons_of_mem first h) hc).2⟩

end word

/-- The characters of a piece are those of the text, without the separator. -/
lemma mem_of_mem_splitText {sep c : Char} {s line : String} (h : line ∈ splitText sep s)
    (hc : c ∈ line.toList) : c ∈ s.toList ∧ c ≠ sep := by
  obtain ⟨chars, hchars, rfl⟩ := List.mem_map.mp h
  rw [String.toList_ofList] at hc
  exact mem_of_mem_pieces hchars hc

/-- The characters of a text that was written line by line. -/
lemma toList_join_lines (lines : List String) :
    (String.join (lines.map (· ++ "\n"))).toList =
      (lines.map String.toList).flatMap (· ++ ['\n']) := by
  have hend : "\n".toList = ['\n'] := rfl
  simp [String.toList_join, List.flatMap_map, hend]

/-- The lines of a text that was written line by line. -/
lemma pieces_join_lines {lines : List String} (h : ∀ line ∈ lines, '\n' ∉ line.toList) :
    pieces '\n' (String.join (lines.map (· ++ "\n"))).toList =
      lines.map String.toList ++ [[]] := by
  rw [toList_join_lines]
  exact pieces_flatMap (by simpa using h)

/-- Lines that are written out are split again, with an empty piece after the last. -/
lemma splitText_join_lines {lines : List String} (h : ∀ line ∈ lines, '\n' ∉ line.toList) :
    splitText '\n' (String.join (lines.map (· ++ "\n"))) = lines ++ [""] := by
  rw [splitText, pieces_join_lines h]
  simp [Function.comp_def]

/-! ## Blanks -/

/-- The blanks at the end of a text are those of its second part, and those of its first part where
the second one holds nothing else. -/
lemma trimRight_append (s t : List Char) :
    trimRight (s ++ t) = if trimRight t = [] then trimRight s else s ++ trimRight t := by
  unfold trimRight
  rw [List.reverse_append, List.dropWhile_append]
  simp only [List.isEmpty_iff, List.reverse_eq_nil_iff]
  split_ifs with h
  · rfl
  · rw [List.reverse_append, List.reverse_reverse]

/-- The end of text that needs no trimming needs none either. -/
lemma trimRight_eq_self_of_append {s t : List Char} (h : trimRight (s ++ t) = s ++ t) :
    trimRight t = t := by
  rw [trimRight_append] at h
  split_ifs at h
  · have hlength : (s ++ t).length ≤ s.length := by
      rw [← h, trimRight_eq_rdropWhile]
      exact (List.rdropWhile_prefix _ _).length_le
    rw [List.length_append] at hlength
    obtain rfl : t = [] := List.eq_nil_of_length_eq_zero (by omega)
    rfl
  · exact List.append_cancel_left h

/-- Text without blanks needs no trimming. -/
lemma trimRight_eq_self {s : List Char} (h : ∀ c ∈ s, isBlank c = false) : trimRight s = s := by
  rw [trimRight_eq_rdropWhile, List.rdropWhile_eq_self_iff]
  intro hne
  rw [h _ (List.getLast_mem hne)]
  exact Bool.false_ne_true

/-- Trimmed text needs no trimming on the right. -/
@[simp] lemma trimRight_trim (s : List Char) : trimRight (trim s) = trim s :=
  List.rdropWhile_idempotent _ _

/-- Trimming leaves nothing of blanks only. -/
lemma trimRight_eq_nil_iff {s : List Char} : trimRight s = [] ↔ ∀ c ∈ s, isBlank c = true := by
  rw [trimRight_eq_rdropWhile, List.rdropWhile_eq_nil_iff]

/-- A blank at the end of a text is trimmed with the others. -/
lemma trim_concat {c : Char} (h : isBlank c = true) (s : List Char) : trim (s ++ [c]) = trim s := by
  have hlast : trimRight [c] = [] := trimRight_eq_nil_iff.mpr (by simpa using h)
  by_cases hs : trimLeft s = []
  · have hnil : trimLeft (s ++ [c]) = [] := by
      rw [trimLeft, List.dropWhile_eq_nil_iff] at hs ⊢
      intro d hd
      rcases List.mem_append.mp hd with hd | hd
      · exact hs d hd
      · rwa [List.mem_singleton.mp hd]
    rw [trim, trim, hnil, hs]
  · have hkept : trimLeft (s ++ [c]) = trimLeft s ++ [c] := by
      rw [trimLeft, List.dropWhile_append]
      exact if_neg (by simpa [trimLeft] using hs)
    rw [trim, hkept, trimRight_append, if_pos hlast, trim]

/-- A text keeps its ends when more text with a space in front follows: what is left of that is a
space and text, or nothing where it is blank. -/
lemma trim_append_space_eq {c : Char} {s : List Char} (hfirst : isBlank c = false)
    (hlast : trimRight (c :: s) = c :: s) (t : List Char) :
    trim (c :: s ++ ' ' :: t) =
      c :: s ++ if trimRight t = [] then [] else ' ' :: trimRight t := by
  have hleft : trimLeft (c :: s ++ ' ' :: t) = c :: s ++ ' ' :: t :=
    trimLeft_cons_of_not_blank _ hfirst
  have hspace : trimRight (' ' :: t) = if trimRight t = [] then [] else ' ' :: trimRight t := by
    rw [← List.singleton_append, trimRight_append]
    split_ifs <;> rfl
  rw [trim, hleft, trimRight_append, hspace]
  split_ifs
  · rw [hlast, List.append_nil]
  · contradiction
  · contradiction
  · rfl

/-- Trimming text and more after a space keeps the text, and the space where more is kept. -/
lemma trim_append_space {c : Char} {s : List Char} (hfirst : isBlank c = false)
    (hlast : trimRight (c :: s) = c :: s) (t : List Char) :
    ∃ tail, trim (c :: s ++ ' ' :: t) = c :: s ++ tail ∧
      (tail = [] ∨ ∃ rest, tail = ' ' :: rest) := by
  refine ⟨_, trim_append_space_eq hfirst hlast t, ?_⟩
  split_ifs
  · exact .inl rfl
  · exact .inr ⟨_, rfl⟩

end KeyDirectory.Text
