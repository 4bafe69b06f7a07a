import KeyDirectory.Shell.Script
import Mathlib.Tactic.Lemma
import Mathlib.Tactic.SplitIfs

/-!
# Scripts part by part

A script can be read part by part, where no part ends within a here-document.

* `readLine?_comment`: a comment line holds nothing, whatever stands in it.
* `readLines?_append`: a part is read before what follows it.
* `readLines?_hereDocument`: a command gets exactly the lines between its own and the first one that
  is the delimiter.
-/

namespace KeyDirectory.Shell

variable {line text delimiter : List Char} {lines : List (List Char)}

/-! ## Comments -/

/-- Within a comment every character is passed over. -/
lemma foldlM_comment (s : List Char) (delimiter : Option (List Char)) :
    s.foldlM Reader.take? ⟨.comment, text, delimiter⟩ = some ⟨.comment, text, delimiter⟩ := by
  induction s with
  | nil => rfl
  | cons c s ih =>
      have htake : Reader.take? ⟨.comment, text, delimiter⟩ c =
          some ⟨.comment, text, delimiter⟩ := rfl
      rw [List.foldlM_cons, htake]
      exact ih

/-- A line that begins with a hash is a comment. -/
lemma readLine?_comment (s : List Char) : readLine? ('#' :: s) = some ([], none) := by
  have hsign : Reader.start.take? '#' = some ⟨.comment, [], none⟩ := rfl
  have hread : ('#' :: s).foldlM Reader.take? Reader.start = some ⟨.comment, [], none⟩ := by
    rw [List.foldlM_cons, hsign]
    exact foldlM_comment s none
  rw [readLine?, hread]
  rfl

/-! ## Parts -/

/-- A part that is read on its own ends between commands, whatever it begins within, so what follows
it is read as a script. -/
theorem readLines?_append {mode : Mode} {part : List (List Char)} {commands : List Command}
    (h : readLines? mode part = some commands) (rest : List (List Char)) :
    readLines? mode (part ++ rest) = (readLines? .command rest).map (commands ++ ·) := by
  induction part generalizing mode commands with
  | nil =>
      cases mode with
      | command =>
          obtain rfl : [] = commands := Option.some.inj h
          simp
      | document text delimiter read =>
          -- a part that stops within a document is not read
          cases h
  | cons line part ih =>
      cases mode with
      | command =>
          rw [readLines?] at h
          rw [List.cons_append, readLines?]
          rcases hline : readLine? line with _ | ⟨text, _ | delimiter⟩ <;> rw [hline] at h
          · cases h
          · dsimp only at h ⊢
            split_ifs at h ⊢
            · exact ih h
            · obtain ⟨commands, hpart, rfl⟩ := Option.map_eq_some_iff.mp h
              rw [ih hpart, Option.map_map]
              rfl
          · exact ih h
      | document text delimiter read =>
          rw [readLines?] at h
          rw [List.cons_append, readLines?]
          split_ifs at h ⊢
          · obtain ⟨commands, hpart, rfl⟩ := Option.map_eq_some_iff.mp h
            rw [ih hpart, Option.map_map]
            rfl
          · exact ih h

/-! ## Here-documents -/

/-- A document has all lines up to the first one that is its delimiter. -/
lemma readLines?_document (h : delimiter ∉ lines) (read : List (List Char)) :
    readLines? (.document text delimiter read) (lines ++ [delimiter]) =
      some [⟨String.ofList text, some (documentText (read ++ lines))⟩] := by
  induction lines generalizing read with
  | nil => simp [readLines?]
  | cons line lines ih =>
      rw [List.mem_cons, not_or] at h
      rw [List.cons_append, readLines?, if_neg (Ne.symm h.1), ih h.2, List.append_assoc,
        List.singleton_append]

/-- A command with a here-document takes the lines up to the delimiter, and the delimiter. -/
theorem readLines?_hereDocument (hline : readLine? line = some (text, some delimiter))
    (h : delimiter ∉ lines) :
    readLines? .command (line :: (lines ++ [delimiter])) =
      some [⟨String.ofList text, some (documentText lines)⟩] := by
  rw [readLines?, hline]
  exact readLines?_document h []

end KeyDirectory.Shell
