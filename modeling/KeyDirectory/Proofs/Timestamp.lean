import KeyDirectory.Timestamp
import Mathlib.Tactic.Lemma
import Mathlib.Tactic.SplitIfs

/-!
# The characters of a timestamp

A timestamp is written with digits and five other characters, none of which means anything to a
reader of lines or of markup.
-/

namespace KeyDirectory

/-- What a timestamp is written with. -/
def Timestamp.isShown (c : Char) : Bool :=
  c.isDigit || c = '-' || c = '+' || c = 'T' || c = ':' || c = 'Z'

/-- A padded number is made of digits. -/
lemma Text.isDigit_of_mem_padded {width n : Nat} {c : Char} (h : c ∈ (padded width n).toList) :
    c.isDigit = true := by
  rw [padded, String.toList_append, String.toList_ofList, List.mem_append,
    Nat.toString_eq_ofList_toDigits, String.toList_ofList] at h
  rcases h with h | h
  · rw [List.eq_of_mem_replicate h]
    rfl
  · exact Nat.isDigit_of_mem_toDigits (by decide) (by decide) h

namespace Timestamp

/-- So all its characters are among those that a time is shown with. -/
lemma all_padded (width n : Nat) : (Text.padded width n).toList.all isShown = true := by
  refine List.all_eq_true.mpr fun c hc => ?_
  rw [isShown, Text.isDigit_of_mem_padded hc]
  rfl

/-- A year is shown with a sign, if any, and digits. -/
lemma all_yearText (year : Int) : (yearText year).toList.all isShown = true := by
  rw [yearText]
  split_ifs <;> simp [all_padded, isShown]

/-- A time is shown with digits, signs between them and the letters of the zone alone. -/
lemma all_text (t : Timestamp) : t.text.toList.all isShown = true := by
  simp [text, all_padded, all_yearText, isShown]

/-- No other character is found in a time. -/
lemma not_mem_text {c : Char} (h : isShown c = false) (t : Timestamp) : c ∉ t.text.toList := by
  intro hc
  rw [List.all_eq_true.mp (all_text t) c hc] at h
  exact Bool.noConfusion h

end Timestamp

end KeyDirectory
