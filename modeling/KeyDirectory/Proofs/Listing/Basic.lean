import KeyDirectory.Listing.Basic
import KeyDirectory.Proofs.Key.Canonical
import KeyDirectory.Proofs.Request.Grammar
import KeyDirectory.Proofs.Timestamp

/-!
# What a listing shows holds no line end

An identity that a path names, the word for a source, a timestamp and the text of a key each stay on
the line that they are written in.
-/

namespace KeyDirectory

/-- An identity from a path is one line. -/
lemma KeyPath.newline_not_mem_identity {path : String} {keyPath : KeyPath}
    (h : KeyPath.parse? path = some keyPath) : '\n' ∉ keyPath.identity.toList := by
  intro hmem
  have hchar := (KeyPath.exists_text_of_parse? h).1.identity _ hmem
  exact absurd hchar (by decide)

namespace Listing

variable {l : Listing}

/-- So is the summary of its listing. -/
lemma newline_not_mem_summary (h : '\n' ∉ l.identity.toList) : '\n' ∉ l.summary.toList := by
  have horigin : '\n' ∉ l.record.origin.text.toList := by
    cases l.record.origin <;> decide
  have hwords : '\n' ∉ " (".toList ∧ '\n' ∉ "), generated ".toList := by decide
  have htime : '\n' ∉ l.generated.text.toList := Timestamp.not_mem_text (by decide) _
  unfold summary
  simp only [String.toList_append, List.mem_append, not_or]
  exact ⟨⟨⟨⟨h, hwords.1⟩, horigin⟩, hwords.2⟩, htime⟩

/-- Each key of a listing is one line. -/
lemma newline_not_mem_lines {line : String} (h : line ∈ l.lines) : '\n' ∉ line.toList := by
  obtain ⟨key, -, rfl⟩ := List.mem_map.mp h
  exact Key.newline_not_mem_canonical key

end Listing

end KeyDirectory
