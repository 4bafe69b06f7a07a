import KeyDirectory.Settings.LegalBlock
import KeyDirectory.Source.Blocklist
import Mathlib.Data.List.DropRight

/-!
# Who a blocklist bars

A list of identities is cut, trimmed and rid of blank elements when the settings are read, and
trimmed, put into lower case and rid of blank elements once more when the blocklist is made.

* `trimText_trimText`, `lowerCase_eq_empty_iff`: the second pass changes nothing of the first.
* `bars_ofNames_iff`, `bars_blockedNames_iff`: whom a list bars.
-/

namespace KeyDirectory

namespace Text

/-- Trimming on the right drops blanks from the end. -/
lemma trimRight_eq_rdropWhile (s : List Char) : trimRight s = s.rdropWhile isBlank := rfl

/-- A text that starts with no blank starts with none when the blanks at its end are gone. -/
lemma trimLeft_trimRight {s : List Char} (h : trimLeft s = s) :
    trimLeft (trimRight s) = trimRight s := by
  obtain ⟨rest, hrest⟩ : trimRight s <+: s := by
    rw [trimRight_eq_rdropWhile]
    exact List.rdropWhile_prefix _ _
  rcases hs : trimRight s with _ | ⟨c, t⟩
  · rfl
  · rw [hs, List.cons_append] at hrest
    subst hrest
    have hc : isBlank c = false := by
      by_contra hblank
      have hlength : (trimLeft (c :: (t ++ rest))).length ≤ (t ++ rest).length := by
        rw [trimLeft, List.dropWhile_cons_of_pos (by simpa using hblank)]
        exact List.length_dropWhile_le _ _
      rw [h, List.length_cons] at hlength
      omega
    exact trimLeft_cons_of_not_blank t hc

/-- Trimming twice is trimming once. -/
lemma trim_trim (s : List Char) : trim (trim s) = trim s := by
  have hleft : trimLeft (trimLeft s) = trimLeft s := List.dropWhile_idempotent _ _
  unfold trim
  rw [trimLeft_trimRight hleft, trimRight_eq_rdropWhile (trimRight _), trimRight_eq_rdropWhile]
  exact List.rdropWhile_idempotent _ _

/-- Trimming a text twice is trimming it once. -/
@[simp] lemma trimText_trimText (s : String) : trimText (trimText s) = trimText s := by
  simp [trimText, trim_trim]

/-- No character disappears in lower case. -/
@[simp] lemma lowerCase_eq_empty_iff {s : String} : lowerCase s = "" ↔ s = "" := by
  constructor
  · intro h
    rcases hs : s.toList with _ | ⟨c, rest⟩
    · exact String.toList_eq_nil_iff.mp hs
    · have hnil : lowerCaseAfter false (c :: rest) = [] := by
        simpa [lowerCase, hs] using h
      rw [lowerCaseAfter, List.append_eq_nil_iff] at hnil
      split_ifs at hnil <;> simp at hnil
  · rintro rfl
    rfl

end Text

/-- A list bars the identities that are its names in some spelling, blanks around them aside. -/
lemma Blocklist.bars_ofNames_iff {names : List String} {identity : String} :
    (Blocklist.ofNames names).bars identity = true ↔
      ∃ name ∈ names, Text.trimText name ≠ "" ∧
        Text.lowerCase (Text.trimText name) = Text.lowerCase identity := by
  simp only [ofNames, bars, List.contains_iff_mem, List.mem_eraseDups, List.mem_filter,
    List.mem_map, Bool.not_eq_true', String.isEmpty_eq_false_iff, ne_eq]
  constructor
  · rintro ⟨⟨name, hname, hlower⟩, hne⟩
    rw [← hlower, Text.lowerCase_eq_empty_iff] at hne
    exact ⟨name, hname, hne, hlower⟩
  · rintro ⟨name, hname, hne, hlower⟩
    refine ⟨⟨name, hname, hlower⟩, ?_⟩
    rwa [← hlower, Text.lowerCase_eq_empty_iff]

/-- The blocked names are the trimmed elements of the setting that are not empty. -/
lemma Settings.mem_blockedNames_iff {s : Settings} {name : String} :
    name ∈ s.blockedNames ↔
      (∃ element ∈ s.legalBlockElements, Text.trimText element = name) ∧ name ≠ "" := by
  unfold blockedNames legalBlockElements
  rcases s.legalBlock with _ | text
  · simp
  · simp

/-- The blocklist of the settings bars whom the settings refuse. -/
theorem Settings.bars_blockedNames_iff {s : Settings} {identity : String} :
    (Blocklist.ofNames s.blockedNames).bars identity = true ↔ s.Refuses identity := by
  rw [Blocklist.bars_ofNames_iff]
  constructor
  · rintro ⟨name, hname, hne, hlower⟩
    obtain ⟨⟨element, helement, rfl⟩, -⟩ := mem_blockedNames_iff.mp hname
    rw [Text.trimText_trimText] at hne hlower
    exact ⟨element, helement, hne, hlower⟩
  · rintro ⟨element, helement, hne, hlower⟩
    refine ⟨Text.trimText element, mem_blockedNames_iff.mpr ⟨⟨element, helement, rfl⟩, hne⟩, ?_⟩
    rw [Text.trimText_trimText]
    exact ⟨hne, hlower⟩

/-- A Kelvin sign is a letter K, and an element of blanks is nobody. -/
example :
    let s := { Settings.standard with legalBlock := some " \u212Aim , ,eve" }
    s.Refuses "kIM" ∧ s.Refuses "Eve" ∧ ¬ s.Refuses "" ∧ ¬ s.Refuses "im" := by
  decide +kernel

end KeyDirectory
