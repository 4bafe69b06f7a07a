import KeyDirectory.Key.Line
import KeyDirectory.Proofs.Key.Material
import KeyDirectory.Proofs.Text.Base64
import KeyDirectory.Proofs.Text.Line

/-!
# Which lines hold a key

A line is read by its number of spaces: as a key with any comment, and where at least three spaces
stand, as a key after options as well.  No line has both readings, since the name of an algorithm
holds a character that base64 does not have.

* `segment?_sound`, `segment?_append`: one word of a line.
* `ofText?_eq_some_iff`: a key with any comment.
* `carriesKey_unique`: a line has one key part at most.
* `parseChars_eq_ok_iff`: the lines that are read, and the key of each.
-/

namespace KeyDirectory.Key

open Text (trim trimRight)
open Material (IsWire isPlainChar)

/-! ## Characters -/

/-- A space is not plain. -/
lemma space_not_plain : isPlainChar ' ' = false := by decide

/-- So there is none among plain characters. -/
lemma space_not_mem {s : List Char} (h : s.all isPlainChar = true) : ' ' ∉ s := by
  intro hmem
  have hplain := List.all_eq_true.mp h _ hmem
  rw [space_not_plain] at hplain
  exact Bool.false_ne_true hplain

/-- Base64 is written in plain characters. -/
lemma encode_plain (bytes : List UInt8) : (Text.Base64.encode bytes).all isPlainChar = true := by
  rw [List.all_eq_true]
  intro c hc
  simp only [isPlainChar, Bool.or_eq_true, decide_eq_true_eq]
  rcases Text.Base64.mem_encode hc with h | rfl | rfl | rfl <;> simp_all

/-- The name of an algorithm is none of a base64 text. -/
lemma label_ne_encode {label : String} (h : Material.IsLabel label) (bytes : List UInt8) :
    label.toList ≠ Text.Base64.encode bytes := by
  intro heq
  rcases h.marked with hmem | hmem
  all_goals
    rw [heq] at hmem
    rcases Text.Base64.mem_encode hmem with h | h | h | h <;> revert h <;> decide

/-! ## Words of a line -/

/-- What is read as a word is made of plain characters, and ends with the line or before a space. -/
lemma segment?_sound {s before after : List Char} (h : segment? s = some (before, after)) :
    before.all isPlainChar = true ∧ ((s = before ∧ after = []) ∨ s = before ++ ' ' :: after) := by
  induction s generalizing before with
  | nil =>
      cases h
      exact ⟨rfl, .inl ⟨rfl, rfl⟩⟩
  | cons c s ih =>
      rw [segment?] at h
      split_ifs at h with hspace hplain
      · cases h
        exact ⟨rfl, .inr (by rw [hspace, List.nil_append])⟩
      · obtain ⟨⟨word, rest⟩, hword, heq⟩ := Option.map_eq_some_iff.mp h
        cases heq
        obtain ⟨hall, hs⟩ := ih hword
        refine ⟨by rw [List.all_cons, hplain, hall, Bool.and_self], ?_⟩
        rcases hs with ⟨rfl, rfl⟩ | rfl
        · exact .inl ⟨rfl, rfl⟩
        · exact .inr rfl

/-- A word is read up to the end of the line or the next space. -/
lemma segment?_append {before tail : List Char} (h : before.all isPlainChar = true)
    (htail : tail = [] ∨ ∃ rest, tail = ' ' :: rest) :
    segment? (before ++ tail) = some (before, tail.tail) := by
  induction before with
  | nil =>
      rcases htail with rfl | ⟨rest, rfl⟩
      · rfl
      · rw [List.nil_append, segment?, if_pos rfl, List.tail_cons]
  | cons c before ih =>
      rw [List.all_cons, Bool.and_eq_true] at h
      have hspace : c ≠ ' ' := by
        rintro rfl
        exact Bool.false_ne_true (space_not_plain.symm.trans h.1)
      rw [List.cons_append, segment?, if_neg hspace, if_pos h.1, ih h.2]
      rfl

/-! ## Keys with any comment -/

/-- The key of a wire form. -/
lemma ofWire?_eq_some_iff {bytes : List UInt8} {key : PublicKey} :
    PublicKey.ofWire? bytes = some key ↔ IsWire bytes key.material := by
  rw [← Material.ofWire?_eq_some_iff, PublicKey.ofWire?]
  cases h : Material.ofWire? bytes with
  | none => simp
  | some m =>
      have hvalid := (Material.ofWire?_eq_some_iff.mp h).1
      simp only [dif_pos hvalid, Option.some.injEq]
      constructor
      · rintro rfl
        rfl
      · rintro rfl
        rfl

/-- A wire form is not empty, since it begins with a length. -/
lemma IsWire.encode_ne_nil {bytes : List UInt8} {m : Material} (h : IsWire bytes m) :
    Text.Base64.encode bytes ≠ [] := by
  obtain ⟨-, label, -, rfl⟩ := h
  rw [ne_eq, Text.Base64.encode_eq_nil_iff, List.flatMap_cons, List.append_eq_nil_iff]
  rintro ⟨hfield, -⟩
  exact Material.writeField_ne_nil _ hfield

/-- The algorithm of a key is a label. -/
lemma isLabel_algorithm (key : PublicKey) : Material.IsLabel key.algorithm :=
  Material.isLabel_of_mem key.isWellFormed (Material.label_mem_labels key.material)

/-- It is not empty. -/
lemma algorithm_ne_nil (key : PublicKey) : key.algorithm.toList ≠ [] := by
  intro h
  rcases (isLabel_algorithm key).marked with hmem | hmem
  · simp [h] at hmem
  · simp [h] at hmem

/-- What is read as a key with any comment is one. -/
lemma isKeyText_of_ofText? {s : List Char} {key : PublicKey} (hs : trimRight s = s)
    (h : ofText? s = some key) :
    ∃ wire, IsWire wire key.material ∧ IsKeyText s key.algorithm wire := by
  simp only [ofText?, hs, Option.bind_eq_bind, Option.bind_eq_some_iff, Prod.exists,
    Option.ite_none_left_eq_some, Option.ite_none_right_eq_some, Option.some.injEq,
    Text.Base64.decode?_eq_some_iff, ofWire?_eq_some_iff] at h
  obtain ⟨algorithm, rest, hfirst, digits, tail, hsecond, -, wire, rfl, key', hwire, hlabel, rfl⟩ :=
    h
  have hname : key'.algorithm.toList = algorithm := by rw [hlabel, String.toList_ofList]
  obtain ⟨-, hrest⟩ := segment?_sound hfirst
  obtain ⟨-, htail⟩ := segment?_sound hsecond
  rcases hrest with ⟨rfl, rfl⟩ | rfl
  · -- A line of one word has no base64 part.
    have hnil : Text.Base64.encode wire = [] := by
      rcases htail with ⟨h, -⟩ | h
      · exact h.symm
      · simp at h
    exact absurd hnil (IsWire.encode_ne_nil hwire)
  · refine ⟨wire, hwire, ?_⟩
    rw [IsKeyText, hname]
    rcases htail with ⟨rfl, rfl⟩ | rfl
    · exact ⟨[], by rw [List.append_nil], .inl rfl⟩
    · exact ⟨' ' :: tail, rfl, .inr ⟨tail, rfl⟩⟩

/-- A key with any comment is read. -/
lemma ofText?_of_isKeyText {s : List Char} {key : PublicKey} {wire : List UInt8}
    (hs : trimRight s = s) (hwire : IsWire wire key.material)
    (h : IsKeyText s key.algorithm wire) : ofText? s = some key := by
  obtain ⟨tail, rfl, htail⟩ := h
  have hfirst : segment? (key.algorithm.toList ++ ' ' :: (Text.Base64.encode wire ++ tail)) =
      some (key.algorithm.toList, Text.Base64.encode wire ++ tail) :=
    segment?_append (isLabel_algorithm key).plain (.inr ⟨_, rfl⟩)
  have hsecond : segment? (Text.Base64.encode wire ++ tail) =
      some (Text.Base64.encode wire, tail.tail) :=
    segment?_append (encode_plain wire) htail
  have hread : PublicKey.ofWire? wire = some key := ofWire?_eq_some_iff.mpr hwire
  simp [ofText?, hs, hfirst, hsecond, hread, algorithm_ne_nil key, IsWire.encode_ne_nil hwire]

/-- A text without blanks at its end reads as the key of its wire bytes, under the label of that
key. -/
lemma ofText?_eq_some_iff {s : List Char} {key : PublicKey} (hs : trimRight s = s) :
    ofText? s = some key ↔ ∃ wire, IsWire wire key.material ∧ IsKeyText s key.algorithm wire := by
  constructor
  · exact isKeyText_of_ofText? hs
  · rintro ⟨wire, hwire, h⟩
    exact ofText?_of_isKeyText hs hwire h

/-! ## The key part -/

section part

variable {s rest options line : List Char} {algorithm algorithm' : String} {wire wire' : List UInt8}

/-- The words that a key text begins with. -/
lemma IsKeyText.takeWhile (h : IsKeyText s algorithm wire) :
    ∃ t, s = algorithm.toList ++ ' ' :: t ∧
      t.takeWhile (fun c => decide (c ≠ ' ')) = Text.Base64.encode wire := by
  obtain ⟨tail, rfl, htail⟩ := h
  exact ⟨_, rfl, Text.takeWhile_word (space_not_mem (encode_plain wire)) htail⟩

/-- A text is the key text of one label and of one byte string. -/
lemma isKeyText_unique (h : IsKeyText s algorithm wire) (h' : IsKeyText s algorithm' wire')
    (hlabel : Material.IsLabel algorithm) (hlabel' : Material.IsLabel algorithm') :
    algorithm = algorithm' ∧ wire = wire' := by
  obtain ⟨t, rfl, ht⟩ := h.takeWhile
  obtain ⟨t', heq, ht'⟩ := h'.takeWhile
  obtain ⟨hword, rfl⟩ :=
    Text.word_unique (space_not_mem hlabel.plain) (space_not_mem hlabel'.plain) heq
  exact ⟨String.toList_inj.mp hword, Text.Base64.encode_injective (ht.symm.trans ht')⟩

/-- What follows the first space of a key text is no key text: it begins with base64, and a key
text with the name of an algorithm. -/
lemma not_isKeyText_rest (h : IsKeyText (options ++ ' ' :: rest) algorithm wire)
    (hoptions : ' ' ∉ options) (hlabel : Material.IsLabel algorithm)
    (hlabel' : Material.IsLabel algorithm') : ¬ IsKeyText rest algorithm' wire' := by
  intro h'
  obtain ⟨t, heq, ht⟩ := h.takeWhile
  obtain ⟨-, rfl⟩ := Text.word_unique hoptions (space_not_mem hlabel.plain) heq
  obtain ⟨t', rfl, -⟩ := h'.takeWhile
  rw [Text.takeWhile_word (space_not_mem hlabel'.plain) (.inr ⟨_, rfl⟩)] at ht
  exact label_ne_encode hlabel' wire ht

/-- What a line carries a key under is a label. -/
lemma CarriesKey.isLabel (h : CarriesKey line algorithm wire) : Material.IsLabel algorithm := by
  obtain ⟨⟨m, rfl, hm⟩, -⟩ := h
  exact Material.isLabel_of_mem hm.1 (Material.label_mem_labels m)

/-- A line has one key part at most. -/
theorem carriesKey_unique (h : CarriesKey line algorithm wire)
    (h' : CarriesKey line algorithm' wire') : algorithm = algorithm' ∧ wire = wire' := by
  have hlabel := h.isLabel
  have hlabel' := h'.isLabel
  rcases h.2 with htext | ⟨options, rest, hline, hoptions, htext⟩ <;>
    rcases h'.2 with htext' | ⟨options', rest', hline', hoptions', htext'⟩
  · exact isKeyText_unique htext htext' hlabel hlabel'
  · rw [hline'] at htext
    exact absurd htext' (not_isKeyText_rest htext hoptions' hlabel hlabel')
  · rw [hline] at htext'
    exact absurd htext (not_isKeyText_rest htext' hoptions hlabel' hlabel)
  · rw [hline] at hline'
    obtain ⟨-, rfl⟩ := Text.word_unique hoptions hoptions' hline'
    exact isKeyText_unique htext htext' hlabel hlabel'

end part

/-! ## The whole line -/

/-- Option characters are no spaces. -/
lemma space_not_mem_options {options : List Char} (h : options.all isOptionChar = true) :
    ' ' ∉ options := by
  intro hmem
  exact absurd (List.all_eq_true.mp h _ hmem) (by decide)

/-- A key after options, one space between them. -/
lemma ofTextAfterOptions?_eq_some_iff {s : List Char} {key : PublicKey} (hs : trimRight s = s) :
    ofTextAfterOptions? s = some key ↔ ∃ options rest, s = options ++ ' ' :: rest ∧
      options.all isOptionChar = true ∧
        ∃ wire, IsWire wire key.material ∧ IsKeyText rest key.algorithm wire := by
  simp only [ofTextAfterOptions?, Option.bind_eq_bind, Option.bind_eq_some_iff, Prod.exists,
    Text.cutAtFirst_eq_some_iff, Option.ite_none_right_eq_some]
  have htrim : ∀ options rest, s = options ++ ' ' :: rest → trimRight rest = rest := by
    rintro options rest rfl
    rw [← List.singleton_append, ← List.append_assoc] at hs
    exact Text.trimRight_eq_self_of_append hs
  constructor
  · rintro ⟨options, rest, ⟨hline, -⟩, hall, hkey⟩
    exact ⟨options, rest, hline, hall, (ofText?_eq_some_iff (htrim _ _ hline)).mp hkey⟩
  · rintro ⟨options, rest, hline, hall, hkey⟩
    exact ⟨options, rest, ⟨hline, space_not_mem_options hall⟩, hall,
      (ofText?_eq_some_iff (htrim _ _ hline)).mpr hkey⟩

/-- A line reads as a key when it does without the blanks around it. -/
lemma parseChars_eq_ok_iff_trimmed {line : List Char} {key : PublicKey} :
    parseChars line = .ok key ↔ ofTrimmedLine? (trim line) = some key := by
  unfold parseChars
  generalize trim line = s
  cases s with
  | nil => simp [ofTrimmedLine?]
  | cons c s => cases h : ofTrimmedLine? (c :: s) <;> simp [h]

/-- A key text has a space. -/
lemma IsKeyText.count_pos {s : List Char} {algorithm : String} {wire : List UInt8}
    (h : IsKeyText s algorithm wire) : 0 < s.count ' ' := by
  obtain ⟨tail, rfl, -⟩ := h
  apply List.count_pos_iff.mpr
  simp

/-- A line with options is not read as a key with a comment: that would take a base64 text for the
name of an algorithm. -/
lemma ofText?_eq_none {options rest : List Char} {algorithm : String} {wire : List UInt8}
    (hs : trimRight (options ++ ' ' :: rest) = options ++ ' ' :: rest)
    (hoptions : options.all isOptionChar = true) (hlabel : Material.IsLabel algorithm)
    (h : IsKeyText rest algorithm wire) : ofText? (options ++ ' ' :: rest) = none := by
  rw [Option.eq_none_iff_forall_ne_some]
  intro key hkey
  obtain ⟨wire', -, htext⟩ := isKeyText_of_ofText? hs hkey
  exact not_isKeyText_rest htext (space_not_mem_options hoptions) (isLabel_algorithm key) hlabel h

/-- **The lines that are read.**  A line holds a key and any comment; where at least three spaces
stand, there may be options in front of the key. -/
theorem parseChars_eq_ok_iff {line : List Char} {key : PublicKey} :
    parseChars line = .ok key ↔ ∃ wire, IsWire wire key.material ∧
      (IsKeyText (trim line) key.algorithm wire ∨
        3 ≤ (trim line).count ' ' ∧ ∃ options rest, trim line = options ++ ' ' :: rest ∧
          options.all isOptionChar = true ∧ IsKeyText rest key.algorithm wire) := by
  rw [parseChars_eq_ok_iff_trimmed]
  have hs : trimRight (trim line) = trim line := Text.trimRight_trim line
  generalize trim line = s at hs
  unfold ofTrimmedLine?
  split
  case h_1 hcount =>
    constructor
    · intro h
      simp at h
    · rintro ⟨wire, -, h | ⟨h, -⟩⟩
      · have hpos := h.count_pos
        omega
      · omega
  case h_2 hcount | h_3 hcount =>
    rw [ofText?_eq_some_iff hs]
    apply exists_congr
    intro wire
    apply and_congr_right
    intro _
    constructor
    · exact Or.inl
    · rintro (h | ⟨h, -⟩)
      · exact h
      · omega
  case h_4 hzero hone htwo =>
    have hmany : 3 ≤ s.count ' ' := by
      change _ ≠ _ at hzero hone htwo
      omega
    rw [Option.or_eq_some_iff, ofText?_eq_some_iff hs, ofTextAfterOptions?_eq_some_iff hs]
    constructor
    · rintro (⟨wire, hwire, h⟩ | ⟨-, options, rest, hline, hall, wire, hwire, h⟩)
      · exact ⟨wire, hwire, .inl h⟩
      · exact ⟨wire, hwire, .inr ⟨hmany, options, rest, hline, hall, h⟩⟩
    · rintro ⟨wire, hwire, h | ⟨-, options, rest, rfl, hall, h⟩⟩
      · exact .inl ⟨wire, hwire, h⟩
      · have hnone := ofText?_eq_none hs hall (isLabel_algorithm key) h
        exact .inr ⟨hnone, options, rest, rfl, hall, wire, hwire, h⟩

/-- A line that is a key text, with any comment, is read. -/
lemma parseChars_of_isKeyText {line : List Char} {key : PublicKey} {wire : List UInt8}
    (hwire : IsWire wire key.material) (htext : IsKeyText (trim line) key.algorithm wire) :
    parseChars line = .ok key ∧ CarriesKey line key.algorithm wire :=
  ⟨parseChars_eq_ok_iff.mpr ⟨wire, hwire, .inl htext⟩, ⟨key.material, rfl, hwire⟩, .inl htext⟩

/-- What is read from a line is the key of its key part. -/
theorem carriesKey_of_parseChars {line : List Char} {key : PublicKey}
    (h : parseChars line = .ok key) :
    ∃ wire, IsWire wire key.material ∧ CarriesKey line key.algorithm wire := by
  obtain ⟨wire, hwire, hline⟩ := parseChars_eq_ok_iff.mp h
  refine ⟨wire, hwire, ⟨key.material, rfl, hwire⟩, hline.imp_right ?_⟩
  rintro ⟨-, options, rest, hline, hall, htext⟩
  exact ⟨options, rest, hline, space_not_mem_options hall, htext⟩

/-! ## Lists of lines -/

/-- Lists of lines fail with the failure of a key, and no other. -/
lemma parseAllFrom_eq_error {index : Nat} {lines : List String} {failure : Failure}
    (h : parseAllFrom index lines = .error failure) :
    ∃ detail, failure = .invalidKey detail := by
  induction lines generalizing index with
  | nil => cases h
  | cons line lines ih =>
    rw [parseAllFrom] at h
    split at h
    · exact ⟨_, (Except.error.inj h).symm⟩
    · split at h
      · rename_i hlines
        cases h
        exact ih hlines
      · cases h

end KeyDirectory.Key
