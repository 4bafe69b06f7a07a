import KeyDirectory.Key.Options
import KeyDirectory.Proofs.Key.File

/-!
# Keys after options

A line is read by its number of spaces, so the comment after a key decides whether options in front
of it are looked for at all.

* `IsOptions.exists_first`: how options begin.
* `parseChars_afterOptions_iff`: what is read from options, a space and a key text.
* `parseChars_bare`, `parseChars_commented_iff`: the same of a canonical text without and with a
  comment.
* `parse_afterOptions_iff`: the result.
* `bareOptions_refused`: a line that is refused although its options are well-formed.
-/

namespace KeyDirectory.Key

open Material (IsWire isPlainChar)

/-! ## How options begin -/

/-- An option begins with a character of its name. -/
lemma IsOption.exists_first {option : List Char} (h : IsOption option) :
    ∃ c rest, option = c :: rest ∧ isOptionNameChar c = true := by
  cases h with
  | flag hne hname =>
      obtain ⟨c, rest, rfl⟩ := List.exists_cons_of_ne_nil hne
      exact ⟨c, rest, rfl, List.all_eq_true.mp hname c List.mem_cons_self⟩
  | valued hne hname hvalue =>
      obtain ⟨c, rest, rfl⟩ := List.exists_cons_of_ne_nil hne
      exact ⟨c, _, rfl, List.all_eq_true.mp hname c List.mem_cons_self⟩

/-- So do several. -/
lemma IsOptions.exists_first {options : List Char} (h : IsOptions options) :
    ∃ c rest, options = c :: rest ∧ isOptionNameChar c = true := by
  cases h with
  | last h => exact h.exists_first
  | more h hrest =>
      obtain ⟨c, rest, rfl, hc⟩ := h.exists_first
      exact ⟨c, _, rfl, hc⟩

/-- A name of an option is made of characters that a name of an algorithm has too. -/
lemma isPlainChar_of_isOptionNameChar {c : Char} (h : isOptionNameChar c = true) :
    isPlainChar c = true := by
  unfold isOptionNameChar at h
  rw [Bool.or_eq_true, decide_eq_true_eq] at h
  unfold isPlainChar
  rcases h with h | rfl
  · simp [h]
  · decide

/-! ## Lines with options -/

/-- Of options, a space and a key text with any comment the key is read if there is a comment and
the options hold no character that is unknown; else nothing is read. -/
lemma parseChars_afterOptions_iff {line options tail : List Char} {key key' : PublicKey}
    (hspace : ' ' ∉ options) (htail : tail = [] ∨ ∃ comment, tail = ' ' :: comment)
    (hline : Text.trim line = options ++ ' ' :: (key.canonical.toList ++ tail)) :
    parseChars line = .ok key' ↔
      key' = key ∧ options.all isOptionChar = true ∧ tail ≠ [] := by
  have hwire : IsWire key.wire key.material := Material.isWire_wire key.isWellFormed
  have htext : IsKeyText (key.canonical.toList ++ tail) key.algorithm key.wire := by
    refine ⟨tail, ?_, htail⟩
    rw [canonical_toList, List.append_assoc, List.cons_append]
  have hcount : (Text.trim line).count ' ' = 2 + tail.count ' ' := by
    rw [hline, List.count_append, List.count_cons_self, List.count_append,
      count_space_canonical, List.count_eq_zero.mpr hspace]
    omega
  rw [parseChars_eq_ok_iff, hcount, hline]
  constructor
  · rintro ⟨wire, hwire', hwhole | ⟨hmany, options', rest, hsplit, hknown, htext'⟩⟩
    · exact absurd htext
        (not_isKeyText_rest hwhole hspace (isLabel_algorithm key') (isLabel_algorithm key))
    · obtain ⟨rfl, rfl⟩ := Text.word_unique hspace (space_not_mem_options hknown) hsplit
      obtain ⟨-, rfl⟩ :=
        isKeyText_unique htext htext' (isLabel_algorithm key) (isLabel_algorithm key')
      refine ⟨?_, hknown, ?_⟩
      · rw [eq_iff_wire_eq]
        exact congrArg Material.wire (hwire'.unique hwire)
      · rintro rfl
        simp at hmany
  · rintro ⟨rfl, hknown, hne⟩
    obtain ⟨comment, rfl⟩ := htail.resolve_left hne
    refine ⟨key'.wire, hwire, .inr ⟨?_, options, _, rfl, hknown, htext⟩⟩
    rw [List.count_cons_self]
    omega

/-- A line that is not blank and not a key is malformed. -/
lemma parseChars_eq_malformed {line : List Char} (hne : Text.trim line ≠ [])
    (h : ∀ key, parseChars line ≠ .ok key) :
    parseChars line = .error (.invalidKey malformedDetail) := by
  unfold parseChars at h ⊢
  rw [if_neg (by simpa using hne)] at h ⊢
  split
  case h_1 key hkey =>
    rw [hkey] at h
    exact absurd rfl (h key)
  case h_2 => rfl

section line

variable {options : String}

/-- The options and the key have no blanks around them, and are no comment of a file. -/
lemma exists_first_of_bare (hoptions : IsOptions options.toList) (key : PublicKey) :
    ∃ c rest, options.toList ++ ' ' :: key.canonical.toList = c :: rest ∧
      Text.isBlank c = false ∧ c ≠ '#' ∧ Text.trimRight (c :: rest) = c :: rest := by
  obtain ⟨c, name, hname, hc⟩ := hoptions.exists_first
  have hplain : isPlainChar c = true := isPlainChar_of_isOptionNameChar hc
  have hlast : Text.trimRight (options.toList ++ ' ' :: key.canonical.toList) =
      options.toList ++ ' ' :: key.canonical.toList := by
    have hend := trimRight_keyText (Material.isWire_wire key.isWellFormed)
      (options.toList ++ ' ' :: key.algorithm.toList)
    rw [List.append_assoc, List.cons_append] at hend
    rw [canonical_toList]
    exact hend
  rw [hname, List.cons_append] at hlast ⊢
  refine ⟨c, _, rfl, isBlank_of_isPlainChar hplain, ?_, hlast⟩
  rintro rfl
  exact absurd hplain (by decide)

/-- The comment after the key, as far as a line shows it. -/
def commentTail (comment : String) : List Char :=
  if Text.trimRight comment.toList = [] then [] else ' ' :: Text.trimRight comment.toList

/-- Nothing is left of a comment, or a space and something. -/
lemma commentTail_cases (comment : String) :
    commentTail comment = [] ∨ ∃ rest, commentTail comment = ' ' :: rest := by
  unfold commentTail
  split_ifs
  · exact .inl rfl
  · exact .inr ⟨_, rfl⟩

/-- Something is left of a comment unless it is blank. -/
lemma commentTail_ne_nil_iff {comment : String} :
    commentTail comment ≠ [] ↔ ∃ c ∈ comment.toList, Text.isBlank c = false := by
  have hblank : Text.trimRight comment.toList = [] ↔
      ¬ ∃ c ∈ comment.toList, Text.isBlank c = false := by
    rw [Text.trimRight_eq_nil_iff]
    simp
  unfold commentTail
  split_ifs with h
  · exact iff_of_false (fun hne => hne rfl) (hblank.mp h)
  · exact iff_of_true (List.cons_ne_nil _ _) (not_not.mp (mt hblank.mpr h))

/-- A line as it is read: no blank comes off but those of the comment. -/
lemma trim_commented (hoptions : IsOptions options.toList) (key : PublicKey) (comment : String) :
    Text.trim (options ++ " " ++ key.canonical ++ " " ++ comment).toList =
      options.toList ++ ' ' :: (key.canonical.toList ++ commentTail comment) := by
  obtain ⟨c, rest, hbare, hfirst, -, hlast⟩ := exists_first_of_bare hoptions key
  have htrim := Text.trim_append_space_eq hfirst hlast comment.toList
  rw [← hbare, List.append_assoc, List.cons_append] at htrim
  simpa [commentTail] using htrim

/-- Options and a key, with no comment, have no blanks around them. -/
lemma trim_bare (hoptions : IsOptions options.toList) (key : PublicKey) :
    Text.trim (options ++ " " ++ key.canonical).toList =
      options.toList ++ ' ' :: (key.canonical.toList ++ []) := by
  obtain ⟨c, rest, hbare, hfirst, -, hlast⟩ := exists_first_of_bare hoptions key
  have hline : (options ++ " " ++ key.canonical).toList = c :: rest := by
    rw [← hbare]
    simp
  rw [hline, List.append_nil, hbare, Text.trim, Text.trimLeft_cons_of_not_blank _ hfirst, hlast]

/-- What holds of a line that begins with options: it is not empty and no comment of a file. -/
lemma first_of_trimmed (hoptions : IsOptions options.toList) {key : PublicKey}
    {line tail : List Char}
    (hline : Text.trim line = options.toList ++ ' ' :: (key.canonical.toList ++ tail)) :
    Text.trim line ≠ [] ∧ ∀ rest, Text.trim line ≠ '#' :: rest := by
  obtain ⟨c, rest, hbare, -, hhash, -⟩ := exists_first_of_bare hoptions key
  have hfirst : Text.trim line = c :: (rest ++ tail) := by
    rw [hline, ← List.cons_append, ← List.append_assoc, hbare, List.cons_append]
  rw [hfirst]
  constructor
  · exact List.cons_ne_nil _ _
  · intro rest' heq
    exact hhash (List.cons.inj heq).1

/-- Without a comment the key is not read, whatever the options are. -/
lemma parseChars_bare (hoptions : IsOptions options.toList) (hspace : ' ' ∉ options.toList)
    (key : PublicKey) : parseChars (options ++ " " ++ key.canonical).toList =
      .error (.invalidKey malformedDetail) := by
  have hline := trim_bare hoptions key
  apply parseChars_eq_malformed (first_of_trimmed hoptions hline).1
  intro key' hkey'
  exact ((parseChars_afterOptions_iff hspace (.inl rfl) hline).mp hkey').2.2 rfl

/-- Options without a space, a key and a comment read as that key exactly when the comment leaves
something. -/
lemma parseChars_commented_iff (hoptions : IsOptions options.toList)
    (hspace : ' ' ∉ options.toList) {key key' : PublicKey} {comment : String} :
    parseChars (options ++ " " ++ key.canonical ++ " " ++ comment).toList = .ok key' ↔
      key' = key ∧ IsReadAround options comment := by
  rw [parseChars_afterOptions_iff hspace (commentTail_cases comment)
    (trim_commented hoptions key comment), commentTail_ne_nil_iff]
  apply and_congr_right
  intro _
  constructor
  · rintro ⟨hknown, hcommented⟩
    exact ⟨hknown, hcommented⟩
  · rintro ⟨hknown, hcommented⟩
    exact ⟨hknown, hcommented⟩

/-- **When options hide a key.**  Well-formed options without spaces in front of a key that no
comment follows always hide it.  With a comment the key is read, and contributed to a file, if and
only if the comment is not blank and the options hold only characters that the reader knows; else
the line is refused as malformed. -/
theorem parse_afterOptions_iff (hoptions : IsOptions options.toList)
    (hspace : ' ' ∉ options.toList) (key : PublicKey) (comment : String) :
    let bare := options ++ " " ++ key.canonical
    let line := bare ++ " " ++ comment
    (parse bare = .error (.invalidKey malformedDetail) ∧ ofFileLine? bare.toList = none) ∧
      (parse line = .ok key ↔ IsReadAround options comment) ∧
      (ofFileLine? line.toList = some key ↔ IsReadAround options comment) ∧
      (¬ IsReadAround options comment →
        parse line = .error (.invalidKey malformedDetail) ∧ ofFileLine? line.toList = none) := by
  intro bare line
  have hbare : parse bare = .error (.invalidKey malformedDetail) :=
    parseChars_bare hoptions hspace key
  have hread : ∀ key', parse line = .ok key' ↔ key' = key ∧ IsReadAround options comment :=
    fun key' => parseChars_commented_iff hoptions hspace
  have hbareLine := trim_bare hoptions key
  have hline := trim_commented hoptions key comment
  have hbareFile : ofFileLine? bare.toList = (parse bare).toOption :=
    ofFileLine?_eq (first_of_trimmed hoptions hbareLine).2
  have hfile : ofFileLine? line.toList = (parse line).toOption :=
    ofFileLine?_eq (first_of_trimmed hoptions hline).2
  have hiff : parse line = .ok key ↔ IsReadAround options comment := by
    rw [hread]
    exact and_iff_right rfl
  refine ⟨⟨hbare, ?_⟩, hiff, ?_, ?_⟩
  · rw [hbareFile, hbare]
    rfl
  · rw [hfile, ← hiff]
    cases parse line <;> simp [Except.toOption]
  · intro hnot
    have hrefused : parse line = .error (.invalidKey malformedDetail) := by
      apply parseChars_eq_malformed (first_of_trimmed hoptions hline).1
      intro key' hkey'
      exact hnot ((hread key').mp hkey').2
    rw [hfile, hrefused]
    exact ⟨rfl, rfl⟩

end line

/-- The options of a key that may be used for one command only. -/
def exampleOptions : String :=
  "no-pty,command=\"/bin/true\""

/-- The example options are options. -/
lemma isOptions_exampleOptions : IsOptions exampleOptions.toList := by
  have htext : exampleOptions.toList = "no-pty".toList ++
      ',' :: ("command".toList ++ '=' :: '"' :: ("/bin/true".toList ++ ['"'])) := by decide +kernel
  rw [htext]
  exact .more (.flag (by decide) (by decide)) (.last (.valued (by decide) (by decide) (by decide)))

/-- The key after these options is read when a comment of two words follows. -/
theorem parse_afterOptions_iff_command :
    IsOptions exampleOptions.toList ∧ ' ' ∉ exampleOptions.toList ∧
      parse (exampleOptions ++ " " ++ exampleRsa.canonical ++ " " ++ "deploy key") =
        .ok exampleRsa := by
  have hspace : ' ' ∉ exampleOptions.toList := by decide
  refine ⟨isOptions_exampleOptions, hspace, ?_⟩
  have hiff := (parse_afterOptions_iff isOptions_exampleOptions hspace exampleRsa "deploy key").2.1
  exact hiff.mpr ⟨by decide, 'd', by decide, by decide⟩

/-- The same options and key without a comment are refused, and contribute nothing to a file. -/
theorem bareOptions_refused :
    let line := exampleOptions ++ " " ++ exampleRsa.canonical
    IsOptions exampleOptions.toList ∧ ' ' ∉ exampleOptions.toList ∧
      parse line = .error (.invalidKey malformedDetail) ∧ ofFileLine? line.toList = none := by
  intro line
  have hspace : ' ' ∉ exampleOptions.toList := by decide
  have hrefused : parseChars line.toList = .error (.invalidKey malformedDetail) :=
    parseChars_bare isOptions_exampleOptions hspace exampleRsa
  refine ⟨isOptions_exampleOptions, hspace, hrefused, ?_⟩
  have hfirst := first_of_trimmed isOptions_exampleOptions
    (trim_bare isOptions_exampleOptions exampleRsa)
  rw [ofFileLine?_eq hfirst.2, hrefused]
  rfl

end KeyDirectory.Key
