import KeyDirectory.Key.FileLine
import KeyDirectory.Proofs.Key.Canonical
import KeyDirectory.Proofs.Text.Lossy

/-!
# A file is read line by line

The lossy reading of a file goes by lines, since a line ends with an ASCII byte, and a line is worth
what it is worth as a file of its own.  Noise is worth nothing.

* `ofFileLine?_comment`, `ofFileLine?_canonical`, `ofFileLine?_eq`: what the reader takes from a
  line.
* `contributes_iff`, `isNoise_iff`: what one line is worth.
* `parseFile_of_line`, `parseFile_append`, `parseFile_fileOf`: the keys of a line, of two parts of a
  file, and of all lines.
* `parseFile_concat_carriageReturn`: the other line ends.
* `DifferInNoise.parseFile_eq`: noise does not matter.
* `parseFile_lineByLine`: the result.
-/

namespace KeyDirectory.Key

open Text.Utf8 (decodeLossy)

variable {line : List UInt8} {key : PublicKey}

/-! ## One line -/

/-- Blanks around a line make no difference. -/
lemma parseChars_trim (s : List Char) : parseChars (Text.trim s) = parseChars s := by
  unfold parseChars
  rw [Text.trim_trim]

/-- A line that reads as a key is not blank. -/
lemma trim_ne_nil_of_parseChars {s : List Char} (h : parseChars s = .ok key) :
    Text.trim s ≠ [] := by
  intro hnil
  rw [parseChars, if_pos (by rw [hnil]; rfl)] at h
  cases h

/-- A comment line gives no key. -/
lemma ofFileLine?_comment (s : List Char) : ofFileLine? ('#' :: s) = none := by
  have hleft : Text.trimLeft ('#' :: s) = '#' :: s :=
    Text.trimLeft_cons_of_not_blank s (by decide)
  have htrim : ∃ t, Text.trim ('#' :: s) = '#' :: t := by
    rw [Text.trim, hleft, ← List.singleton_append, Text.trimRight_append]
    split_ifs
    · exact ⟨[], by decide⟩
    · exact ⟨_, rfl⟩
  obtain ⟨t, ht⟩ := htrim
  simp only [ofFileLine?, ht]

/-- A line of a file that is no comment contributes what is read from it. -/
lemma ofFileLine?_eq {line : List Char} (h : ∀ rest, Text.trim line ≠ '#' :: rest) :
    ofFileLine? line = (parseChars line).toOption := by
  unfold ofFileLine?
  simp only
  split
  case h_1 hnil =>
    unfold parseChars
    rw [if_pos (by rw [hnil]; rfl)]
    rfl
  case h_2 rest hcomment => exact absurd hcomment (h rest)
  case h_3 => rw [parseChars_trim]

/-- The canonical text of a key is a line of a file that gives this key. -/
lemma ofFileLine?_canonical (key : PublicKey) : ofFileLine? key.canonical.toList = some key := by
  have hcomment : ∀ rest, Text.trim key.canonical.toList ≠ '#' :: rest := by
    intro rest hrest
    rw [trim_canonical] at hrest
    have hmem : '#' ∈ key.canonical.toList := by rw [hrest]; exact List.mem_cons_self
    rcases mem_canonical hmem with h | h
    · exact absurd h (by decide)
    · exact absurd h (by decide)
  have hparse : parseChars key.canonical.toList = .ok key := parse_canonical key
  rw [ofFileLine?_eq hcomment, hparse]
  rfl

/-- A line of a file gives the key that it reads as, unless it is a comment. -/
lemma ofFileLine?_eq_some_iff {s : List Char} : ofFileLine? s = some key ↔
    (∀ rest, Text.trim s ≠ '#' :: rest) ∧ parseChars s = .ok key := by
  by_cases hcomment : ∃ rest, Text.trim s = '#' :: rest
  · obtain ⟨rest, hrest⟩ := hcomment
    have hnone : ofFileLine? s = none := by simp only [ofFileLine?, hrest]
    rw [hnone]
    exact ⟨nofun, fun h => absurd hrest (h.1 rest)⟩
  · rw [ofFileLine?_eq (not_exists.mp hcomment), and_iff_right (not_exists.mp hcomment)]
    cases parseChars s <;> simp [Except.toOption]

/-- A line contributes the key that the reader of files takes from it. -/
lemma contributes_iff : Contributes line key ↔ ofFileLine? (decodeLossy line) = some key := by
  have htext : (lineText line).toList = Text.trim (decodeLossy line) := String.toList_ofList
  have hparse : parse (lineText line) = parseChars (decodeLossy line) := by
    rw [parse, htext, parseChars_trim]
  rw [ofFileLine?_eq_some_iff, ← hparse, ← htext]
  constructor
  · rintro ⟨-, hcomment, hparsed⟩
    refine ⟨fun rest hrest => ?_, hparsed⟩
    exact hcomment (String.ofList rest) (String.toList_inj.mp (by simpa using hrest))
  · rintro ⟨hcomment, hparsed⟩
    refine ⟨?_, fun rest hrest => hcomment rest.toList (by simp [hrest]), hparsed⟩
    intro hblank
    rw [hparse] at hparsed
    exact trim_ne_nil_of_parseChars hparsed (htext ▸ by rw [hblank]; rfl)

/-- Noise is what contributes no key. -/
lemma isNoise_iff : IsNoise line ↔ ∀ key, ¬ Contributes line key := by
  constructor
  · rintro (hblank | ⟨rest, hcomment⟩ | ⟨failure, hfailure⟩) key h
    · exact h.notBlank hblank
    · exact h.notComment rest hcomment
    · cases hfailure.symm.trans h.parsed
  · intro h
    by_cases hblank : lineText line = ""
    · exact .blank hblank
    by_cases hcomment : ∃ rest, lineText line = "#" ++ rest
    · obtain ⟨rest, hrest⟩ := hcomment
      exact .comment rest hrest
    cases hparse : parse (lineText line) with
    | error failure => exact .unparseable failure hparse
    | ok key => exact absurd ⟨hblank, not_exists.mp hcomment, hparse⟩ (h key)

/-! ## Files -/

/-- A file of one line gives what the line gives. -/
lemma parseFile_of_line (hline : newline ∉ line) :
    parseFile line = (ofFileLine? (decodeLossy line)).toList := by
  have hchar : '\n' ∉ decodeLossy line := by
    intro hmem
    exact hline (Text.Utf8.mem_of_mem_decodeLossy hmem (by decide) (by decide))
  rw [parseFile, Text.pieces_of_not_mem hchar]
  cases h : ofFileLine? (decodeLossy line) <;> simp [h]

/-- The end of a line divides the keys before it from those after it. -/
lemma parseFile_append (a b : List UInt8) :
    parseFile (a ++ newline :: b) = parseFile a ++ parseFile b := by
  have hend : Char.ofNat newline.toNat = '\n' := by decide
  rw [parseFile, Text.Utf8.decodeLossy_append_cons a (by decide), hend, Text.pieces_append,
    List.filterMap_append]
  rfl

/-- A carriage return at the end of a line is a blank like any other. -/
lemma parseFile_concat_carriageReturn (a : List UInt8) :
    parseFile (a ++ [carriageReturn]) = parseFile a := by
  have hreturn : decodeLossy (a ++ [carriageReturn]) = decodeLossy a ++ ['\r'] :=
    Text.Utf8.decodeLossy_append_cons a (by decide) []
  obtain ⟨lines, last, hlines, hmore⟩ :=
    Text.pieces_concat (by decide : '\r' ≠ '\n') (decodeLossy a)
  have hlast : ofFileLine? (last ++ ['\r']) = ofFileLine? last := by
    unfold ofFileLine?
    rw [Text.trim_concat (by decide)]
  rw [parseFile, parseFile, hreturn, hmore, hlines, List.filterMap_append, List.filterMap_append,
    List.filterMap_cons, List.filterMap_cons, hlast]

/-- The keys of a file are those of its lines. -/
lemma parseFile_fileOf (lines : List (List UInt8)) :
    parseFile (fileOf lines) = lines.flatMap parseFile := by
  induction lines with
  | nil => rfl
  | cons line lines ih =>
    cases lines with
    | nil => simp [fileOf]
    | cons next lines =>
      have hcut : fileOf (line :: next :: lines) = line ++ newline :: fileOf (next :: lines) := by
        simp [fileOf, List.intercalate]
      rw [hcut, parseFile_append, ih, ← List.flatMap_cons]

/-- A line that contributes a key is a file of one key. -/
lemma parseFile_eq_singleton (hline : newline ∉ line) (h : Contributes line key) :
    parseFile line = [key] := by
  rw [parseFile_of_line hline, contributes_iff.mp h, Option.toList_some]

/-- A line is noise if, as a file, it gives no key. -/
lemma parseFile_eq_nil_iff (hline : newline ∉ line) : parseFile line = [] ↔ IsNoise line := by
  rw [parseFile_of_line hline, isNoise_iff, Option.toList_eq_nil_iff,
    Option.eq_none_iff_forall_ne_some]
  simp only [contributes_iff, ne_eq]

/-- Noise does not matter. -/
lemma DifferInNoise.parseFile_eq {lines lines' : List (List UInt8)}
    (h : DifferInNoise lines lines') : parseFile (fileOf lines) = parseFile (fileOf lines') := by
  rw [parseFile_fileOf, parseFile_fileOf]
  induction h with
  | nil => rfl
  | line line h ih => rw [List.flatMap_cons, List.flatMap_cons, ih]
  | inserted hline hnoise h ih =>
    rw [List.flatMap_cons, (parseFile_eq_nil_iff hline).mpr hnoise, List.nil_append, ih]
  | removed hline hnoise h ih =>
    rw [List.flatMap_cons, (parseFile_eq_nil_iff hline).mpr hnoise, List.nil_append, ih]

/-- A text without line ends has none in its bytes. -/
lemma newline_not_mem_encodeText {s : String} (h : '\n' ∉ s.toList) :
    newline ∉ Text.Utf8.encodeText s := by
  rw [Text.Utf8.encodeText_eq]
  intro hmem
  obtain ⟨before, after, hsplit⟩ := List.append_of_mem hmem
  have hread := Text.Utf8.decodeLossy_append_cons before (by decide : newline.toNat < 0x80) after
  rw [← hsplit, Text.Utf8.decodeLossy_encode] at hread
  rw [hread] at h
  exact h (List.mem_append_right _ List.mem_cons_self)

/-- The bytes of a canonical text contribute its key. -/
lemma contributes_canonical (key : PublicKey) :
    Contributes (Text.Utf8.encodeText key.canonical) key := by
  rw [contributes_iff, Text.Utf8.encodeText_eq, Text.Utf8.decodeLossy_encode]
  exact ofFileLine?_canonical key

/-! ## The result -/

/-- **A file is read line by line.**  The keys of two parts of a file with a line end between them,
of either kind, are those of the first part and then those of the second, whatever the bytes.  A
line holds one key if its text is not blank, does not begin with a number sign and parses, and
else it is noise and holds none.  The keys of the lines before and after a line do not depend on
that line, and noise can be inserted anywhere, removed, or changed into other noise without a change
of the keys. -/
theorem parseFile_lineByLine (a b : List UInt8) :
    parseFile (a ++ newline :: b) = parseFile a ++ parseFile b ∧
      parseFile (a ++ carriageReturn :: newline :: b) = parseFile a ++ parseFile b ∧
      (newline ∉ a →
        (∀ key, Contributes a key → parseFile a = [key]) ∧
          ((∀ key, ¬ Contributes a key) → parseFile a = []) ∧ (parseFile a = [] ↔ IsNoise a)) ∧
      (∀ before line after, parseFile (fileOf (before ++ line :: after)) =
        parseFile (fileOf before) ++ parseFile line ++ parseFile (fileOf after)) ∧
      ∀ lines lines', DifferInNoise lines lines' →
        parseFile (fileOf lines) = parseFile (fileOf lines') := by
  refine ⟨parseFile_append a b, ?_, ?_, ?_, fun _ _ h => h.parseFile_eq⟩
  · have hcut : a ++ carriageReturn :: newline :: b =
        (a ++ [carriageReturn]) ++ newline :: b := by simp
    rw [hcut, parseFile_append, parseFile_concat_carriageReturn]
  · intro hline
    refine ⟨fun key => parseFile_eq_singleton hline, ?_, parseFile_eq_nil_iff hline⟩
    intro hnone
    exact (parseFile_eq_nil_iff hline).mpr (isNoise_iff.mpr hnone)
  · intro before line after
    simp [parseFile_fileOf]

/-- An Ed25519 key. -/
def exampleEd25519 : PublicKey where
  material := .ed25519 (List.replicate 32 0x2A)
  isWellFormed := by decide

/-- A character cut short in the line before a key does not hide the key, nor does a comment after
it that is cut short. -/
theorem parseFile_lineByLine_cutShort :
    let line := Text.Utf8.encodeText exampleEd25519.canonical
    let cutShort : List UInt8 := [0xE2, 0x82]
    let comment : List UInt8 := [0x23, 0x20, 0xE2]
    newline ∉ line ∧ Contributes line exampleEd25519 ∧ parseFile line = [exampleEd25519] ∧
      DifferInNoise [cutShort, line] [line, comment] ∧
      parseFile (fileOf [cutShort, line]) = parseFile (fileOf [line, comment]) := by
  intro line cutShort comment
  have hline : newline ∉ line :=
    newline_not_mem_encodeText (newline_not_mem_canonical exampleEd25519)
  have hkey : Contributes line exampleEd25519 := contributes_canonical exampleEd25519
  have hcutShort : IsNoise cutShort := .unparseable (.invalidKey malformedDetail) (by decide)
  have hcomment : IsNoise comment := .comment " \uFFFD" (by decide)
  have hdiffer : DifferInNoise [cutShort, line] [line, comment] :=
    .removed (by decide) hcutShort (.line line (.inserted (by decide) hcomment .nil))
  obtain ⟨-, -, hone, -, hnoise⟩ := parseFile_lineByLine line []
  exact ⟨hline, hkey, (hone hline).1 _ hkey, hdiffer, hnoise _ _ hdiffer⟩

end KeyDirectory.Key
