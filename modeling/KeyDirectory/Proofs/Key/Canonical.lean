import KeyDirectory.Proofs.Key.Line

/-!
# The canonical text of a key

A key is served as one text, which is made of the key alone.  It is read back as that key, whatever
comment follows, and two lines hold the same key when their key parts differ at most in calling an
RSA key by the name of one of its signatures.

* `parse_canonical`, `parse_canonical_comment`: the canonical text is read back, with any comment.
* `canonical_injective`: a key has no canonical text of another key.
* `canonical_normalises`: the canonical text of what a line holds.
-/

namespace KeyDirectory.Key

open Material (IsWire isPlainChar plainLabelled)

/-! ## Characters -/

/-- Plain characters are no blanks. -/
lemma isBlank_of_isPlainChar {c : Char} (h : isPlainChar c = true) : Text.isBlank c = false := by
  have hc := Material.toNat_of_isPlainChar h
  simp only [Text.isBlank, Bool.or_eq_false_iff, Bool.and_eq_false_iff, decide_eq_false_iff_not]
  omega

/-- A canonical text is a label, a space and the base64 form of the wire bytes. -/
lemma canonical_toList (key : PublicKey) :
    key.canonical.toList = key.algorithm.toList ++ ' ' :: Text.Base64.encode key.wire := by
  simp [PublicKey.canonical]

/-- A canonical text is made of plain characters and one space. -/
lemma mem_canonical {key : PublicKey} {c : Char} (h : c ∈ key.canonical.toList) :
    c = ' ' ∨ isPlainChar c = true := by
  rw [canonical_toList, List.mem_append, List.mem_cons] at h
  rcases h with h | h | h
  · exact .inr (List.all_eq_true.mp (isLabel_algorithm key).plain c h)
  · exact .inl h
  · exact .inr (List.all_eq_true.mp (encode_plain key.wire) c h)

/-- It is one line. -/
lemma newline_not_mem_canonical (key : PublicKey) : '\n' ∉ key.canonical.toList := by
  intro h
  rcases mem_canonical h with h | h
  · exact absurd h (by decide)
  · exact absurd h (by decide)

/-- It has one space. -/
lemma count_space_canonical (key : PublicKey) : key.canonical.toList.count ' ' = 1 := by
  have hname : key.algorithm.toList.count ' ' = 0 :=
    List.count_eq_zero.mpr (space_not_mem (isLabel_algorithm key).plain)
  have hdigits : (Text.Base64.encode key.wire).count ' ' = 0 :=
    List.count_eq_zero.mpr (space_not_mem (encode_plain key.wire))
  rw [canonical_toList, List.count_append, List.count_cons_self, hname, hdigits]

/-! ## Reading a key text -/

/-- A key text begins with a plain character. -/
lemma exists_first_of_algorithm (key : PublicKey) :
    ∃ c name, key.algorithm.toList = c :: name ∧ isPlainChar c = true := by
  have hlabel := isLabel_algorithm key
  cases halgorithm : key.algorithm.toList with
  | nil => rcases hlabel.marked with h | h <;> simp [halgorithm] at h
  | cons c name =>
      refine ⟨c, name, rfl, List.all_eq_true.mp hlabel.plain c ?_⟩
      rw [halgorithm]
      exact List.mem_cons_self

/-- A key text ends with no blank. -/
lemma trimRight_keyText {wire : List UInt8} {m : Material} (h : IsWire wire m)
    (name : List Char) : Text.trimRight (name ++ ' ' :: Text.Base64.encode wire) =
      name ++ ' ' :: Text.Base64.encode wire := by
  have hdigits : Text.trimRight (Text.Base64.encode wire) = Text.Base64.encode wire :=
    Text.trimRight_eq_self fun c hc =>
      isBlank_of_isPlainChar (List.all_eq_true.mp (encode_plain wire) c hc)
  have hsplit : name ++ ' ' :: Text.Base64.encode wire =
      (name ++ [' ']) ++ Text.Base64.encode wire := by simp
  rw [hsplit, Text.trimRight_append, hdigits, if_neg (IsWire.encode_ne_nil h)]

/-- It has no blanks around it. -/
lemma trim_canonical (key : PublicKey) :
    Text.trim key.canonical.toList = key.canonical.toList := by
  obtain ⟨c, name, hname, hplain⟩ := exists_first_of_algorithm key
  have hlast := trimRight_keyText (Material.isWire_wire key.isWellFormed) (c :: name)
  rw [canonical_toList, hname, List.cons_append, Text.trim,
    Text.trimLeft_cons_of_not_blank _ (isBlank_of_isPlainChar hplain)]
  exact hlast

/-- A canonical text reads as its key. -/
theorem parse_canonical (key : PublicKey) : parse key.canonical = .ok key := by
  have hwire := Material.isWire_wire key.isWellFormed
  have htext : IsKeyText (Text.trim key.canonical.toList) key.algorithm key.wire := by
    rw [trim_canonical, canonical_toList]
    exact ⟨[], by rw [List.append_nil], .inl rfl⟩
  exact (parseChars_of_isKeyText hwire htext).1

/-- So it does with any comment after it. -/
theorem parse_canonical_comment (key : PublicKey) (comment : String) :
    parse (key.canonical ++ " " ++ comment) = .ok key := by
  have hwire := Material.isWire_wire key.isWellFormed
  obtain ⟨c, name, hname, hplain⟩ := exists_first_of_algorithm key
  obtain ⟨tail, htrim, htail⟩ := Text.trim_append_space (isBlank_of_isPlainChar hplain)
    (trimRight_keyText hwire (c :: name)) comment.toList
  have htext : IsKeyText (Text.trim (key.canonical ++ " " ++ comment).toList) key.algorithm
      key.wire := by
    refine ⟨tail, ?_, htail⟩
    rw [String.toList_append, String.toList_append, canonical_toList, hname]
    simpa [PublicKey.wire] using htrim
  exact (parseChars_of_isKeyText hwire htext).1

/-- A key has no canonical text of another key. -/
theorem canonical_injective {key key' : PublicKey} (h : key.canonical = key'.canonical) :
    key = key' := by
  have hparse := parse_canonical key
  rw [h, parse_canonical] at hparse
  exact (Except.ok.inj hparse).symm

/-- Keys are told apart by their wire bytes. -/
lemma eq_iff_wire_eq {key key' : PublicKey} : key = key' ↔ key.wire = key'.wire := by
  constructor
  · rintro rfl
    rfl
  · intro h
    have hmaterial := Material.wire_injective key.isWellFormed key'.isWellFormed h
    cases key
    cases key'
    subst hmaterial
    rfl

/-! ## An RSA key under two names -/

/-- An RSA key of 1024 bits. -/
def exampleRsa : PublicKey where
  material := .rsa [0x03]
    [0x00, 0xCD, 0x78, 0xC3, 0x81, 0x83, 0x12, 0x28, 0x5F, 0x20, 0x95, 0xE0, 0x02, 0x35, 0xFC, 0xA3,
      0xBE, 0xC3, 0xAA, 0x87, 0xDF, 0xAD, 0x8C, 0x74, 0x08, 0x26, 0x4F, 0xDA, 0x67, 0xF6, 0xA0,
      0x64, 0xBF, 0x42, 0x94, 0xAF, 0x4A, 0xED, 0x78, 0xEC, 0x7D, 0x5C, 0xAE, 0x0C, 0x5D, 0xF7,
      0x2D, 0x78, 0xF7, 0xB1, 0x66, 0xE9, 0x4B, 0x43, 0xCB, 0x65, 0xC1, 0x9E, 0x41, 0xB0, 0x3C,
      0x0E, 0xB9, 0x38, 0xBD, 0x76, 0x90, 0x81, 0x2F, 0x18, 0xAF, 0x4C, 0x45, 0xCE, 0x5B, 0xFB,
      0xA7, 0x75, 0xB7, 0x17, 0x03, 0x27, 0x7F, 0x3F, 0xFE, 0xD2, 0xE6, 0x38, 0x26, 0x93, 0x8F,
      0x56, 0x6F, 0x28, 0x25, 0x4E, 0x0B, 0x5A, 0x52, 0x1B, 0x0C, 0x29, 0xBA, 0xB2, 0x7F, 0x56,
      0x1A, 0x9A, 0xAE, 0x8B, 0x10, 0xF2, 0x73, 0x85, 0x92, 0x07, 0x73, 0x32, 0x68, 0x90, 0x44,
      0xC1, 0x50, 0x46, 0x05, 0x06, 0xCB, 0x61, 0x78]
  isWellFormed := by decide +kernel

/-- The wire form of the key that begins with the given name. -/
def exampleWire (label : String) : List UInt8 :=
  (Text.Utf8.encodeText label :: exampleRsa.material.body).flatMap Material.writeField

/-- A line with the wire form that names the algorithm. -/
def exampleLine : String :=
  "ssh-rsa AAAAB3NzaC1yc2EAAAABAwAAAIEAzXjDgYMSKF8gleACNfyjvsOqh9+tjHQIJk/aZ/agZL9ClK9K7Xjs" ++
    "fVyuDF33LXj3sWbpS0PLZcGeQbA8Drk4vXaQgS8Yr0xFzlv7p3W3FwMnfz/+0uY4JpOPVm8oJU4LWlIb" ++
    "DCm6sn9WGpquixDyc4WSB3MyaJBEwVBGBQbLYXg="

/-- A line with the wire form that names a signature. -/
def exampleSignatureLine : String :=
  "ssh-rsa AAAADHJzYS1zaGEyLTI1NgAAAAEDAAAAgQDNeMOBgxIoXyCV4AI1/KO+w6qH362MdAgmT9pn9qBkv0KU" ++
    "r0rteOx9XK4MXfctePexZulLQ8tlwZ5BsDwOuTi9dpCBLxivTEXOW/undbcXAyd/P/7S5jgmk49Wbygl" ++
    "TgtaUhsMKbqyf1Yamq6LEPJzhZIHczJokETBUEYFBstheA=="

/-- The example line is a key with its own label. -/
lemma isKeyText_exampleLine :
    IsKeyText (Text.trim exampleLine.toList) "ssh-rsa" (exampleWire "ssh-rsa") := by
  refine ⟨[], ?_, .inl rfl⟩
  simp only [exampleWire, Text.Utf8.encodeText_eq]
  decide +kernel

/-- The other example line has the label of a signature algorithm in its wire bytes. -/
lemma isKeyText_exampleSignatureLine :
    IsKeyText (Text.trim exampleSignatureLine.toList) "ssh-rsa" (exampleWire "rsa-sha2-256") := by
  refine ⟨[], ?_, .inl rfl⟩
  simp only [exampleWire, Text.Utf8.encodeText_eq]
  decide +kernel

/-- Both are wire forms of one key. -/
lemma isWire_exampleWire {label : String} (h : label ∈ ["ssh-rsa", "rsa-sha2-256"]) :
    IsWire (exampleWire label) exampleRsa.material := by
  refine ⟨exampleRsa.isWellFormed, label, ?_, rfl⟩
  exact List.mem_append_left ["rsa-sha2-512"] h

/-! ## What a line holds -/

/-- **The canonical text is a normal form.**  A line that is read has one key part.  The canonical
text of its key is the name of the algorithm, one space and the base64 form of the wire bytes of
the key part, where an RSA key that goes by the name of a signature there has the name of the
algorithm.  It holds no other blank, no control character and no number sign, and is read back as
the same key, also with a comment.  Lines hold the same key when their wire bytes are the same with
these names replaced, and only such keys have the same canonical text. -/
theorem canonical_normalises {line : String} {key : PublicKey} (h : parse line = .ok key) :
    ∃ wire, CarriesKey line.toList key.algorithm wire ∧
      (∀ algorithm' wire', CarriesKey line.toList algorithm' wire' →
        algorithm' = key.algorithm ∧ wire' = wire) ∧
      key.canonical = key.algorithm ++ " " ++
        String.ofList (Text.Base64.encode (plainLabelled wire)) ∧
      key.canonical.toList.count ' ' = 1 ∧
      (∀ c ∈ key.canonical.toList, c ≠ ' ' →
        Text.isBlank c = false ∧ 0x20 < c.toNat ∧ c.toNat < 0x7F ∧ c ≠ '#') ∧
      parse key.canonical = .ok key ∧
      (∀ comment, parse (key.canonical ++ " " ++ comment) = .ok key) ∧
      ∀ line' key' wire', parse line' = .ok key' →
        CarriesKey line'.toList key'.algorithm wire' →
          (key = key' ↔ plainLabelled wire = plainLabelled wire') ∧
            (key.canonical = key'.canonical ↔ plainLabelled wire = plainLabelled wire') := by
  obtain ⟨wire, hwire, hcarries⟩ := carriesKey_of_parseChars h
  refine ⟨wire, hcarries, ?_, ?_, count_space_canonical key, ?_, parse_canonical key,
    parse_canonical_comment key, ?_⟩
  · intro algorithm' wire' hcarries'
    exact carriesKey_unique hcarries' hcarries
  · rw [Material.plainLabelled_eq hwire]
    rfl
  · intro c hc hspace
    have hplain := (mem_canonical hc).resolve_left hspace
    have hrange := Material.toNat_of_isPlainChar hplain
    refine ⟨isBlank_of_isPlainChar hplain, by omega, by omega, ?_⟩
    rintro rfl
    exact absurd hrange.1 (by decide)
  · intro line' key' wire' h' hcarries'
    obtain ⟨wire'', hwire', hcarries''⟩ := carriesKey_of_parseChars h'
    obtain ⟨-, rfl⟩ := carriesKey_unique hcarries' hcarries''
    have heq : key = key' ↔ plainLabelled wire = plainLabelled wire' := by
      rw [Material.plainLabelled_eq hwire, Material.plainLabelled_eq hwire']
      exact eq_iff_wire_eq
    have htext : key.canonical = key'.canonical ↔ key = key' := by
      constructor
      · exact canonical_injective
      · rintro rfl
        rfl
    exact ⟨heq, htext.trans heq⟩

/-- The line that names a signature, put into canonical text. -/
theorem canonical_normalises_signatureLine :
    parse exampleSignatureLine = .ok exampleRsa ∧
      ∃ wire, CarriesKey exampleSignatureLine.toList "ssh-rsa" wire ∧
        exampleRsa.canonical =
          "ssh-rsa" ++ " " ++ String.ofList (Text.Base64.encode (plainLabelled wire)) := by
  have hparse : parse exampleSignatureLine = .ok exampleRsa :=
    (parseChars_of_isKeyText (isWire_exampleWire (by decide)) isKeyText_exampleSignatureLine).1
  obtain ⟨wire, hcarries, -, hcanonical, -⟩ := canonical_normalises hparse
  exact ⟨hparse, wire, hcarries, hcanonical⟩

/-- The same key is read from two lines with different wire bytes. -/
theorem parse_signatureLine_same_key :
    parse exampleLine = .ok exampleRsa ∧ parse exampleSignatureLine = .ok exampleRsa ∧
      CarriesKey exampleLine.toList "ssh-rsa" (exampleWire "ssh-rsa") ∧
      CarriesKey exampleSignatureLine.toList "ssh-rsa" (exampleWire "rsa-sha2-256") ∧
      exampleWire "ssh-rsa" ≠ exampleWire "rsa-sha2-256" := by
  have hplain : parse exampleLine = .ok exampleRsa ∧
      CarriesKey exampleLine.toList "ssh-rsa" (exampleWire "ssh-rsa") :=
    parseChars_of_isKeyText (isWire_exampleWire (by decide)) isKeyText_exampleLine
  have hsignature : parse exampleSignatureLine = .ok exampleRsa ∧
      CarriesKey exampleSignatureLine.toList "ssh-rsa" (exampleWire "rsa-sha2-256") :=
    parseChars_of_isKeyText (isWire_exampleWire (by decide)) isKeyText_exampleSignatureLine
  refine ⟨hplain.1, hsignature.1, hplain.2, hsignature.2, ?_⟩
  simp only [exampleWire, Text.Utf8.encodeText_eq]
  decide +kernel

end KeyDirectory.Key
