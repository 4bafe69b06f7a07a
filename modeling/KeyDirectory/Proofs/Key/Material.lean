import KeyDirectory.Key.KeyPart
import KeyDirectory.Proofs.Text.Utf8
import Mathlib.Tactic.Lemma
import Mathlib.Tactic.SplitIfs

/-!
# Key material is read as it is written

* `readField?_eq_some_iff`, `readFields?_eq_some_iff`: the fields of a wire form.
* `ofBody?_eq_some_iff`: which material a label and fields stand for.
* `ofWire?_eq_some_iff`: the reader takes the wire forms of well-formed material and nothing else.
* `plainLabelled_eq`: the wire form that a key is served with.
-/

namespace KeyDirectory.Key.Material

open Text.Utf8 (encodeText)

/-! ## Fields -/

/-- The four bytes of a length, from the highest to the lowest. -/
lemma bigEndian32_ofNat {n : Nat} (h : n < 0x100000000) : Crypto.bigEndian32 (UInt32.ofNat n) =
    [UInt8.ofNat (n / 0x1000000), UInt8.ofNat (n / 0x10000), UInt8.ofNat (n / 0x100),
      UInt8.ofNat n] := by
  have hn : (UInt32.ofNat n).toNat = n := UInt32.toNat_ofNat_of_lt' h
  simp only [Crypto.bigEndian32, List.cons.injEq, and_true]
  refine ⟨?_, ?_, ?_, ?_⟩ <;> rw [← UInt8.toNat_inj] <;>
    simp [UInt32.toNat_shiftRight, hn, Nat.shiftRight_eq_div_pow]

/-- What is read is a field with its length in front, and what follows it. -/
lemma readField?_eq_some_iff {bytes field rest : List UInt8} :
    readField? bytes = some (field, rest) ↔
      bytes = writeField field ++ rest ∧ field.length ≤ maxFieldSize := by
  constructor
  · intro h
    match bytes, h with
    | a :: b :: c :: d :: more, h =>
      simp only [readField?, Option.ite_none_right_eq_some, Option.some.injEq, Prod.mk.injEq] at h
      obtain ⟨⟨hmax, hsize⟩, rfl, rfl⟩ := h
      have ha := a.toNat_lt
      have hb := b.toNat_lt
      have hc := c.toNat_lt
      have hd := d.toNat_lt
      rw [List.length_take, Nat.min_eq_left hsize, writeField, List.length_take,
        Nat.min_eq_left hsize, bigEndian32_ofNat (by omega),
        (UInt8.ofNat_eq_iff_mod_eq_toNat _ a).mpr (by omega),
        (UInt8.ofNat_eq_iff_mod_eq_toNat _ b).mpr (by omega),
        (UInt8.ofNat_eq_iff_mod_eq_toNat _ c).mpr (by omega),
        (UInt8.ofNat_eq_iff_mod_eq_toNat _ d).mpr (by omega), List.append_assoc,
        List.take_append_drop]
      exact ⟨rfl, hmax⟩
  · rintro ⟨rfl, hmax⟩
    have hsize : field.length < 0x100000 := Nat.lt_succ_of_le hmax
    rw [writeField, bigEndian32_ofNat (by omega)]
    have hlength : (((UInt8.ofNat (field.length / 0x1000000)).toNat * 256 +
        (UInt8.ofNat (field.length / 0x10000)).toNat) * 256 +
        (UInt8.ofNat (field.length / 0x100)).toNat) * 256 + (UInt8.ofNat field.length).toNat =
        field.length := by
      simp only [UInt8.toNat_ofNat']
      omega
    simp only [List.cons_append, List.nil_append, readField?, hlength]
    rw [if_pos ⟨hmax, by simp⟩, List.take_left, List.drop_left]

/-- A field is written with its length, so never as nothing. -/
lemma writeField_ne_nil (field : List UInt8) : writeField field ≠ [] := by
  simp [writeField, Crypto.bigEndian32]

/-- What is read is a sequence of fields, each with its length in front. -/
lemma readFields?_eq_some_iff {bytes : List UInt8} {fields : List (List UInt8)} :
    readFields? bytes = some fields ↔
      bytes = fields.flatMap writeField ∧ ∀ field ∈ fields, field.length ≤ maxFieldSize := by
  fun_induction readFields? bytes generalizing fields with
  | case1 bytes hempty =>
      rw [List.isEmpty_iff] at hempty
      cases fields with
      | nil => simp [hempty]
      | cons field fields => simp [hempty, writeField_ne_nil]
  | case2 bytes hempty hnone =>
      constructor
      · intro h
        cases h
      · rintro ⟨rfl, hmax⟩
        cases fields with
        | nil => simp at hempty
        | cons field fields =>
            rw [List.flatMap_cons,
              readField?_eq_some_iff.mpr ⟨rfl, hmax field List.mem_cons_self⟩] at hnone
            cases hnone
  | case3 bytes hempty first rest hfirst _ ih =>
      obtain ⟨rfl, hfirstMax⟩ := readField?_eq_some_iff.mp hfirst
      rw [Option.map_eq_some_iff]
      constructor
      · rintro ⟨fields, hfields, rfl⟩
        obtain ⟨rfl, hmax⟩ := ih.mp hfields
        exact ⟨rfl, List.forall_mem_cons.mpr ⟨hfirstMax, hmax⟩⟩
      · rintro ⟨hbytes, hmax⟩
        cases fields with
        | nil => simp [writeField_ne_nil] at hbytes
        | cons field fields =>
            rw [List.forall_mem_cons] at hmax
            rw [hbytes, List.flatMap_cons, readField?_eq_some_iff.mpr ⟨rfl, hmax.1⟩] at hfirst
            obtain ⟨rfl, rfl⟩ := Prod.mk.inj (Option.some.inj hfirst)
            exact ⟨fields, ih.mpr ⟨rfl, hmax.2⟩, rfl⟩

/-! ## Labels -/

/-- A curve is found under its own name only. -/
lemma curveNamed?_eq_some_iff {name : List UInt8} {curve : Curve} :
    curveNamed? name = some curve ↔ name = encodeText curve.name := by
  constructor
  · intro h
    simpa using List.find?_some h
  · rintro rfl
    rw [curveNamed?]
    simp only [Text.Utf8.encodeText_eq]
    cases curve <;> decide +kernel

/-- The plain characters stand between the plus and the small letter z. -/
lemma toNat_of_isPlainChar {c : Char} (h : isPlainChar c = true) :
    0x2B ≤ c.toNat ∧ c.toNat ≤ 0x7A := by
  simp only [isPlainChar, Bool.or_eq_true, decide_eq_true_eq, or_assoc] at h
  rcases h with h | rfl | rfl | rfl | rfl | rfl | rfl
  · unfold Char.isAlphanum Char.isAlpha Char.isUpper Char.isLower Char.isDigit at h
    simp only [Bool.or_eq_true, Bool.and_eq_true, decide_eq_true_eq, UInt32.le_iff_toNat_le,
      ge_iff_le, Char.reduceVal, UInt32.reduceToNat] at h
    have hc : c.toNat = c.val.toNat := rfl
    omega
  all_goals decide

/-- The plain characters take one byte each. -/
lemma length_encodeText_of_plain {s : String} (h : s.toList.all isPlainChar = true) :
    (encodeText s).length = s.toList.length := by
  rw [Text.Utf8.encodeText_eq]
  generalize s.toList = s at h
  induction s with
  | nil => rfl
  | cons c s ih =>
      rw [List.all_cons, Bool.and_eq_true] at h
      have hc : Char.ofNat c.toNat = c := Char.ofNat_toNat c
      have hascii : c.toNat < 0x80 := Nat.lt_of_le_of_lt (toNat_of_isPlainChar h.1).2 (by decide)
      have hone := Text.Utf8.encodeChar_one hascii
      rw [hc] at hone
      rw [Text.Utf8.encode, List.flatMap_cons, hone, List.length_append, List.length_singleton,
        List.length_cons, ← ih h.2, Nat.add_comm]
      rfl

/-- The label that keys are written with is one of those they are read with. -/
lemma label_mem_labels (m : Material) : m.label ∈ m.labels := by
  cases m <;> simp [labels, label]

/-- A label is reserved for an algorithm, or it is the name that the material itself has. -/
lemma reserved_or_domain {m : Material} {label : String} (h : m.isWellFormed = true)
    (hlabel : label ∈ m.labels) : label ∈ reservedLabels ∨ isDomainLabel label = true := by
  cases m with
  | ecdsa curve point =>
      rw [List.mem_singleton.mp hlabel, Material.label]
      cases curve <;> exact .inl (by decide)
  | named name content =>
      rw [List.mem_singleton.mp hlabel]
      simp only [isWellFormed, hasValidFields, Bool.and_eq_true] at h
      exact .inr h.1.1
  | rsa exponent modulus =>
      simp only [labels, List.mem_cons, List.not_mem_nil, or_false] at hlabel
      rcases hlabel with rfl | rfl | rfl <;> exact .inl (by decide)
  | _ =>
      rw [List.mem_singleton.mp hlabel, Material.label]
      exact .inl (by decide)

/-- Labels are short and made of plain characters, and hold one that is none of base64. -/
structure IsLabel (label : String) : Prop where
  short : label.toList.length ≤ maxLabelSize
  plain : label.toList.all isPlainChar = true
  marked : '-' ∈ label.toList ∨ '@' ∈ label.toList

/-- Labels are short enough to be read. -/
lemma IsLabel.length_encodeText {label : String} (h : IsLabel label) :
    (encodeText label).length ≤ maxLabelSize := by
  rw [length_encodeText_of_plain h.plain]
  exact h.short

/-- All labels that a well-formed key is read with are labels. -/
lemma isLabel_of_mem {m : Material} {label : String} (h : m.isWellFormed = true)
    (hlabel : label ∈ m.labels) : IsLabel label := by
  rcases reserved_or_domain h hlabel with hlabel | hlabel
  · simp only [reservedLabels, List.mem_cons, List.not_mem_nil, or_false] at hlabel
    rcases hlabel with rfl | rfl | rfl | rfl | rfl | rfl | rfl | rfl | rfl | rfl <;>
      exact ⟨by decide, by decide, by decide⟩
  · simp only [isDomainLabel, Bool.and_eq_true, decide_eq_true_eq] at hlabel
    obtain ⟨⟨⟨hshort, hplain⟩, -⟩, hcut⟩ := hlabel
    refine ⟨hshort, hplain, .inr ?_⟩
    split at hcut
    case h_1 name domain hcut' =>
      rw [(Text.cutAtFirst_eq_some_iff.mp hcut').1]
      simp
    case h_2 => simp at hcut

/-! ## Material -/

/-- What a label and the fields after it stand for has them as its own. -/
lemma labels_of_ofBody? {label : String} {body : List (List UInt8)} {m : Material}
    (h : ofBody? label body = some m) : label ∈ m.labels ∧ body = m.body := by
  unfold ofBody? at h
  split at h
  case h_1 | h_2 | h_3 | h_4 | h_5 | h_6 | h_8 =>
    obtain rfl := Option.some.inj h
    simp [labels, Material.body, Material.label]
  case h_7 =>
    obtain ⟨hcurve, h⟩ := Option.ite_none_right_eq_some.mp h
    obtain rfl := Option.some.inj h
    rw [curveNamed?_eq_some_iff.mp hcurve]
    simp [labels, Material.body, Material.label]
  case h_9 =>
    split at h
    case h_1 hcurve =>
      obtain ⟨hlabel, h⟩ := Option.ite_none_right_eq_some.mp h
      obtain rfl := Option.some.inj h
      rw [curveNamed?_eq_some_iff.mp hcurve, hlabel]
      simp [labels, Material.body, Material.label]
    case h_2 => simp at h
  case h_10 => simp at h

/-- Well-formed material is what each of its labels and its fields stand for. -/
lemma ofBody?_of_mem_labels {label : String} {m : Material} (h : m.isWellFormed = true)
    (hlabel : label ∈ m.labels) : ofBody? label m.body = some m := by
  cases m with
  | rsa exponent modulus =>
      simp only [labels, List.mem_cons, List.not_mem_nil, or_false] at hlabel
      rcases hlabel with rfl | rfl | rfl <;> rfl
  | ecdsa curve point =>
      have hcurve := curveNamed?_eq_some_iff.mpr (Eq.refl (encodeText curve.name))
      have hname : "ecdsa-sha2-" ++ curve.name ∈
          ["ecdsa-sha2-nistp256", "ecdsa-sha2-nistp384", "ecdsa-sha2-nistp521"] := by
        cases curve <;> decide
      rw [List.mem_singleton.mp hlabel]
      simp only [body, Material.label, ofBody?]
      split <;> simp_all
  | securityEcdsa point application =>
      have hcurve := curveNamed?_eq_some_iff.mpr (Eq.refl (encodeText Curve.p256.name))
      rw [List.mem_singleton.mp hlabel]
      simp only [body, Material.label, ofBody?, hcurve, if_true]
  | named name content =>
      -- A label of its own is none of those that ask for one field of a certain form.
      have hname : name ≠ "ssh-ed25519" := by
        rintro rfl
        simp [isWellFormed, hasValidFields, isDomainLabel, reservedLabels] at h
      rw [List.mem_singleton.mp hlabel]
      simp only [body, Material.label, ofBody?]
  | _ =>
      obtain rfl := List.mem_singleton.mp hlabel
      rfl

/-- The reader takes the wire forms of well-formed material and nothing else. -/
theorem ofWire?_eq_some_iff {bytes : List UInt8} {m : Material} :
    ofWire? bytes = some m ↔ IsWire bytes m := by
  simp only [ofWire?, Option.bind_eq_bind, Option.bind_eq_some_iff]
  constructor
  · rintro ⟨fields, hfields, h⟩
    cases fields with
    | nil => simp at h
    | cons first body =>
        simp only [Option.ite_none_left_eq_some, Option.bind_eq_some_iff,
          Option.ite_none_right_eq_some, Option.some.injEq] at h
        obtain ⟨-, label, hfirst, m', hm, hvalid, rfl⟩ := h
        obtain ⟨hlabel, rfl⟩ := labels_of_ofBody? hm
        rw [Text.Utf8.decodeText?_eq_some_iff] at hfirst
        rw [readFields?_eq_some_iff, hfirst] at hfields
        exact ⟨hvalid, label, hlabel, hfields.1⟩
  · rintro ⟨hvalid, label, hlabel, rfl⟩
    have hshort := (isLabel_of_mem hvalid hlabel).length_encodeText
    have hsize : ∀ field ∈ encodeText label :: m.body, field.length ≤ maxFieldSize := by
      rw [List.forall_mem_cons]
      refine ⟨Nat.le_trans hshort (by decide), ?_⟩
      simp only [isWellFormed, Bool.and_eq_true, List.all_eq_true, decide_eq_true_eq] at hvalid
      exact hvalid.1.2
    refine ⟨_, readFields?_eq_some_iff.mpr ⟨rfl, hsize⟩, ?_⟩
    simp only [Option.ite_none_left_eq_some, Option.bind_eq_some_iff,
      Option.ite_none_right_eq_some, Option.some.injEq]
    exact ⟨Nat.not_lt.mpr hshort, label, Text.Utf8.decodeText?_eq_some_iff.mpr rfl, m,
      ofBody?_of_mem_labels hvalid hlabel, hvalid, rfl⟩

/-- Material has a wire form, the one that it is written in. -/
lemma isWire_wire {m : Material} (h : m.isWellFormed = true) : IsWire m.wire m :=
  ⟨h, m.label, label_mem_labels m, rfl⟩

/-- A byte string is the wire form of one key. -/
lemma IsWire.unique {bytes : List UInt8} {m m' : Material} (h : IsWire bytes m)
    (h' : IsWire bytes m') : m = m' := by
  rw [← ofWire?_eq_some_iff] at h h'
  exact Option.some.inj (h.symm.trans h')

/-- A label that is not the name of the algorithm is the name of an RSA signature. -/
lemma eq_label_or_signature {m : Material} {label : String} (h : m.isWellFormed = true)
    (hlabel : label ∈ m.labels) :
    (label = m.label ∧ label ≠ "rsa-sha2-256" ∧ label ≠ "rsa-sha2-512") ∨
      (m.label = "ssh-rsa" ∧ (label = "rsa-sha2-256" ∨ label = "rsa-sha2-512")) := by
  cases m with
  | rsa exponent modulus =>
      simp only [labels, List.mem_cons, List.not_mem_nil, or_false] at hlabel
      rcases hlabel with rfl | hlabel
      · exact .inl ⟨rfl, by decide, by decide⟩
      · exact .inr ⟨rfl, hlabel⟩
  | ecdsa curve point =>
      rw [List.mem_singleton.mp hlabel, Material.label]
      cases curve <;> exact .inl ⟨rfl, by decide, by decide⟩
  | named name content =>
      rw [List.mem_singleton.mp hlabel, Material.label]
      refine .inl ⟨rfl, ?_⟩
      simp only [isWellFormed, hasValidFields, isDomainLabel, Bool.and_eq_true,
        Bool.not_eq_true', List.contains_eq_mem, decide_eq_false_iff_not] at h
      have hreserved := h.1.1.1.2
      constructor
      all_goals
        rintro rfl
        exact hreserved (by decide)
  | _ =>
      rw [List.mem_singleton.mp hlabel, Material.label]
      exact .inl ⟨rfl, by decide, by decide⟩

/-- A wire form differs from the one that the material is written in by its label at most. -/
lemma plainLabelled_eq {bytes : List UInt8} {m : Material} (h : IsWire bytes m) :
    plainLabelled bytes = m.wire := by
  obtain ⟨hvalid, label, hlabel, rfl⟩ := h
  have hread : readField? ((encodeText label :: m.body).flatMap writeField) =
      some (encodeText label, m.body.flatMap writeField) := by
    have hshort := (isLabel_of_mem hvalid hlabel).length_encodeText
    rw [readField?_eq_some_iff]
    exact ⟨rfl, Nat.le_trans hshort (by decide)⟩
  simp only [plainLabelled, hread]
  rcases eq_label_or_signature hvalid hlabel with ⟨rfl, hother, hother'⟩ | ⟨hrsa, hlabel⟩
  · rw [if_neg]
    · rfl
    · rintro (heq | heq)
      · exact hother (Text.Utf8.encodeText_injective heq)
      · exact hother' (Text.Utf8.encodeText_injective heq)
  · rw [if_pos (hlabel.imp (congrArg encodeText) (congrArg encodeText)), wire, hrsa,
      List.flatMap_cons]

/-- Two pieces of material are the same when they are written in the same wire form. -/
lemma wire_injective {m m' : Material} (h : m.isWellFormed = true) (h' : m'.isWellFormed = true)
    (hwire : m.wire = m'.wire) : m = m' :=
  (isWire_wire h).unique (hwire ▸ isWire_wire h')

end KeyDirectory.Key.Material
