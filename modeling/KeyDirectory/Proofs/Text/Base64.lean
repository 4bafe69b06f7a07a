import KeyDirectory.Text.Base64
import Mathlib.Tactic.Lemma
import Mathlib.Tactic.SplitIfs

/-!
# Base64 is read as it is written

The padded form of a byte string reads as that byte string, and a text reads as no other byte string
than the one that it is the padded form of.  The proofs go from one digit to a group of digits, and
from groups to the whole text.

* `digitValue?_digit`, `digit_of_digitValue?`: one digit.
* `readPair_eq_some_iff`, `readTriplet_eq_some_iff`, `readQuartet_eq_some_iff`: one group.
* `decode?_eq_some_iff`: the whole text.
* `encodeUnpadded_injective`, `exists_encode_eq`: the form without padding, which tells byte strings
  apart as well and is all of the padded one but its end.
* `mem_encodeUnpadded`, `mem_encode`: the characters of both forms.
-/

namespace KeyDirectory.Text.Base64

/-! ## One digit -/

/-- Every digit reads as its value. -/
lemma digitValue?_digit : ∀ n < 64, digitValue? (digit n) = some n := by
  decide

/-- What reads as a value is the digit of that value. -/
lemma digit_of_digitValue? {c : Char} {n : Nat} (h : digitValue? c = some n) :
    n < 64 ∧ digit n = c := by
  simp only [digitValue?] at h
  split_ifs at h with hupper hlower hnumber hplus hslash <;>
    obtain rfl := Option.some.inj h
  · have hc : Char.ofNat (65 + (c.toNat - 65)) = c := by
      rw [Nat.add_sub_of_le hupper.1, Char.ofNat_toNat]
    exact ⟨by omega, by rw [digit, if_pos (by omega), hc]⟩
  · have hc : Char.ofNat (71 + (c.toNat - 71)) = c := by
      rw [Nat.add_sub_of_le (by omega), Char.ofNat_toNat]
    exact ⟨by omega, by rw [digit, if_neg (by omega), if_pos (by omega), hc]⟩
  · have hc : Char.ofNat (c.toNat + 4 - 4) = c := by rw [Nat.add_sub_cancel, Char.ofNat_toNat]
    exact ⟨by omega, by rw [digit, if_neg (by omega), if_neg (by omega), if_pos (by omega), hc]⟩
  · exact ⟨by decide, hplus ▸ rfl⟩
  · exact ⟨by decide, hslash ▸ rfl⟩

/-- A character reads as a value iff it is the digit of that value. -/
lemma digitValue?_eq_some_iff {c : Char} {n : Nat} :
    digitValue? c = some n ↔ n < 64 ∧ digit n = c :=
  ⟨digit_of_digitValue?, fun ⟨hn, hc⟩ => hc ▸ digitValue?_digit n hn⟩

/-- No digit is the padding. -/
lemma digit_ne_pad {n : Nat} (h : n < 64) : digit n ≠ '=' := by
  intro hpad
  have hvalue := digitValue?_digit n h
  rw [hpad] at hvalue
  simp [digitValue?] at hvalue

/-- A digit is a letter, a numeral, a plus or a slash. -/
lemma digit_isAlphanum : ∀ n < 64, (digit n).isAlphanum ∨ digit n = '+' ∨ digit n = '/' := by
  decide

/-! ## One group -/

section group

variable {a b c d : Char} {bytes : List UInt8}

/-- Two digits read as a byte iff they are what that byte is written as. -/
lemma readPair_eq_some_iff : readPair a b = some bytes ↔ ∃ x, bytes = [x] ∧ pair x = [a, b] := by
  simp only [readPair, Option.bind_eq_bind, Option.bind_eq_some_iff, digitValue?_eq_some_iff,
    Option.ite_none_right_eq_some, Option.some.injEq]
  constructor
  · rintro ⟨m, ⟨hm, rfl⟩, n, ⟨hn, rfl⟩, hspare, rfl⟩
    have hfirst : (m * 4 + n / 16) / 4 = m := by omega
    have hsecond : (m * 4 + n / 16) % 4 * 16 = n := by omega
    refine ⟨_, rfl, ?_⟩
    rw [pair, UInt8.toNat_ofNat_of_lt' (show _ < 256 by omega), hfirst, hsecond]
  · rintro ⟨x, rfl, hpair⟩
    have hx := x.toNat_lt
    simp only [pair, List.cons.injEq, and_true] at hpair
    obtain ⟨rfl, rfl⟩ := hpair
    refine ⟨_, ⟨by omega, rfl⟩, _, ⟨by omega, rfl⟩, by omega, ?_⟩
    rw [(UInt8.ofNat_eq_iff_mod_eq_toNat _ x).mpr (by omega)]

/-- Three digits read as two bytes iff they are what those bytes are written as. -/
lemma readTriplet_eq_some_iff :
    readTriplet a b c = some bytes ↔ ∃ x y, bytes = [x, y] ∧ triplet x y = [a, b, c] := by
  simp only [readTriplet, Option.bind_eq_bind, Option.bind_eq_some_iff, digitValue?_eq_some_iff,
    Option.ite_none_right_eq_some, Option.some.injEq]
  constructor
  · rintro ⟨l, ⟨hl, rfl⟩, m, ⟨hm, rfl⟩, n, ⟨hn, rfl⟩, hspare, rfl⟩
    have hsum : (l * 4 + m / 16) * 1024 + (m % 16 * 16 + n / 4) * 4 = l * 4096 + m * 64 + n := by
      omega
    have hfirst : (l * 4096 + m * 64 + n) / 4096 = l := by omega
    have hsecond : (l * 4096 + m * 64 + n) / 64 % 64 = m := by omega
    have hthird : (l * 4096 + m * 64 + n) % 64 = n := by omega
    refine ⟨_, _, rfl, ?_⟩
    rw [triplet, UInt8.toNat_ofNat_of_lt' (show _ < 256 by omega),
      UInt8.toNat_ofNat_of_lt' (show _ < 256 by omega), hsum]
    rw [hfirst, hsecond, hthird]
  · rintro ⟨x, y, rfl, htriplet⟩
    have hx := x.toNat_lt
    have hy := y.toNat_lt
    simp only [triplet, List.cons.injEq, and_true] at htriplet
    obtain ⟨rfl, rfl, rfl⟩ := htriplet
    refine ⟨_, ⟨by omega, rfl⟩, _, ⟨by omega, rfl⟩, _, ⟨by omega, rfl⟩, by omega, ?_⟩
    rw [(UInt8.ofNat_eq_iff_mod_eq_toNat _ x).mpr (by omega),
      (UInt8.ofNat_eq_iff_mod_eq_toNat _ y).mpr (by omega)]

/-- Four digits read as three bytes iff they are what those bytes are written as. -/
lemma readQuartet_eq_some_iff : readQuartet a b c d = some bytes ↔
    ∃ x y z, bytes = [x, y, z] ∧ quartet x y z = [a, b, c, d] := by
  simp only [readQuartet, Option.bind_eq_bind, Option.bind_eq_some_iff, digitValue?_eq_some_iff,
    Option.some.injEq]
  constructor
  · rintro ⟨k, ⟨hk, rfl⟩, l, ⟨hl, rfl⟩, m, ⟨hm, rfl⟩, n, ⟨hn, rfl⟩, rfl⟩
    have hsum : (k * 4 + l / 16) * 65536 + (l % 16 * 16 + m / 4) * 256 + (m % 4 * 64 + n) =
        k * 262144 + l * 4096 + m * 64 + n := by omega
    have hfirst : (k * 262144 + l * 4096 + m * 64 + n) / 262144 = k := by omega
    have hsecond : (k * 262144 + l * 4096 + m * 64 + n) / 4096 % 64 = l := by omega
    have hthird : (k * 262144 + l * 4096 + m * 64 + n) / 64 % 64 = m := by omega
    have hfourth : (k * 262144 + l * 4096 + m * 64 + n) % 64 = n := by omega
    refine ⟨_, _, _, rfl, ?_⟩
    rw [quartet, UInt8.toNat_ofNat_of_lt' (show _ < 256 by omega),
      UInt8.toNat_ofNat_of_lt' (show _ < 256 by omega),
      UInt8.toNat_ofNat_of_lt' (show _ < 256 by omega), hsum]
    rw [hfirst, hsecond, hthird, hfourth]
  · rintro ⟨x, y, z, rfl, hquartet⟩
    have hx := x.toNat_lt
    have hy := y.toNat_lt
    have hz := z.toNat_lt
    simp only [quartet, List.cons.injEq, and_true] at hquartet
    obtain ⟨rfl, rfl, rfl, rfl⟩ := hquartet
    refine ⟨_, ⟨by omega, rfl⟩, _, ⟨by omega, rfl⟩, _, ⟨by omega, rfl⟩, _, ⟨by omega, rfl⟩, ?_⟩
    rw [(UInt8.ofNat_eq_iff_mod_eq_toNat _ x).mpr (by omega),
      (UInt8.ofNat_eq_iff_mod_eq_toNat _ y).mpr (by omega),
      (UInt8.ofNat_eq_iff_mod_eq_toNat _ z).mpr (by omega)]

end group

/-! ## The whole text -/

/-- Four characters of which the last one is not padding are read before what follows them. -/
lemma decode?_group {a b c d : Char} {bytes : List UInt8} (rest : List Char) (hpad : d ≠ '=')
    (hgroup : readQuartet a b c d = some bytes) :
    decode? (a :: b :: c :: d :: rest) = (decode? rest).map (bytes ++ ·) := by
  rw [decode?, hgroup]
  · rcases decode? rest with _ | more <;> rfl
  · rintro - h -
    exact hpad h
  · rintro h -
    exact hpad h

/-- The digits of three bytes are read before what follows them. -/
lemma decode?_quartet_append (x y z : UInt8) (rest : List Char) :
    decode? (quartet x y z ++ rest) = (decode? rest).map ([x, y, z] ++ ·) := by
  have hx := x.toNat_lt
  exact decode?_group rest (digit_ne_pad (by omega))
    (readQuartet_eq_some_iff.mpr ⟨x, y, z, rfl, rfl⟩)

/-- What is encoded decodes. -/
@[simp] lemma decode?_encode (bytes : List UInt8) : decode? (encode bytes) = some bytes := by
  fun_induction encode bytes with
  | case1 => rfl
  | case2 x => exact readPair_eq_some_iff.mpr ⟨x, rfl, rfl⟩
  | case3 x y =>
      have hy := y.toNat_lt
      have hpad : digit ((x.toNat * 1024 + y.toNat * 4) % 64) ≠ '=' := digit_ne_pad (by omega)
      exact (decode?.eq_3 _ _ _ hpad).trans (readTriplet_eq_some_iff.mpr ⟨x, y, rfl, rfl⟩)
  | case4 x y z rest ih =>
      rw [decode?_quartet_append, ih]
      rfl

/-- A text reads as a byte string when it is the padded form of it, and as no other. -/
theorem decode?_eq_some_iff {s : List Char} {bytes : List UInt8} :
    decode? s = some bytes ↔ s = encode bytes := by
  refine ⟨fun h => ?_, fun h => h ▸ decode?_encode bytes⟩
  fun_induction decode? s generalizing bytes with
  | case1 =>
      obtain rfl := Option.some.inj h
      rfl
  | case2 a b =>
      obtain ⟨x, rfl, hpair⟩ := readPair_eq_some_iff.mp h
      rw [encode, hpair]
      rfl
  | case3 a b c =>
      obtain ⟨x, y, rfl, htriplet⟩ := readTriplet_eq_some_iff.mp h
      rw [encode, htriplet]
      rfl
  | case4 a b c d rest _ _ ih =>
      simp only [Option.bind_eq_bind, Option.bind_eq_some_iff, Option.some.injEq] at h
      obtain ⟨group, hgroup, more, hmore, rfl⟩ := h
      obtain ⟨x, y, z, rfl, hquartet⟩ := readQuartet_eq_some_iff.mp hgroup
      rw [ih hmore, List.cons_append, List.cons_append, List.cons_append, List.nil_append, encode,
        hquartet]
      rfl
  | case5 => simp at h

/-- Different bytes have different encodings. -/
lemma encode_injective {bytes bytes' : List UInt8} (h : encode bytes = encode bytes') :
    bytes = bytes' := by
  have hdecode := decode?_encode bytes
  rw [h, decode?_encode] at hdecode
  exact (Option.some.inj hdecode).symm

/-- Only no bytes are encoded as nothing. -/
@[simp] lemma encode_eq_nil_iff {bytes : List UInt8} : encode bytes = [] ↔ bytes = [] :=
  ⟨fun h => encode_injective h, fun h => h ▸ rfl⟩

/-! ## The form without padding -/

/-- What is encoded without padding decodes. -/
@[simp] lemma decodeUnpadded?_encodeUnpadded (bytes : List UInt8) :
    decodeUnpadded? (encodeUnpadded bytes) = some bytes := by
  fun_induction encodeUnpadded bytes with
  | case1 => rfl
  | case2 x => exact readPair_eq_some_iff.mpr ⟨x, rfl, rfl⟩
  | case3 x y => exact readTriplet_eq_some_iff.mpr ⟨x, y, rfl, rfl⟩
  | case4 x y z rest ih =>
      simp only [quartet, List.cons_append, List.nil_append, decodeUnpadded?]
      rw [readQuartet_eq_some_iff.mpr ⟨x, y, z, rfl, rfl⟩, ih]
      rfl

/-- Byte strings with the same unpadded form are the same. -/
lemma encodeUnpadded_injective {bytes bytes' : List UInt8}
    (h : encodeUnpadded bytes = encodeUnpadded bytes') : bytes = bytes' := by
  have hdecode := decodeUnpadded?_encodeUnpadded bytes
  rw [h, decodeUnpadded?_encodeUnpadded] at hdecode
  exact (Option.some.inj hdecode).symm

/-- The form without padding is made of digits. -/
lemma exists_digit_of_mem {bytes : List UInt8} {c : Char} (h : c ∈ encodeUnpadded bytes) :
    ∃ n < 64, c = digit n := by
  fun_induction encodeUnpadded bytes with
  | case1 => cases h
  | case2 x =>
      have hx := x.toNat_lt
      simp only [pair, List.mem_cons, List.not_mem_nil, or_false] at h
      rcases h with h | h <;> exact ⟨_, by omega, h⟩
  | case3 x y =>
      have hx := x.toNat_lt
      have hy := y.toNat_lt
      simp only [triplet, List.mem_cons, List.not_mem_nil, or_false] at h
      rcases h with h | h | h <;> exact ⟨_, by omega, h⟩
  | case4 x y z rest ih =>
      have hx := x.toNat_lt
      have hy := y.toNat_lt
      have hz := z.toNat_lt
      simp only [quartet, List.cons_append, List.nil_append, List.mem_cons] at h
      rcases h with h | h | h | h | h
      · exact ⟨_, by omega, h⟩
      · exact ⟨_, by omega, h⟩
      · exact ⟨_, by omega, h⟩
      · exact ⟨_, by omega, h⟩
      · exact ih h

/-- The characters of the form without padding. -/
lemma mem_encodeUnpadded {bytes : List UInt8} {c : Char} (h : c ∈ encodeUnpadded bytes) :
    c.isAlphanum ∨ c = '+' ∨ c = '/' := by
  obtain ⟨n, hn, rfl⟩ := exists_digit_of_mem h
  exact digit_isAlphanum n hn

/-- The padded form is the other one, and then padding. -/
lemma exists_encode_eq (bytes : List UInt8) :
    ∃ n, encode bytes = encodeUnpadded bytes ++ List.replicate n '=' := by
  fun_induction encodeUnpadded bytes with
  | case1 => exact ⟨0, rfl⟩
  | case2 x => exact ⟨2, rfl⟩
  | case3 x y => exact ⟨1, rfl⟩
  | case4 x y z rest ih =>
      obtain ⟨n, ih⟩ := ih
      exact ⟨n, by rw [encode, ih, List.append_assoc]⟩

/-- The characters of the padded form. -/
lemma mem_encode {bytes : List UInt8} {c : Char} (h : c ∈ encode bytes) :
    c.isAlphanum ∨ c = '+' ∨ c = '/' ∨ c = '=' := by
  obtain ⟨n, heq⟩ := exists_encode_eq bytes
  rw [heq, List.mem_append] at h
  rcases h with hdigit | hpad
  · rcases mem_encodeUnpadded hdigit with hc | hc | hc
    · exact .inl hc
    · exact .inr (.inl hc)
    · exact .inr (.inr (.inl hc))
  · exact .inr (.inr (.inr (List.eq_of_mem_replicate hpad)))

end KeyDirectory.Text.Base64
