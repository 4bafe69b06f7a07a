import KeyDirectory.Text.Utf8
import Mathlib.Data.List.Induction
import Mathlib.Tactic.Lemma
import Mathlib.Tactic.SplitIfs

/-!
# UTF-8 is read as it is written

The reader takes one byte at a time, and the writer one character.  From a place between two
characters the reader takes the bytes of a character and writes that character down; and as long as
it wrote no bad stretch, the bytes that it took are those of the characters that it wrote, followed
by what it has of a character begun.

* `foldl_take_encode`: the reader over the bytes of a text.
* `Faithful`, `faithful_foldl`: what is true of a reader that met no bad stretch.
* `decode?_eq_some_iff`, `decodeLossy_encode`: both decodings against the encoding.
-/

namespace KeyDirectory.Text.Utf8

/-! ## Bytes of strings -/

/-- The library's loop lists the bytes from its index on, after those it has done. -/
lemma toList_loop_eq (bytes : ByteArray) (i : Nat) (done : List UInt8) :
    ByteArray.toList.loop bytes i done = done.reverse ++ bytes.data.toList.drop i := by
  fun_induction ByteArray.toList.loop bytes i done with
  | case1 i done hlt ih =>
      have hlength : i < bytes.data.toList.length := by simpa using hlt
      have hget : bytes.get! i = bytes.data.toList[i] := by
        rw [ByteArray.get!, getElem!_pos bytes.data i (by simpa using hlt)]
        simp
      rw [ih, hget, List.reverse_cons, List.append_assoc, List.singleton_append,
        ← List.drop_eq_getElem_cons hlength]
  | case2 i done hge =>
      have hlength : bytes.data.toList.length ≤ i := by simpa using hge
      rw [List.drop_eq_nil_of_le hlength, List.append_nil]

/-- The bytes of a string are those of its characters. -/
lemma encodeText_eq (s : String) : encodeText s = encode s.toList := by
  have hbytes : s.toByteArray = (encode s.toList).toByteArray := by
    conv => lhs; rw [← String.ofList_toList (s := s)]
    rfl
  rw [encodeText, String.toUTF8_eq_toByteArray, ByteArray.toList, toList_loop_eq, hbytes]
  simp

/-- There are as many as the string is long in bytes. -/
lemma length_encodeText (s : String) : (encodeText s).length = s.utf8ByteSize := by
  rw [encodeText, String.toUTF8_eq_toByteArray, ByteArray.toList, toList_loop_eq]
  simp

/-- Text is encoded piece by piece. -/
@[simp] lemma encode_append (s t : List Char) : encode (s ++ t) = encode s ++ encode t :=
  List.flatMap_append

/-- The encoding of one character. -/
lemma encode_singleton (c : Char) : encode [c] = String.utf8EncodeChar c :=
  List.append_nil _

/-! ## One character -/

/-- The numbers of the characters: the two ranges around the surrogates. -/
lemma valid_toNat (c : Char) : c.toNat < 0xD800 ∨ (0xDFFF < c.toNat ∧ c.toNat < 0x110000) :=
  c.valid

/-- A scalar value is the number of its character. -/
lemma toNat_ofNat_of_valid {n : Nat} (h : n < 0xD800 ∨ (0xDFFF < n ∧ n < 0x110000)) :
    (Char.ofNat n).toNat = n := by
  have hvalid : n.isValidChar := h
  rw [Char.ofNat, dif_pos hvalid]
  rfl

/-- Letters and digits are among the first characters. -/
lemma toNat_lt_of_isAlphanum {c : Char} (h : c.isAlphanum = true) : c.toNat < 128 := by
  have hbound : ∀ bound : Char, c.val ≤ bound.val → bound.toNat < 128 → c.toNat < 128 :=
    fun bound hle hlt => Nat.lt_of_le_of_lt (UInt32.le_iff_toNat_le.mp hle) hlt
  rcases (Bool.or_eq_true _ _).mp h with halpha | hdigit
  · rcases (Bool.or_eq_true _ _).mp halpha with hupper | hlower
    · exact hbound 'Z' (of_decide_eq_true hupper).2 (by decide)
    · exact hbound 'z' (of_decide_eq_true ((Bool.and_eq_true _ _).mp hlower).2) (by decide)
  · exact hbound '9' (of_decide_eq_true ((Bool.and_eq_true _ _).mp hdigit).2) (by decide)

/-- So what is true of all of them can be decided. -/
lemma forall_alphanum {P : Char → Prop}
    (h : ∀ n < 128, (Char.ofNat n).isAlphanum = true → P (Char.ofNat n)) {c : Char}
    (hc : c.isAlphanum = true) : P c := by
  have hP := h c.toNat (toNat_lt_of_isAlphanum hc)
  rw [Char.ofNat_toNat] at hP
  exact hP hc

section written

variable {n : Nat}

/-- An ASCII character is its own byte. -/
lemma encodeChar_one (h : n < 0x80) : String.utf8EncodeChar (Char.ofNat n) = [UInt8.ofNat n] := by
  have hn : (Char.ofNat n).val.toNat = n := toNat_ofNat_of_valid (by omega)
  unfold String.utf8EncodeChar
  rw [hn, if_pos (by omega)]

/-- A character of eight to eleven bits is two bytes. -/
lemma encodeChar_two (h : 0x80 ≤ n) (h' : n < 0x800) : String.utf8EncodeChar (Char.ofNat n) =
    [UInt8.ofNat (n / 64 % 32 + 0xC0), UInt8.ofNat (n % 64 + 0x80)] := by
  have hn : (Char.ofNat n).val.toNat = n := toNat_ofNat_of_valid (by omega)
  unfold String.utf8EncodeChar
  rw [hn, if_neg (by omega), if_pos (by omega)]

/-- A character of up to sixteen bits is three bytes. -/
lemma encodeChar_three (h : 0x800 ≤ n) (h' : n < 0xD800 ∨ (0xDFFF < n ∧ n < 0x10000)) :
    String.utf8EncodeChar (Char.ofNat n) = [UInt8.ofNat (n / 4096 % 16 + 0xE0),
      UInt8.ofNat (n / 64 % 64 + 0x80), UInt8.ofNat (n % 64 + 0x80)] := by
  have hn : (Char.ofNat n).val.toNat = n := toNat_ofNat_of_valid (by omega)
  unfold String.utf8EncodeChar
  rw [hn, if_neg (by omega), if_neg (by omega), if_pos (by omega)]

/-- Every other character is four bytes. -/
lemma encodeChar_four (h : 0x10000 ≤ n) (h' : n < 0x110000) : String.utf8EncodeChar (Char.ofNat n) =
    [UInt8.ofNat (n / 262144 % 8 + 0xF0), UInt8.ofNat (n / 4096 % 64 + 0x80),
      UInt8.ofNat (n / 64 % 64 + 0x80), UInt8.ofNat (n % 64 + 0x80)] := by
  have hn : (Char.ofNat n).val.toNat = n := toNat_ofNat_of_valid (by omega)
  unfold String.utf8EncodeChar
  rw [hn, if_neg (by omega), if_neg (by omega), if_neg (by omega)]

end written

/-! ## First bytes -/

section lead

variable {b : UInt8}

/-- An ASCII byte is a whole character. -/
lemma lead_one (h : b.toNat < 0x80) : lead b = .whole (Char.ofNat b.toNat) := by
  rw [lead, if_pos (by simpa [UInt8.lt_iff_toNat_lt] using h)]

/-- The first byte of two. -/
lemma lead_two (h : 0xC2 ≤ b.toNat) (h' : b.toNat < 0xE0) :
    lead b = .begun ⟨b.toNat - 0xC0, 1, 0x80, 0xBF⟩ := by
  simp only [lead, UInt8.lt_iff_toNat_lt, UInt8.reduceToNat]
  rw [if_neg (by omega), if_neg (by omega), if_pos (by omega)]

/-- The first byte of three, whose second byte is narrowed at both ends of its range. -/
lemma lead_three (h : 0xE0 ≤ b.toNat) (h' : b.toNat < 0xF0) :
    lead b = .begun ⟨b.toNat - 0xE0, 2, if b.toNat = 0xE0 then 0xA0 else 0x80,
      if b.toNat = 0xED then 0x9F else 0xBF⟩ := by
  simp only [lead, UInt8.lt_iff_toNat_lt, ← UInt8.toNat_inj, UInt8.reduceToNat]
  rw [if_neg (by omega), if_neg (by omega), if_neg (by omega), if_pos (by omega)]

/-- The first byte of four, whose second byte is narrowed at both ends of its range. -/
lemma lead_four (h : 0xF0 ≤ b.toNat) (h' : b.toNat < 0xF5) :
    lead b = .begun ⟨b.toNat - 0xF0, 3, if b.toNat = 0xF0 then 0x90 else 0x80,
      if b.toNat = 0xF4 then 0x8F else 0xBF⟩ := by
  simp only [lead, UInt8.lt_iff_toNat_lt, ← UInt8.toNat_inj, UInt8.reduceToNat]
  rw [if_neg (by omega), if_neg (by omega), if_neg (by omega), if_neg (by omega),
    if_pos (by omega)]

/-- The bytes that no character starts with. -/
lemma lead_bad (h : (0x80 ≤ b.toNat ∧ b.toNat < 0xC2) ∨ 0xF5 ≤ b.toNat) : lead b = .bad := by
  simp only [lead, UInt8.lt_iff_toNat_lt, UInt8.reduceToNat]
  rcases h with h | h
  · rw [if_neg (by omega), if_pos (by omega)]
  · rw [if_neg (by omega), if_neg (by omega), if_neg (by omega), if_neg (by omega),
      if_neg (by omega)]

end lead

/-! ## Reading the bytes of a text -/

section take

variable {written : List (Option Char)} {s : Begun} {b : UInt8}

/-- A whole character is written at once. -/
lemma take_of_whole {c : Char} (h : lead b = .whole c) :
    Reader.take ⟨written, none⟩ b = ⟨some c :: written, none⟩ := by
  simp only [Reader.take, Reader.fresh, h]

/-- A first byte begins a character and writes nothing. -/
lemma take_of_begun (h : lead b = .begun s) :
    Reader.take ⟨written, none⟩ b = ⟨written, some s⟩ := by
  simp only [Reader.take, Reader.fresh, h]

/-- A byte in the range that a character begun allows goes on with it. -/
lemma take_more (hlow : s.low ≤ b) (hhigh : b ≤ s.high) (howed : 1 < s.owed) :
    Reader.take ⟨written, some s⟩ b =
      ⟨written, some ⟨s.bits * 64 + (b.toNat - 0x80), s.owed - 1, 0x80, 0xBF⟩⟩ := by
  simp only [Reader.take, if_pos (And.intro hlow hhigh), if_neg (Nat.not_le.mpr howed)]

/-- The last byte that a character begun owes ends it. -/
lemma take_last (hlow : s.low ≤ b) (hhigh : b ≤ s.high) (howed : s.owed ≤ 1) :
    Reader.take ⟨written, some s⟩ b =
      ⟨some (Char.ofNat (s.bits * 64 + (b.toNat - 0x80))) :: written, none⟩ := by
  simp only [Reader.take, if_pos (And.intro hlow hhigh), if_pos howed]

end take

/-- A byte after the first one of a character holds six bits. -/
lemma toNat_tail (n : Nat) : (UInt8.ofNat (n % 64 + 0x80)).toNat = n % 64 + 0x80 := by
  rw [UInt8.toNat_ofNat']
  omega

/-- A later byte is at least `0x80`. -/
lemma le_tail (n : Nat) : 0x80 ≤ UInt8.ofNat (n % 64 + 0x80) := by
  simp only [UInt8.le_iff_toNat_le, toNat_tail, UInt8.reduceToNat]
  omega

/-- A later byte is at most `0xBF`. -/
lemma tail_le (n : Nat) : UInt8.ofNat (n % 64 + 0x80) ≤ 0xBF := by
  simp only [UInt8.le_iff_toNat_le, toNat_tail, UInt8.reduceToNat]
  omega

/-- Between two characters, the reader takes the bytes of a character and writes it down. -/
lemma foldl_take_encodeChar (written : List (Option Char)) (c : Char) :
    (String.utf8EncodeChar c).foldl Reader.take ⟨written, none⟩ = ⟨some c :: written, none⟩ := by
  obtain ⟨n, hn, rfl⟩ : ∃ n, (n < 0xD800 ∨ (0xDFFF < n ∧ n < 0x110000)) ∧ Char.ofNat n = c :=
    ⟨c.toNat, valid_toNat c, Char.ofNat_toNat c⟩
  by_cases hone : n < 0x80
  · have ha : (UInt8.ofNat n).toNat = n := by rw [UInt8.toNat_ofNat']; omega
    rw [encodeChar_one hone, List.foldl_cons, List.foldl_nil, take_of_whole (lead_one (by omega)),
      ha]
  by_cases htwo : n < 0x800
  · have ha : (UInt8.ofNat (n / 64 % 32 + 0xC0)).toNat = n / 64 + 0xC0 := by
      rw [UInt8.toNat_ofNat']; omega
    have hbits : (n / 64 + 0xC0 - 0xC0) * 64 + (n % 64 + 0x80 - 0x80) = n := by omega
    rw [encodeChar_two (by omega) htwo, List.foldl_cons, List.foldl_cons, List.foldl_nil,
      take_of_begun (lead_two (by omega) (by omega)),
      take_last (le_tail n) (tail_le n) (Nat.le_refl 1), ha, toNat_tail, hbits]
  by_cases hthree : n < 0x10000
  · have ha : (UInt8.ofNat (n / 4096 % 16 + 0xE0)).toNat = n / 4096 + 0xE0 := by
      rw [UInt8.toNat_ofNat']; omega
    have hbits : ((n / 4096 + 0xE0 - 0xE0) * 64 + (n / 64 % 64 + 0x80 - 0x80)) * 64 +
        (n % 64 + 0x80 - 0x80) = n := by omega
    rw [encodeChar_three (by omega) (by omega), List.foldl_cons, List.foldl_cons, List.foldl_cons,
      List.foldl_nil, take_of_begun (lead_three (by omega) (by omega)), take_more,
      take_last (le_tail n) (tail_le n) (Nat.le_refl 1), ha, toNat_tail, toNat_tail, hbits]
    · -- The second byte shows that the number is not too small for three bytes.
      rw [UInt8.le_iff_toNat_le, toNat_tail, ha]
      split_ifs <;> simp only [UInt8.reduceToNat] <;> omega
    · -- It also shows that the number is none of a surrogate.
      rw [UInt8.le_iff_toNat_le, toNat_tail, ha]
      split_ifs <;> simp only [UInt8.reduceToNat] <;> omega
    · exact Nat.lt_succ_self 1
  · have ha : (UInt8.ofNat (n / 262144 % 8 + 0xF0)).toNat = n / 262144 + 0xF0 := by
      rw [UInt8.toNat_ofNat']; omega
    have hbits : (((n / 262144 + 0xF0 - 0xF0) * 64 + (n / 4096 % 64 + 0x80 - 0x80)) * 64 +
        (n / 64 % 64 + 0x80 - 0x80)) * 64 + (n % 64 + 0x80 - 0x80) = n := by omega
    rw [encodeChar_four (by omega) (by omega), List.foldl_cons, List.foldl_cons, List.foldl_cons,
      List.foldl_cons, List.foldl_nil, take_of_begun (lead_four (by omega) (by omega)), take_more,
      take_more (le_tail (n / 64)) (tail_le (n / 64)) (Nat.lt_succ_self 1),
      take_last (le_tail n) (tail_le n) (Nat.le_refl 1), ha, toNat_tail, toNat_tail, toNat_tail,
      hbits]
    · -- The second byte shows that the number is not too small for four bytes.
      rw [UInt8.le_iff_toNat_le, toNat_tail, ha]
      split_ifs <;> simp only [UInt8.reduceToNat] <;> omega
    · -- It also shows that the number is not beyond the last character.
      rw [UInt8.le_iff_toNat_le, toNat_tail, ha]
      split_ifs <;> simp only [UInt8.reduceToNat] <;> omega
    · exact (by decide : 1 < 3)

/-- The reader over the bytes of a text. -/
lemma foldl_take_encode (written : List (Option Char)) (s : List Char) :
    (encode s).foldl Reader.take ⟨written, none⟩ = ⟨(s.map some).reverse ++ written, none⟩ := by
  induction s generalizing written with
  | nil => rfl
  | cons c s ih =>
      rw [encode, List.flatMap_cons, List.foldl_append, foldl_take_encodeChar]
      change (encode s).foldl Reader.take _ = _
      rw [ih]
      simp

/-- Encoded text decodes to its characters, with nothing replaced. -/
lemma decodePieces_encode (s : List Char) : decodePieces (encode s) = s.map some := by
  rw [decodePieces, Reader.start, foldl_take_encode]
  simp [Reader.finish]

/-- The lossy reading of a text that was written is that text. -/
@[simp] lemma decodeLossy_encode (s : List Char) : decodeLossy (encode s) = s := by
  rw [decodeLossy, decodePieces_encode, List.map_map]
  exact List.map_id s

/-- Encoded text decodes to itself. -/
@[simp] lemma decode?_encode (s : List Char) : decode? (encode s) = some s := by
  simp [decode?, decodePieces_encode, List.filterMap_map]

/-! ## What was read was written -/

/-- A first byte begins a character of two, three or four bytes. -/
lemma lead_cases (a : UInt8) :
    (a.toNat < 0x80 ∧ lead a = .whole (Char.ofNat a.toNat)) ∨
      (0xC2 ≤ a.toNat ∧ a.toNat < 0xE0 ∧ lead a = .begun ⟨a.toNat - 0xC0, 1, 0x80, 0xBF⟩) ∨
      (0xE0 ≤ a.toNat ∧ a.toNat < 0xF0 ∧ lead a = .begun ⟨a.toNat - 0xE0, 2,
        if a.toNat = 0xE0 then 0xA0 else 0x80, if a.toNat = 0xED then 0x9F else 0xBF⟩) ∨
      (0xF0 ≤ a.toNat ∧ a.toNat < 0xF5 ∧ lead a = .begun ⟨a.toNat - 0xF0, 3,
        if a.toNat = 0xF0 then 0x90 else 0x80, if a.toNat = 0xF4 then 0x8F else 0xBF⟩) ∨
      lead a = .bad := by
  by_cases h1 : a.toNat < 0x80
  · exact .inl ⟨h1, lead_one h1⟩
  by_cases h2 : a.toNat < 0xC2
  · exact .inr (.inr (.inr (.inr (lead_bad (.inl ⟨by omega, h2⟩)))))
  by_cases h3 : a.toNat < 0xE0
  · exact .inr (.inl ⟨by omega, h3, lead_two (by omega) h3⟩)
  by_cases h4 : a.toNat < 0xF0
  · exact .inr (.inr (.inl ⟨by omega, h4, lead_three (by omega) h4⟩))
  by_cases h5 : a.toNat < 0xF5
  · exact .inr (.inr (.inr (.inl ⟨by omega, h5, lead_four (by omega) h5⟩)))
  · exact .inr (.inr (.inr (.inr (lead_bad (.inr (by omega))))))

/-- A byte that is a whole character is that character's encoding. -/
lemma encodeChar_of_lead {b : UInt8} {c : Char} (h : lead b = .whole c) :
    String.utf8EncodeChar c = [b] := by
  rcases lead_cases b with ⟨hlt, hb⟩ | ⟨-, -, hb⟩ | ⟨-, -, hb⟩ | ⟨-, -, hb⟩ | hb
  · obtain rfl := Lead.whole.inj (hb.symm.trans h)
    rw [encodeChar_one hlt, UInt8.ofNat_toNat]
  all_goals exact absurd (hb.symm.trans h) (by simp)

/-- The bytes taken so far are the first ones of a character: whatever `owed` bytes of the allowed
ranges come next, the character that is then written down has these bytes. -/
def Begins : Nat → List UInt8 → Begun → Prop
  | 0, _, _ => False
  | 1, taken, s => ∀ b, s.low ≤ b → b ≤ s.high →
      taken ++ [b] = String.utf8EncodeChar (Char.ofNat (s.bits * 64 + (b.toNat - 0x80)))
  | owed + 2, taken, s => ∀ b, s.low ≤ b → b ≤ s.high →
      Begins (owed + 1) (taken ++ [b]) ⟨s.bits * 64 + (b.toNat - 0x80), owed + 1, 0x80, 0xBF⟩

/-- What is known after the first byte of two. -/
lemma begins_two {a : UInt8} (h : 0xC2 ≤ a.toNat) (h' : a.toNat < 0xE0) :
    Begins 1 [a] ⟨a.toNat - 0xC0, 1, 0x80, 0xBF⟩ := by
  intro b hlow hhigh
  simp only [UInt8.le_iff_toNat_le, UInt8.reduceToNat] at hlow hhigh
  dsimp only
  rw [encodeChar_two (by omega) (by omega),
    (UInt8.ofNat_eq_iff_mod_eq_toNat _ a).mpr (by omega),
    (UInt8.ofNat_eq_iff_mod_eq_toNat _ b).mpr (by omega)]
  rfl

/-- What is known after the first byte of three. -/
lemma begins_three {a : UInt8} (h : 0xE0 ≤ a.toNat) (h' : a.toNat < 0xF0) :
    Begins 2 [a] ⟨a.toNat - 0xE0, 2, if a.toNat = 0xE0 then 0xA0 else 0x80,
      if a.toNat = 0xED then 0x9F else 0xBF⟩ := by
  intro b hlow hhigh c hlow' hhigh'
  simp only [UInt8.le_iff_toNat_le, UInt8.reduceToNat] at hlow hhigh hlow' hhigh'
  have hsecond : 0x80 ≤ b.toNat ∧ b.toNat ≤ 0xBF ∧
      (a.toNat = 0xE0 → 0xA0 ≤ b.toNat) ∧ (a.toNat = 0xED → b.toNat ≤ 0x9F) := by
    split_ifs at hlow hhigh <;> simp only [UInt8.reduceToNat] at hlow hhigh <;> omega
  dsimp only
  rw [encodeChar_three (by omega) (by omega),
    (UInt8.ofNat_eq_iff_mod_eq_toNat _ a).mpr (by omega),
    (UInt8.ofNat_eq_iff_mod_eq_toNat _ b).mpr (by omega),
    (UInt8.ofNat_eq_iff_mod_eq_toNat _ c).mpr (by omega)]
  rfl

/-- What is known after the first byte of four. -/
lemma begins_four {a : UInt8} (h : 0xF0 ≤ a.toNat) (h' : a.toNat < 0xF5) :
    Begins 3 [a] ⟨a.toNat - 0xF0, 3, if a.toNat = 0xF0 then 0x90 else 0x80,
      if a.toNat = 0xF4 then 0x8F else 0xBF⟩ := by
  intro b hlow hhigh c hlow' hhigh' d hlow'' hhigh''
  simp only [UInt8.le_iff_toNat_le, UInt8.reduceToNat] at hlow hhigh hlow' hhigh' hlow'' hhigh''
  have hsecond : 0x80 ≤ b.toNat ∧ b.toNat ≤ 0xBF ∧
      (a.toNat = 0xF0 → 0x90 ≤ b.toNat) ∧ (a.toNat = 0xF4 → b.toNat ≤ 0x8F) := by
    split_ifs at hlow hhigh <;> simp only [UInt8.reduceToNat] at hlow hhigh <;> omega
  dsimp only
  rw [encodeChar_four (by omega) (by omega),
    (UInt8.ofNat_eq_iff_mod_eq_toNat _ a).mpr (by omega),
    (UInt8.ofNat_eq_iff_mod_eq_toNat _ b).mpr (by omega),
    (UInt8.ofNat_eq_iff_mod_eq_toNat _ c).mpr (by omega),
    (UInt8.ofNat_eq_iff_mod_eq_toNat _ d).mpr (by omega)]
  rfl

/-- What is known after any first byte. -/
lemma begins_of_lead {a : UInt8} {s : Begun} (h : lead a = .begun s) : Begins s.owed [a] s := by
  rcases lead_cases a with ⟨-, ha⟩ | ⟨h2, h2', ha⟩ | ⟨h3, h3', ha⟩ | ⟨h4, h4', ha⟩ | ha
  · exact absurd (ha.symm.trans h) (by simp)
  · obtain rfl := Lead.begun.inj (ha.symm.trans h)
    exact begins_two h2 h2'
  · obtain rfl := Lead.begun.inj (ha.symm.trans h)
    exact begins_three h3 h3'
  · obtain rfl := Lead.begun.inj (ha.symm.trans h)
    exact begins_four h4 h4'
  · exact absurd (ha.symm.trans h) (by simp)

/-- The reader met no bad stretch in the bytes: they are those of the text that it wrote down, and
the ones of the character that it has begun. -/
def Faithful (bytes : List UInt8) (r : Reader) : Prop :=
  ∃ text : List Char, r.written = (text.map some).reverse ∧
    match r.begun with
    | none => bytes = encode text
    | some s => ∃ taken, bytes = encode text ++ taken ∧ Begins s.owed taken s

/-- A bad stretch stays written down. -/
lemma none_mem_take {r : Reader} {b : UInt8} (h : none ∈ r.written) :
    none ∈ (r.take b).written := by
  obtain ⟨written, begun⟩ := r
  cases begun with
  | none => simp only [Reader.take, Reader.fresh]; split <;> simp_all
  | some s =>
      simp only [Reader.take, Reader.fresh]
      split_ifs
      · simp_all
      · simp_all
      · split <;> simp_all

/-- A byte that follows whole characters is read faithfully, unless it is replaced. -/
lemma Faithful.fresh {text : List Char} {b : UInt8}
    (hgood : none ∉ (Reader.fresh (text.map some).reverse b).written) :
    Faithful (encode text ++ [b]) (Reader.fresh (text.map some).reverse b) := by
  cases hlead : lead b with
  | whole c =>
      simp only [Reader.fresh, hlead]
      refine ⟨text ++ [c], by simp, ?_⟩
      rw [encode_append, encode_singleton, encodeChar_of_lead hlead]
  | begun s =>
      simp only [Reader.fresh, hlead]
      exact ⟨text, rfl, [b], rfl, begins_of_lead hlead⟩
  | bad => simp [Reader.fresh, hlead] at hgood

/-- **One byte.**  While no bad stretch is met, the bytes are those of what was written. -/
lemma Faithful.take {bytes : List UInt8} {r : Reader} (h : Faithful bytes r) (b : UInt8)
    (hgood : none ∉ (r.take b).written) : Faithful (bytes ++ [b]) (r.take b) := by
  obtain ⟨written, begun⟩ := r
  obtain ⟨text, rfl, hbytes⟩ := h
  cases begun with
  | none =>
      subst hbytes
      exact Faithful.fresh hgood
  | some s =>
      obtain ⟨taken, rfl, hbegins⟩ := hbytes
      by_cases hrange : s.low ≤ b ∧ b ≤ s.high
      · obtain ⟨hlow, hhigh⟩ := hrange
        match howed : s.owed with
        | 0 => exact absurd hbegins (by simp [howed, Begins])
        | 1 =>
            rw [howed] at hbegins
            rw [take_last hlow hhigh (by omega)]
            refine ⟨text ++ [Char.ofNat (s.bits * 64 + (b.toNat - 0x80))], by simp, ?_⟩
            rw [List.append_assoc, hbegins b hlow hhigh, encode_append, encode_singleton]
        | owed + 2 =>
            rw [howed] at hbegins
            rw [take_more hlow hhigh (by omega), howed]
            exact ⟨text, rfl, taken ++ [b], by rw [List.append_assoc], hbegins b hlow hhigh⟩
      · -- A byte out of range ends a bad stretch, which is then written down.
        refine absurd ?_ hgood
        simp only [Reader.take, if_neg hrange, Reader.fresh]
        split <;> simp

/-- **A run over bytes.**  The reader stays faithful to the bytes until it meets a bad stretch. -/
lemma faithful_foldl (bytes : List UInt8)
    (hgood : none ∉ (bytes.foldl Reader.take Reader.start).written) :
    Faithful bytes (bytes.foldl Reader.take Reader.start) := by
  induction bytes using List.reverseRecOn with
  | nil => exact ⟨[], rfl, rfl⟩
  | append_singleton bytes b ih =>
      rw [List.foldl_append, List.foldl_cons, List.foldl_nil] at hgood ⊢
      exact (ih fun h => hgood (none_mem_take h)).take b hgood

/-- The strict reading is the inverse of the writing. -/
theorem decode?_eq_some_iff {bytes : List UInt8} {s : List Char} :
    decode? bytes = some s ↔ bytes = encode s := by
  refine ⟨fun h => ?_, fun h => h ▸ decode?_encode s⟩
  simp only [decode?, Option.ite_none_right_eq_some, Option.some.injEq, List.all_eq_true] at h
  obtain ⟨hall, hs⟩ := h
  have hpieces : none ∉ decodePieces bytes := by
    intro hmem
    simpa using hall none hmem
  rw [decodePieces, Reader.finish, List.mem_reverse] at hpieces
  have hgood : none ∉ (bytes.foldl Reader.take Reader.start).written := by
    intro hmem
    apply hpieces
    split
    · exact hmem
    · exact List.mem_cons_of_mem _ hmem
  obtain ⟨text, hwritten, hbytes⟩ := faithful_foldl bytes hgood
  cases hbegun : (bytes.foldl Reader.take Reader.start).begun with
  | some b => simp [hbegun] at hpieces
  | none =>
      rw [hbegun] at hbytes
      rw [hbytes, decodePieces_encode] at hs
      rw [hbytes, ← hs]
      simp [List.filterMap_map]

/-- The bytes that read as a string are those of that string. -/
theorem decodeText?_eq_some_iff {bytes : List UInt8} {s : String} :
    decodeText? bytes = some s ↔ bytes = encodeText s := by
  rw [decodeText?, Option.map_eq_some_iff, encodeText_eq]
  constructor
  · rintro ⟨text, htext, rfl⟩
    rw [decode?_eq_some_iff] at htext
    rw [htext, String.toList_ofList]
  · rintro rfl
    exact ⟨s.toList, decode?_encode _, String.ofList_toList⟩

/-- Texts are told apart by their bytes. -/
lemma encodeText_injective {s t : String} (h : encodeText s = encodeText t) : s = t := by
  have hs := decodeText?_eq_some_iff.mpr (Eq.refl (encodeText s))
  rw [h, decodeText?_eq_some_iff.mpr rfl] at hs
  exact (Option.some.inj hs).symm

end KeyDirectory.Text.Utf8
