import KeyDirectory.Proofs.Text.Utf8
import KeyDirectory.Proofs.Upload.Identity
import KeyDirectory.Upload.Drawing
import Mathlib.Algebra.BigOperators.Fin
import Mathlib.Data.Fintype.BigOperators
import Mathlib.Tactic.Ring

/-!
# Draws are exact and uniform

The bytes of a generator come in reads of any size.  A draw passes over the bytes that stand for no
character and takes the others in order, wherever one read ends and the next begins.

* `exists_drawsFrom`, `drawn?_eq`: what is drawn, in terms of all bytes that are there.
* `card_charOf`: each character has four bytes.
* `numberOf_succ`: sequences are counted by their first byte.
* `pow_mul_beginnings`: the sequences that hold enough bytes divide equally among the texts.
* `draw_uniform`: draws are exact, whatever the reads, and no text is likelier than another.
-/

namespace KeyDirectory.Upload

/-! ## The alphabet -/

/-- The alphabet is the ASCII letters and digits. -/
lemma mem_alphabet_iff {c : Char} : c ∈ alphabet ↔ c.isAlphanum = true :=
  ⟨isAlphanum_of_mem_alphabet c, Text.Utf8.forall_alphanum (by decide +kernel)⟩

/-- A byte below the bound gives a character, and any other is passed over. -/
lemma charOfByte?_eq (b : UInt8) :
    charOfByte? b = if b.toNat < drawBound then some (charOf b) else none := by
  unfold charOfByte? charOf
  split_ifs
  · rw [List.get_eq_getElem]
    exact List.getElem?_eq_getElem _
  · rfl

/-- The characters of some bytes are those of the bytes accepted. -/
lemma filterMap_charOfByte? (bytes : List UInt8) :
    bytes.filterMap charOfByte? = (accepted bytes).map charOf := by
  induction bytes with
  | nil => rfl
  | cons b bytes ih =>
      unfold accepted at ih ⊢
      rw [List.filterMap_cons, charOfByte?_eq]
      by_cases hb : b.toNat < drawBound
      · simp [hb, ih]
      · simp [hb, ih]

/-- Bytes are accepted one by one. -/
lemma accepted_append (front back : List UInt8) :
    accepted (front ++ back) = accepted front ++ accepted back :=
  List.filter_append ..

/-- A byte below the bound is accepted, and any other is not. -/
lemma accepted_cons (b : UInt8) (bytes : List UInt8) :
    accepted (b :: bytes) =
      if b.toNat < drawBound then b :: accepted bytes else accepted bytes := by
  unfold accepted
  by_cases hb : b.toNat < drawBound
  · simp [hb]
  · simp [hb]

/-! ## What is drawn -/

/-- One read contributes its characters, as far as they are still asked for. -/
lemma draw_cons (n : Nat) (read : List UInt8) (reads : List (List UInt8)) :
    draw (n + 1) (read :: reads) =
      (draw (n + 1 - (accepted read).length) reads).map fun (more, rest) =>
        (((accepted read).take (n + 1)).map charOf ++ more, rest) := by
  have hleft : n + 1 - (((accepted read).map charOf).take (n + 1)).length =
      n + 1 - (accepted read).length := by
    rw [List.length_take, List.length_map]
    omega
  rw [draw, filterMap_charOfByte?, hleft, List.map_take]

/-- When there are enough bytes, the characters of the first of them are drawn. -/
lemma exists_drawsFrom {n : Nat} {reads : List (List UInt8)}
    (h : n ≤ (accepted reads.flatten).length) : ∃ used, DrawsFrom n reads used := by
  induction reads generalizing n with
  | nil =>
      obtain rfl : n = 0 := Nat.le_zero.mp h
      exact ⟨0, Nat.le_refl 0, rfl, Nat.zero_le _,
        fun _ hfewer => absurd hfewer (Nat.not_lt_zero _)⟩
  | cons read reads ih =>
      cases n with
      | zero =>
          exact ⟨0, Nat.zero_le _, rfl, Nat.zero_le _,
            fun _ hfewer => absurd hfewer (Nat.not_lt_zero _)⟩
      | succ n =>
          rw [List.flatten_cons, accepted_append, List.length_append] at h
          obtain ⟨used, hle, hdraw, henough, hfewest⟩ :=
            ih (n := n + 1 - (accepted read).length) (by omega)
          refine ⟨used + 1, Nat.succ_le_succ hle, ?_, ?_, ?_⟩
          · rw [draw_cons, hdraw, List.flatten_cons, accepted_append, List.take_append,
              List.map_append]
            rfl
          · rw [List.take_succ_cons, List.flatten_cons, accepted_append, List.length_append]
            omega
          · intro fewer hfewer
            cases fewer with
            | zero => exact Nat.succ_pos n
            | succ fewer =>
                have hshort := hfewest fewer (Nat.lt_of_succ_lt_succ hfewer)
                rw [List.take_succ_cons, List.flatten_cons, accepted_append, List.length_append]
                omega

/-- When there are too few bytes, nothing is drawn. -/
lemma draw_eq_none {n : Nat} {reads : List (List UInt8)}
    (h : (accepted reads.flatten).length < n) : draw n reads = none := by
  induction reads generalizing n with
  | nil =>
      cases n with
      | zero => cases h
      | succ n => rfl
  | cons read reads ih =>
      cases n with
      | zero => cases h
      | succ n =>
          rw [List.flatten_cons, accepted_append, List.length_append] at h
          rw [draw_cons, ih (by omega)]
          rfl

/-- The characters drawn depend on the bytes alone, and not on how they are cut into reads. -/
lemma drawn?_eq (n : Nat) (reads : List (List UInt8)) :
    drawn? n reads =
      if n ≤ (accepted reads.flatten).length then
        some (((accepted reads.flatten).take n).map charOf)
      else none := by
  unfold drawn?
  split_ifs with h
  · obtain ⟨used, hdraws⟩ := exists_drawsFrom h
    rw [hdraws.draw_eq]
    rfl
  · rw [draw_eq_none (Nat.lt_of_not_le h)]
    rfl

/-- A draw succeeds iff enough bytes are accepted. -/
lemma isSome_drawn?_iff {n : Nat} {reads : List (List UInt8)} :
    (drawn? n reads).isSome = true ↔ n ≤ (accepted reads.flatten).length := by
  rw [drawn?_eq]
  split_ifs with h
  · simp [h]
  · simp [h]

/-- The text drawn is that of the first accepted bytes. -/
lemma drawn?_eq_some_iff {n : Nat} {reads : List (List UInt8)} {chars : List Char}
    (hlength : chars.length = n) :
    drawn? n reads = some chars ↔ chars <+: (accepted reads.flatten).map charOf := by
  rw [drawn?_eq, List.prefix_iff_eq_take, hlength, ← List.map_take]
  split_ifs with h
  · rw [Option.some.injEq, eq_comm]
  · rw [iff_false_left (by simp)]
    intro heq
    have hshort := congrArg List.length heq
    rw [hlength, List.length_map, List.length_take] at hshort
    omega

/-- What is drawn has the length asked for and is made of the alphabet. -/
lemma isDrawable_of_draw {n : Nat} {reads rest : List (List UInt8)} {chars : List Char}
    (h : draw n reads = some (chars, rest)) : IsDrawable n chars :=
  ⟨(draw_eq_some h).1, (draw_eq_some h).2⟩

/-! ## Counting sequences of bytes -/

section counting

variable {P Q : List UInt8 → Prop} [DecidablePred P] [DecidablePred Q]

/-- Equivalent conditions hold for equally many byte sequences. -/
lemma numberOf_congr (h : ∀ bytes, P bytes ↔ Q bytes) (size : Nat) :
    numberOf size P = numberOf size Q := by
  unfold numberOf
  simp only [h]

/-- A condition that never holds holds for none. -/
lemma numberOf_eq_zero (h : ∀ bytes, ¬ P bytes) (size : Nat) : numberOf size P = 0 := by
  unfold numberOf
  simp [h]

/-- There is one sequence of no bytes. -/
lemma numberOf_zero : numberOf 0 P = if P [] then 1 else 0 := by
  unfold numberOf
  rw [Finset.card_filter]
  simp

/-- Sequences are counted by their first byte. -/
lemma numberOf_succ (size : Nat) :
    numberOf (size + 1) P = ∑ b : UInt8, numberOf size fun bytes => P (b :: bytes) := by
  unfold numberOf
  simp only [Finset.card_filter]
  rw [← (Fin.consEquiv fun _ : Fin (size + 1) => UInt8).sum_comp, Fintype.sum_prod_type]
  simp [List.ofFn_succ]

end counting

/-- Of the bytes that stand for a character, four stand for each. -/
lemma card_charOf {c : Char} (hc : c ∈ alphabet) :
    (Finset.univ.filter fun b : UInt8 => b.toNat < drawBound ∧ charOf b = c).card = 4 := by
  have hall : alphabet.all (fun c => decide ((Finset.univ.filter fun b : UInt8 =>
      b.toNat < drawBound ∧ charOf b = c).card = 4)) = true := by
    decide +kernel
  exact of_decide_eq_true (List.all_eq_true.mp hall c hc)

/-- Four bytes stand for each character of the alphabet. -/
lemma card_accepted :
    (Finset.univ.filter fun b : UInt8 => b.toNat < drawBound).card = 4 * alphabet.length := by
  decide +kernel

/-- Eight bytes are passed over. -/
lemma card_passedOver : (Finset.univ.filter fun b : UInt8 => ¬ b.toNat < drawBound).card = 8 := by
  decide +kernel

/-- The first byte of a sequence is accepted or passed over. -/
lemma sum_accepted (taken passedOver : Nat) :
    ∑ b : UInt8, (if b.toNat < drawBound then taken else passedOver) =
      4 * alphabet.length * taken + 8 * passedOver := by
  rw [Finset.sum_ite, Finset.sum_const, Finset.sum_const, card_accepted, card_passedOver,
    smul_eq_mul, smul_eq_mul]

/-- The first byte of a sequence stands for a given character, for another, or is passed over. -/
lemma sum_charOf {c : Char} (hc : c ∈ alphabet) (taken passedOver : Nat) :
    ∑ b : UInt8, (if b.toNat < drawBound then if charOf b = c then taken else 0 else passedOver) =
      4 * taken + 8 * passedOver := by
  rw [Finset.sum_ite, Finset.sum_const, card_passedOver, ← Finset.sum_filter, Finset.filter_filter,
    Finset.sum_const, card_charOf hc, smul_eq_mul, smul_eq_mul]

/-! ## No text is likelier than another -/

/-- How many sequences of `size` bytes have a text for the beginning of what they stand for. -/
def beginnings (size : Nat) (chars : List Char) : Nat :=
  numberOf size fun bytes => chars <+: (accepted bytes).map charOf

/-- How many sequences of `size` bytes stand for at least `n` characters. -/
def sufficient (size n : Nat) : Nat :=
  numberOf size fun bytes => n ≤ (accepted bytes).length

/-- The sequences that stand for enough characters, counted by their first byte. -/
lemma sufficient_succ (size n : Nat) :
    sufficient (size + 1) (n + 1) =
      4 * alphabet.length * sufficient size n + 8 * sufficient size (n + 1) := by
  unfold sufficient
  rw [numberOf_succ, ← sum_accepted]
  refine Finset.sum_congr rfl fun b _ => ?_
  simp only [accepted_cons]
  split_ifs
  · exact numberOf_congr (fun bytes => by simp) size
  · exact numberOf_congr (fun bytes => Iff.rfl) size

/-- The sequences that stand for a text and more, counted by their first byte. -/
lemma beginnings_succ {c : Char} (hc : c ∈ alphabet) (size : Nat) (chars : List Char) :
    beginnings (size + 1) (c :: chars) =
      4 * beginnings size chars + 8 * beginnings size (c :: chars) := by
  unfold beginnings
  rw [numberOf_succ, ← sum_charOf hc]
  refine Finset.sum_congr rfl fun b _ => ?_
  simp only [accepted_cons]
  split_ifs with hb hchar
  · exact numberOf_congr (fun bytes => by simp [hchar, List.cons_prefix_cons]) size
  · exact numberOf_eq_zero (fun bytes => by simp [Ne.symm hchar, List.cons_prefix_cons]) size
  · exact numberOf_congr (fun bytes => Iff.rfl) size

/-- Each text of `n` characters has the same share of the sequences that hold enough bytes. -/
lemma pow_mul_beginnings (size : Nat) {chars : List Char} (h : ∀ c ∈ chars, c ∈ alphabet) :
    alphabet.length ^ chars.length * beginnings size chars = sufficient size chars.length := by
  induction size generalizing chars with
  | zero =>
      unfold beginnings sufficient
      rw [numberOf_zero, numberOf_zero]
      cases chars with
      | nil => rfl
      | cons c chars => simp [accepted]
  | succ size ih =>
      cases chars with
      | nil =>
          unfold beginnings sufficient
          rw [List.length_nil, Nat.pow_zero, Nat.one_mul]
          exact numberOf_congr (fun bytes => by simp) _
      | cons c chars =>
          obtain ⟨hc, hchars⟩ := List.forall_mem_cons.mp h
          have hlater := ih hchars
          have hsame := ih h
          rw [List.length_cons, Nat.pow_succ] at hsame ⊢
          rw [beginnings_succ hc, sufficient_succ, ← hlater, ← hsame]
          ring

/-- Each text of `n` characters comes from as many sequences of `n` bytes that all stand for a
character. -/
lemma numberOf_spellings {chars : List Char} (h : ∀ c ∈ chars, c ∈ alphabet) :
    numberOf chars.length (fun bytes => accepted bytes = bytes ∧ bytes.map charOf = chars) =
      4 ^ chars.length := by
  induction chars with
  | nil =>
      rw [List.length_nil, numberOf_zero]
      rfl
  | cons c chars ih =>
      obtain ⟨hc, hchars⟩ := List.forall_mem_cons.mp h
      rw [List.length_cons, numberOf_succ, Nat.pow_succ, Nat.mul_comm, ← ih hchars]
      have hsum := sum_charOf hc (numberOf chars.length fun bytes =>
        accepted bytes = bytes ∧ bytes.map charOf = chars) 0
      rw [Nat.mul_zero, Nat.add_zero] at hsum
      rw [← hsum]
      refine Finset.sum_congr rfl fun b _ => ?_
      simp only [accepted_cons]
      split_ifs with hb hchar
      · exact numberOf_congr (fun bytes => by simp [hchar]) _
      · exact numberOf_eq_zero (fun bytes => by simp [hchar]) _
      · refine numberOf_eq_zero (fun bytes => ?_) _
        rintro ⟨heq, -⟩
        have hlength := congrArg List.length heq
        have hle : (accepted bytes).length ≤ bytes.length := List.length_filter_le ..
        rw [List.length_cons] at hlength
        omega

/-- Enough bytes always give a text, which is that of the first `n` of them, however the bytes are
cut into reads.  Each text of letters and digits is spelled by the same number of sequences of `n`
bytes, and drawn from the same share of the sequences of any length that give a text at all. -/
theorem draw_uniform (n : Nat) :
    (∀ reads, n ≤ (accepted reads.flatten).length → ∃ used, DrawsFrom n reads used) ∧
      (∀ reads others, reads.flatten = others.flatten → drawn? n reads = drawn? n others) ∧
      (∀ reads chars rest, draw n reads = some (chars, rest) → IsDrawable n chars) ∧
      ∀ chars, IsDrawable n chars →
        numberOf n (fun bytes => accepted bytes = bytes ∧ bytes.map charOf = chars) = 4 ^ n ∧
          ∀ cut : List UInt8 → List (List UInt8), (∀ bytes, (cut bytes).flatten = bytes) →
            ∀ size,
              alphabet.length ^ n * numberOf size (fun bytes => drawn? n (cut bytes) = some chars) =
                numberOf size fun bytes => (drawn? n (cut bytes)).isSome = true := by
  refine ⟨fun _ => exists_drawsFrom, fun reads others heq => ?_, fun _ _ _ => isDrawable_of_draw,
    fun chars hchars => ?_⟩
  · rw [drawn?_eq, drawn?_eq, heq]
  · obtain ⟨rfl, halphanum⟩ := hchars
    have hmem : ∀ c ∈ chars, c ∈ alphabet := fun c hc => mem_alphabet_iff.mpr (halphanum c hc)
    refine ⟨numberOf_spellings hmem, fun cut hcut size => ?_⟩
    have hdrawn : ∀ bytes, drawn? chars.length (cut bytes) = some chars ↔
        chars <+: (accepted bytes).map charOf := by
      intro bytes
      rw [drawn?_eq_some_iff rfl, hcut]
    have hsome : ∀ bytes, (drawn? chars.length (cut bytes)).isSome = true ↔
        chars.length ≤ (accepted bytes).length := by
      intro bytes
      rw [isSome_drawn?_iff, hcut]
    rw [numberOf_congr hdrawn, numberOf_congr hsome]
    exact pow_mul_beginnings size hmem

/-- Two characters that lie in two reads, the first behind bytes that are passed over. -/
theorem draw_uniform_across_reads :
    drawn? 2 [List.replicate 31 248 ++ [62], 61 :: List.replicate 31 0] = some ['A', '9'] ∧
      ∀ size, alphabet.length ^ 2 * numberOf size (fun bytes =>
          drawn? 2 [bytes.take 32, bytes.drop 32] = some ['A', '9']) =
        numberOf size fun bytes => (drawn? 2 [bytes.take 32, bytes.drop 32]).isSome = true := by
  obtain ⟨hexact, -, -, huniform⟩ := draw_uniform 2
  refine ⟨?_, ?_⟩
  · obtain ⟨used, hdraws⟩ :=
      hexact [List.replicate 31 248 ++ [62], 61 :: List.replicate 31 0] (by decide)
    have hchars : ((accepted [List.replicate 31 248 ++ [62],
        61 :: List.replicate 31 0].flatten).take 2).map charOf = ['A', '9'] := by decide
    unfold drawn?
    rw [hdraws.draw_eq, hchars]
    rfl
  · obtain ⟨-, hshare⟩ := huniform ['A', '9'] ⟨rfl, List.all_eq_true.mp (by decide)⟩
    exact hshare (fun bytes => [bytes.take 32, bytes.drop 32]) fun bytes => by simp

end KeyDirectory.Upload
