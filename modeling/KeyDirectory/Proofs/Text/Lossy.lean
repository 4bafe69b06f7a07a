import KeyDirectory.Proofs.Text.Utf8

/-!
# The lossy reading goes by lines

A character that is begun owes only bytes beyond ASCII.  So an ASCII byte always ends what stands
before it, well-formed or not, and what follows it is read as if nothing stood before.

* `Reader.after`, `foldl_take_after`: what was written earlier changes nothing.
* `Reader.Follows`, `follows_foldl`: what is true of a reader after any bytes.
* `decodeLossy_append_cons`: an ASCII byte cuts a text in two.
* `mem_of_mem_decodeLossy`: a character is read only where its bytes stand.
-/

namespace KeyDirectory.Text.Utf8

/-! ## What was written earlier -/

/-- The reader with more written down before all that it wrote. -/
def Reader.after (r : Reader) (written : List (Option Char)) : Reader :=
  ⟨r.written ++ written, r.begun⟩

/-- Where no character has begun, the text before a byte does not matter to it. -/
lemma fresh_after (recent written : List (Option Char)) (b : UInt8) :
    Reader.fresh (recent ++ written) b = (Reader.fresh recent b).after written := by
  unfold Reader.fresh Reader.after
  cases lead b <;> rfl

/-- A byte is taken the same way whatever text stands before. -/
lemma take_after (r : Reader) (written : List (Option Char)) (b : UInt8) :
    (r.after written).take b = (r.take b).after written := by
  obtain ⟨recent, begun⟩ := r
  cases begun with
  | none => exact fresh_after recent written b
  | some s =>
      simp only [Reader.take, Reader.after]
      split_ifs
      · rfl
      · rfl
      · exact fresh_after (none :: recent) written b

/-- Bytes are taken the same way whatever text stands before. -/
lemma foldl_take_after (bytes : List UInt8) (r : Reader) (written : List (Option Char)) :
    bytes.foldl Reader.take (r.after written) = (bytes.foldl Reader.take r).after written := by
  induction bytes generalizing r with
  | nil => rfl
  | cons b bytes ih => rw [List.foldl_cons, List.foldl_cons, take_after, ih]

/-- The end of the bytes is taken the same way whatever text stands before. -/
lemma finish_after (r : Reader) (written : List (Option Char)) :
    (r.after written).finish = written.reverse ++ r.finish := by
  obtain ⟨recent, begun⟩ := r
  cases begun <;> simp [Reader.finish, Reader.after]

/-! ## A reader after any bytes -/

/-- Each character that the reader wrote down stands in the bytes, and so do the first bytes of the
one that it has begun, which owes only bytes beyond ASCII. -/
structure Reader.Follows (bytes : List UInt8) (r : Reader) : Prop where
  written : ∀ c, some c ∈ r.written → String.utf8EncodeChar c ⊆ bytes
  begun : ∀ s, r.begun = some s → 0x80 ≤ s.low ∧ ∃ taken ⊆ bytes, Begins s.owed taken s

/-- The byte that goes on a begun character is not ASCII. -/
lemma low_of_lead {b : UInt8} {s : Begun} (h : lead b = .begun s) : 0x80 ≤ s.low := by
  rcases lead_cases b with ⟨-, hb⟩ | ⟨-, -, hb⟩ | ⟨-, -, hb⟩ | ⟨-, -, hb⟩ | hb
  · exact absurd (hb.symm.trans h) (by simp)
  · obtain rfl := Lead.begun.inj (hb.symm.trans h)
    exact UInt8.le_refl _
  · obtain rfl := Lead.begun.inj (hb.symm.trans h)
    dsimp only
    split_ifs <;> decide
  · obtain rfl := Lead.begun.inj (hb.symm.trans h)
    dsimp only
    split_ifs <;> decide
  · exact absurd (hb.symm.trans h) (by simp)

namespace Reader.Follows

variable {bytes : List UInt8} {written : List (Option Char)} {b : UInt8}

/-- Where no character has begun, a byte keeps the reader to what the bytes say. -/
lemma fresh (hwritten : ∀ c, some c ∈ written → String.utf8EncodeChar c ⊆ bytes) :
    (Reader.fresh written b).Follows (bytes ++ [b]) := by
  have hmore : ∀ c, some c ∈ written → String.utf8EncodeChar c ⊆ bytes ++ [b] := fun c hc =>
    List.subset_append_of_subset_left _ (hwritten c hc)
  unfold Reader.fresh
  split
  case h_1 c hlead =>
    refine ⟨fun c' hc' => ?_, nofun⟩
    rcases List.mem_cons.mp hc' with hc' | hc'
    · obtain rfl := Option.some.inj hc'
      rw [encodeChar_of_lead hlead]
      exact List.subset_append_right _ _
    · exact hmore c' hc'
  case h_2 s hlead =>
    refine ⟨hmore, fun s' hs' => ?_⟩
    obtain rfl := Option.some.inj hs'
    exact ⟨low_of_lead hlead, [b], List.subset_append_right _ _, begins_of_lead hlead⟩
  case h_3 =>
    refine ⟨fun c hc => hmore c ?_, nofun⟩
    simpa using hc

/-- **One byte.** -/
lemma take {r : Reader} (h : r.Follows bytes) (b : UInt8) : (r.take b).Follows (bytes ++ [b]) := by
  obtain ⟨written, begun⟩ := r
  obtain ⟨hwritten, hbegun⟩ := h
  cases begun with
  | none => exact fresh hwritten
  | some s =>
      obtain ⟨-, taken, htaken, hbegins⟩ := hbegun s rfl
      have hbytes : taken ++ [b] ⊆ bytes ++ [b] :=
        List.append_subset.mpr
          ⟨List.subset_append_of_subset_left _ htaken, List.subset_append_right _ _⟩
      by_cases hrange : s.low ≤ b ∧ b ≤ s.high
      · obtain ⟨hlow, hhigh⟩ := hrange
        have hmore : ∀ c, some c ∈ written → String.utf8EncodeChar c ⊆ bytes ++ [b] := fun c hc =>
          List.subset_append_of_subset_left _ (hwritten c hc)
        rcases howed : s.owed with _ | _ | owed <;> rw [howed] at hbegins
        · exact absurd hbegins (by simp [Begins])
        · rw [take_last hlow hhigh (by omega)]
          refine ⟨fun c hc => ?_, fun s' hs' => by cases hs'⟩
          rcases List.mem_cons.mp hc with hc | hc
          · rw [Option.some.inj hc, ← hbegins b hlow hhigh]
            exact hbytes
          · exact hmore c hc
        · rw [take_more hlow hhigh (by omega), howed]
          refine ⟨hmore, fun s' hs' => ?_⟩
          obtain rfl := Option.some.inj hs'
          exact ⟨UInt8.le_refl _, taken ++ [b], hbytes, hbegins b hlow hhigh⟩
      · -- A byte out of range is the first one of what follows.
        rw [Reader.take]
        simp only [if_neg hrange]
        refine fresh fun c hc => hwritten c ?_
        simpa using hc

end Reader.Follows

/-- **A run over bytes.** -/
lemma follows_foldl (bytes : List UInt8) :
    (bytes.foldl Reader.take Reader.start).Follows bytes := by
  induction bytes using List.reverseRecOn with
  | nil => exact ⟨nofun, nofun⟩
  | append_singleton bytes b ih =>
      rw [List.foldl_append, List.foldl_cons, List.foldl_nil]
      exact ih.take b

/-! ## ASCII bytes -/

/-- An ASCII byte is written down as its character, after what the reader would have ended with. -/
lemma take_ascii {bytes : List UInt8} {r : Reader} (h : r.Follows bytes) {b : UInt8}
    (hb : b.toNat < 0x80) :
    r.take b = Reader.start.after (some (Char.ofNat b.toNat) :: r.finish.reverse) := by
  obtain ⟨written, begun⟩ := r
  cases begun with
  | none => simp [Reader.take, Reader.fresh, lead_one hb, Reader.finish, Reader.after, Reader.start]
  | some s =>
      have hlow := (h.begun s rfl).1
      have hrange : ¬ (s.low ≤ b ∧ b ≤ s.high) := by
        rintro ⟨hle, -⟩
        have hnumber : 0x80 ≤ b.toNat := UInt8.le_iff_toNat_le.mp (UInt8.le_trans hlow hle)
        omega
      simp [Reader.take, if_neg hrange, Reader.fresh, lead_one hb, Reader.finish, Reader.after,
        Reader.start]

/-- An ASCII byte cuts a text in two: the lossy reading takes each part for itself. -/
theorem decodeLossy_append_cons (a : List UInt8) {b : UInt8} (hb : b.toNat < 0x80)
    (rest : List UInt8) :
    decodeLossy (a ++ b :: rest) = decodeLossy a ++ Char.ofNat b.toNat :: decodeLossy rest := by
  have hpieces : decodePieces (a ++ b :: rest) =
      decodePieces a ++ some (Char.ofNat b.toNat) :: decodePieces rest := by
    unfold decodePieces
    rw [List.foldl_append, List.foldl_cons, take_ascii (follows_foldl a) hb, foldl_take_after,
      finish_after]
    simp
  rw [decodeLossy, hpieces]
  simp [decodeLossy]

/-- A character other than the replacement character is read only where its bytes stand. -/
lemma mem_of_mem_decodeLossy {bytes : List UInt8} {c : Char} (h : c ∈ decodeLossy bytes)
    (hc : c ≠ '\uFFFD') : String.utf8EncodeChar c ⊆ bytes := by
  obtain ⟨piece, hpiece, hchar⟩ := List.mem_map.mp h
  cases piece with
  | none => exact absurd hchar.symm hc
  | some c' =>
      obtain rfl : c' = c := hchar
      refine (follows_foldl bytes).written c' ?_
      rw [decodePieces, Reader.finish, List.mem_reverse] at hpiece
      split at hpiece
      · exact hpiece
      · simpa using hpiece

end KeyDirectory.Text.Utf8
