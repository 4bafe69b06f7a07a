import KeyDirectory.Upload.Identity
import Mathlib.Data.FinEnum
import Mathlib.Data.Fintype.Pi

/-!
# Random bytes and the texts drawn from them

What a draw owes to the bytes of a random generator, said without the reads in which they come, and
what it means that no text is likelier than another: among all sequences of bytes of one length,
each text is drawn from equally many.
-/

namespace KeyDirectory.Upload

/-- The bytes that stand for a character, in their order. -/
def accepted (bytes : List UInt8) : List UInt8 :=
  bytes.filter fun b => b.toNat < drawBound

/-- The character of the alphabet that a byte is reduced to. -/
def charOf (b : UInt8) : Char :=
  alphabet.get ⟨b.toNat % alphabet.length, Nat.mod_lt _ (by decide)⟩

/-- The characters that a draw gives, if it gives any. -/
def drawn? (n : Nat) (reads : List (List UInt8)) : Option (List Char) :=
  (draw n reads).map Prod.fst

/-- A text of `n` letters and digits. -/
structure IsDrawable (n : Nat) (chars : List Char) : Prop where
  length_eq : chars.length = n
  isAlphanum : ∀ c ∈ chars, c.isAlphanum = true

/-- A draw of `n` characters that used the first of some reads: it gives the characters of the first
`n` bytes that stand for one, and no fewer reads hold so many of them. -/
structure DrawsFrom (n : Nat) (reads : List (List UInt8)) (used : Nat) : Prop where
  le_length : used ≤ reads.length
  draw_eq : draw n reads =
    some (((accepted reads.flatten).take n).map charOf, reads.drop used)
  enough : n ≤ (accepted (reads.take used).flatten).length
  fewest : ∀ fewer < used, (accepted (reads.take fewer).flatten).length < n

/-- How many of the sequences of `size` bytes have a property. -/
def numberOf (size : Nat) (P : List UInt8 → Prop) [DecidablePred P] : Nat :=
  (Finset.univ.filter fun bytes : Fin size → UInt8 => P (List.ofFn bytes)).card

end KeyDirectory.Upload
