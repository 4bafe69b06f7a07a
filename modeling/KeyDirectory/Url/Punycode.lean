import KeyDirectory.Text.Number

/-!
# Punycode

The ASCII form of a label with other characters: the ASCII characters first, then for each
other character, in ascending order, the distance from the insertion before, as a number whose
digits have weights that adapt to the distances seen.
-/

namespace KeyDirectory.Url.Punycode

/-- The character of a digit below thirty-six. -/
def digitChar (d : Nat) : Char :=
  Char.ofNat (if d < 26 then 97 + d else 22 + d)

/-- The digit of a character, of either case. -/
def digitValue? (c : Char) : Option Nat :=
  let n := c.toNat
  if 97 ≤ n ∧ n ≤ 122 then some (n - 97)
  else if 65 ≤ n ∧ n ≤ 90 then some (n - 65)
  else if 48 ≤ n ∧ n ≤ 57 then some (n - 22)
  else none

/-- The number of digits that do not end a number, at the position `k`. -/
def threshold (k bias : Nat) : Nat :=
  max 1 (min 26 (k - bias))

/-- Makes a distance small, and counts how often that took. -/
def shrinkDistance (delta steps : Nat) : Nat × Nat :=
  if 455 < delta then shrinkDistance (delta / 35) (steps + 36) else (delta, steps)
termination_by delta
decreasing_by exact Nat.div_lt_self (by omega) (by omega)

/-- The bias after an insertion at the given distance into `count` characters. -/
def adapt (delta count : Nat) (isFirst : Bool) : Nat :=
  let halved := if isFirst then delta / 700 else delta / 2
  let (small, steps) := shrinkDistance (halved + halved / count) 0
  steps + 36 * small / (small + 38)

/-! ## Writing -/

/-- The digits of a number; `k` grows with the position. -/
def writeNumber (bias k q : Nat) : List Char :=
  let t := threshold k bias
  if q < t then [digitChar q]
  else digitChar (t + (q - t) % (36 - t)) :: writeNumber bias (k + 36) ((q - t) / (36 - t))
termination_by q
decreasing_by
  rename_i h
  have ht : 1 ≤ threshold k bias := by unfold threshold; omega
  have hle : (q - threshold k bias) / (36 - threshold k bias) ≤ q - threshold k bias :=
    Nat.div_le_self _ _
  simp only [t, Nat.not_lt] at h
  omega

/-- The writer between two characters. -/
structure Writing where
  written : List Char
  delta : Nat
  bias : Nat
  /-- The number of characters that are in place. -/
  placed : Nat

/-- Passes one character of the label while the character `m` is inserted. -/
def Writing.pass (basic m : Nat) (w : Writing) (c : Char) : Writing :=
  if c.toNat < m then { w with delta := w.delta + 1 }
  else if c.toNat = m then
    ⟨w.written ++ writeNumber w.bias 36 w.delta, 0,
      adapt w.delta (w.placed + 1) (w.placed = basic), w.placed + 1⟩
  else w

/-- Inserts the given characters, in ascending order; `next` is the least not inserted yet. -/
def Writing.insertAll (label : List Char) (basic : Nat) (w : Writing) (next : Nat) :
    List Nat → Writing
  | [] => w
  | m :: rest =>
    let w := { w with delta := w.delta + (m - next) * (w.placed + 1) }
    let w := label.foldl (Writing.pass basic m) w
    Writing.insertAll label basic { w with delta := w.delta + 1 } (m + 1) rest

/-- The ASCII form of a label. -/
def encode (label : List Char) : List Char :=
  let basic := label.filter fun c => c.toNat < 128
  let others := (label.filter fun c => 128 ≤ c.toNat).map Char.toNat
  let ascending := (others.mergeSort).eraseDups
  let w := Writing.insertAll label basic.length ⟨[], 0, 72, basic.length⟩ 128 ascending
  basic ++ (if basic.isEmpty then [] else ['-']) ++ w.written

/-! ## Reading -/

/-- Reads a number and returns what is left; neither the sum nor the weights of digits may go
beyond thirty-two bits. -/
def readNumber (bias : Nat) : List Char → Nat → Nat → Nat → Option (Nat × List Char)
  | [], _, _, _ => none
  | c :: rest, k, weight, sum => do
    let d ← digitValue? c
    let sum := sum + d * weight
    let t := threshold k bias
    if Text.maxWord32 < sum then none
    else if d < t then some (sum, rest)
    else if Text.maxWord32 < weight * (36 - t) then none
    else readNumber bias rest (k + 36) (weight * (36 - t)) sum

/-- Reads insertions; the fuel is the number of characters left. -/
def readInsertions (fuel next position bias : Nat) (label : List Char) (s : List Char) :
    Option (List Char) :=
  match fuel, s with
  | _, [] => some label
  | 0, _ => none
  | fuel + 1, s => do
    let (sum, rest) ← readNumber bias s 36 1 position
    let count := label.length + 1
    let code := next + sum / count
    let place := sum % count
    if code > 0x10FFFF ∨ (0xD800 ≤ code ∧ code < 0xE000) then none
    else
      let label := label.take place ++ Char.ofNat code :: label.drop place
      readInsertions fuel code (place + 1) (adapt (sum - position) count (position = 0 && next = 128))
        label rest

/-- The part before the last hyphen and the part after it. -/
def cutAtLastHyphen (s : List Char) : List Char × List Char :=
  let after := (s.reverse.takeWhile (· ≠ '-')).reverse
  if after.length = s.length then ([], s) else (s.take (s.length - after.length - 1), after)

/-- The label of an ASCII form. -/
def decode? (s : List Char) : Option (List Char) :=
  let (basic, rest) := cutAtLastHyphen s
  readInsertions rest.length 128 0 72 basic rest

end KeyDirectory.Url.Punycode
