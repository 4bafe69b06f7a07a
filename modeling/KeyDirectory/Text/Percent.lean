import KeyDirectory.Text.Utf8

/-!
# Percent-encoding

Bytes that a place cannot hold are written as a percent sign and two hexadecimal digits.  What
a place can hold differs; beyond ASCII everything is encoded.
-/

namespace KeyDirectory.Text.Percent

/-- A hexadecimal digit in upper case. -/
def hexDigit (n : Nat) : Char :=
  Char.ofNat (if n < 10 then n + 48 else n + 55)

/-- The value of a hexadecimal digit. -/
def hexValue? (b : UInt8) : Option Nat :=
  let n := b.toNat
  if 48 ≤ n ∧ n ≤ 57 then some (n - 48)
  else if 65 ≤ n ∧ n ≤ 70 then some (n - 55)
  else if 97 ≤ n ∧ n ≤ 102 then some (n - 87)
  else none

/-- The three characters for a byte. -/
def encodeByte (b : UInt8) : List Char :=
  ['%', hexDigit (b.toNat / 16), hexDigit (b.toNat % 16)]

/-- A text with the characters encoded that `escapes` names and those beyond ASCII. -/
def encode (escapes : Char → Bool) (s : List Char) : List Char :=
  s.flatMap fun c =>
    if c.toNat < 128 && !escapes c then [c] else (Utf8.encode [c]).flatMap encodeByte

/-- The bytes with every encoded one decoded; a percent sign without two digits stays. -/
def decode : List UInt8 → List UInt8
  | 37 :: a :: b :: rest =>
    match hexValue? a, hexValue? b with
    | some x, some y => UInt8.ofNat (x * 16 + y) :: decode rest
    | _, _ => 37 :: decode (a :: b :: rest)
  | b :: rest => b :: decode rest
  | [] => []

end KeyDirectory.Text.Percent
