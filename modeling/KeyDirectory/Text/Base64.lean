/-!
# Base64

The standard alphabet, with padding and without.  Reading is strict: the padding must be there
(or, in the unpadded form, must not), and the bits that no byte uses must be zero, so each byte
string has one written form in each of the two.
-/

namespace KeyDirectory.Text.Base64

/-- The sixty-four digits in order of value. -/
def alphabet : List Char :=
  "ABCDEFGHIJKLMNOPQRSTUVWXYZabcdefghijklmnopqrstuvwxyz0123456789+/".toList

/-- The digit of a value below 64. -/
def digit (n : Nat) : Char :=
  if n < 26 then Char.ofNat (65 + n)
  else if n < 52 then Char.ofNat (71 + n)
  else if n < 62 then Char.ofNat (n - 4)
  else if n = 62 then '+'
  else '/'

/-- The value of a digit. -/
def digitValue? (c : Char) : Option Nat :=
  let n := c.toNat
  if 65 ≤ n ∧ n ≤ 90 then some (n - 65)
  else if 97 ≤ n ∧ n ≤ 122 then some (n - 71)
  else if 48 ≤ n ∧ n ≤ 57 then some (n + 4)
  else if c = '+' then some 62
  else if c = '/' then some 63
  else none

/-- The four digits of three bytes. -/
def quartet (a b c : UInt8) : List Char :=
  let n := a.toNat * 65536 + b.toNat * 256 + c.toNat
  [digit (n / 262144), digit (n / 4096 % 64), digit (n / 64 % 64), digit (n % 64)]

/-- The three digits of two bytes. -/
def triplet (a b : UInt8) : List Char :=
  let n := a.toNat * 1024 + b.toNat * 4
  [digit (n / 4096), digit (n / 64 % 64), digit (n % 64)]

/-- The two digits of one byte. -/
def pair (a : UInt8) : List Char :=
  [digit (a.toNat / 4), digit (a.toNat % 4 * 16)]

/-- The padded form. -/
def encode : List UInt8 → List Char
  | [] => []
  | [a] => pair a ++ ['=', '=']
  | [a, b] => triplet a b ++ ['=']
  | a :: b :: c :: rest => quartet a b c ++ encode rest

/-- The form without padding. -/
def encodeUnpadded : List UInt8 → List Char
  | [] => []
  | [a] => pair a
  | [a, b] => triplet a b
  | a :: b :: c :: rest => quartet a b c ++ encodeUnpadded rest

/-- One byte from two digits whose four spare bits are zero. -/
def readPair (a b : Char) : Option (List UInt8) := do
  let x ← digitValue? a
  let y ← digitValue? b
  if y % 16 = 0 then some [UInt8.ofNat (x * 4 + y / 16)] else none

/-- Two bytes from three digits whose two spare bits are zero. -/
def readTriplet (a b c : Char) : Option (List UInt8) := do
  let x ← digitValue? a
  let y ← digitValue? b
  let z ← digitValue? c
  if z % 4 = 0 then some [UInt8.ofNat (x * 4 + y / 16), UInt8.ofNat (y % 16 * 16 + z / 4)] else none

/-- Three bytes from four digits. -/
def readQuartet (a b c d : Char) : Option (List UInt8) := do
  let x ← digitValue? a
  let y ← digitValue? b
  let z ← digitValue? c
  let w ← digitValue? d
  some [UInt8.ofNat (x * 4 + y / 16), UInt8.ofNat (y % 16 * 16 + z / 4),
    UInt8.ofNat (z % 4 * 64 + w)]

/-- Reads the padded form. -/
def decode? : List Char → Option (List UInt8)
  | [] => some []
  | [a, b, '=', '='] => readPair a b
  | [a, b, c, '='] => readTriplet a b c
  | a :: b :: c :: d :: rest => do
    let bytes ← readQuartet a b c d
    let more ← decode? rest
    some (bytes ++ more)
  | _ => none

/-- Reads the form without padding. -/
def decodeUnpadded? : List Char → Option (List UInt8)
  | [] => some []
  | [a, b] => readPair a b
  | [a, b, c] => readTriplet a b c
  | a :: b :: c :: d :: rest => do
    let bytes ← readQuartet a b c d
    let more ← decodeUnpadded? rest
    some (bytes ++ more)
  | [_] => none

end KeyDirectory.Text.Base64
