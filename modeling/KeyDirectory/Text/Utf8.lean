/-!
# UTF-8

A reader that takes one byte at a time and writes a piece for each character and for each
maximal stretch of bytes that no character starts with.  The strict and the lossy decoding
are two readings of the same pieces: the strict one refuses a text with a bad stretch, the
lossy one puts the replacement character in its place.
-/

namespace KeyDirectory.Text.Utf8

/-- A character whose first bytes were read: the bits so far, the bytes still owed, and the
least and greatest byte that may come next. -/
structure Begun where
  bits : Nat
  owed : Nat
  low : UInt8
  high : UInt8
  deriving DecidableEq, Repr

/-- What a byte does between characters. -/
inductive Lead where
  | whole (c : Char)
  | begun (b : Begun)
  | bad
  deriving DecidableEq, Repr

/-- The reading of a byte between characters. -/
def lead (b : UInt8) : Lead :=
  if b < 0x80 then .whole (Char.ofNat b.toNat)
  else if b < 0xC2 then .bad
  else if b < 0xE0 then .begun ⟨b.toNat - 0xC0, 1, 0x80, 0xBF⟩
  else if b < 0xF0 then
    .begun ⟨b.toNat - 0xE0, 2, if b = 0xE0 then 0xA0 else 0x80, if b = 0xED then 0x9F else 0xBF⟩
  else if b < 0xF5 then
    .begun ⟨b.toNat - 0xF0, 3, if b = 0xF0 then 0x90 else 0x80, if b = 0xF4 then 0x8F else 0xBF⟩
  else .bad

/-- The reader between two bytes: what was written, newest first, and the character begun. -/
structure Reader where
  written : List (Option Char)
  begun : Option Begun
  deriving DecidableEq, Repr

/-- The reader before any byte. -/
def Reader.start : Reader := ⟨[], none⟩

/-- Takes a byte while no character is begun. -/
def Reader.fresh (written : List (Option Char)) (b : UInt8) : Reader :=
  match lead b with
  | .whole c => ⟨some c :: written, none⟩
  | .begun s => ⟨written, some s⟩
  | .bad => ⟨none :: written, none⟩

/-- Takes one byte.  A byte that cannot continue the character begun ends a bad stretch and is
read again as the first byte of what follows. -/
def Reader.take (r : Reader) (b : UInt8) : Reader :=
  match r.begun with
  | none => Reader.fresh r.written b
  | some s =>
    if s.low ≤ b ∧ b ≤ s.high then
      let bits := s.bits * 64 + (b.toNat - 0x80)
      if s.owed ≤ 1 then ⟨some (Char.ofNat bits) :: r.written, none⟩
      else ⟨r.written, some ⟨bits, s.owed - 1, 0x80, 0xBF⟩⟩
    else Reader.fresh (none :: r.written) b

/-- What was written once the bytes end: a character cut short is a bad stretch. -/
def Reader.finish (r : Reader) : List (Option Char) :=
  (match r.begun with
    | none => r.written
    | some _ => none :: r.written).reverse

/-- The characters of a byte string, `none` standing for a bad stretch. -/
def decodePieces (bytes : List UInt8) : List (Option Char) :=
  (bytes.foldl Reader.take Reader.start).finish

/-- The text of a byte string with U+FFFD for each bad stretch. -/
def decodeLossy (bytes : List UInt8) : List Char :=
  (decodePieces bytes).map (·.getD '\uFFFD')

/-- The text of a byte string that is UTF-8 throughout. -/
def decode? (bytes : List UInt8) : Option (List Char) :=
  let pieces := decodePieces bytes
  if pieces.all Option.isSome then some (pieces.filterMap id) else none

/-- Whether more bytes can make a byte string UTF-8: only its end may be cut short. -/
def isBeginning (bytes : List UInt8) : Bool :=
  (bytes.foldl Reader.take Reader.start).written.all Option.isSome

/-- The bytes of a text. -/
def encode (s : List Char) : List UInt8 :=
  s.flatMap String.utf8EncodeChar

/-- The bytes of a string. -/
def encodeText (s : String) : List UInt8 :=
  s.toUTF8.toList

/-- The string of a byte string that is UTF-8 throughout. -/
def decodeText? (bytes : List UInt8) : Option String :=
  (decode? bytes).map String.ofList

end KeyDirectory.Text.Utf8
