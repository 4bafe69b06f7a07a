import KeyDirectory.Crypto.Words

/-!
# WebSocket frames

The units in which a WebSocket writes: a header, which says what the frame is for and how long
it is, and a payload.  Clients disguise the payload with a mask that stands in the header;
servers do not.
-/

namespace KeyDirectory.WebSocket

/-- What a frame is for. -/
inductive Opcode where
  /-- A further part of the message that an earlier frame began. -/
  | continuation
  | text
  | binary
  | close
  | ping
  | pong
  | unassigned (code : Nat)
  deriving DecidableEq, Repr

/-- The purpose that a number stands for. -/
def Opcode.ofCode : Nat → Opcode
  | 0 => continuation
  | 1 => text
  | 2 => binary
  | 8 => close
  | 9 => ping
  | 10 => pong
  | code => unassigned code

/-- The number of a purpose. -/
def Opcode.code : Opcode → Nat
  | continuation => 0
  | text => 1
  | binary => 2
  | close => 8
  | ping => 9
  | pong => 10
  | unassigned code => code

/-! ## Masks -/

/-- The four bytes that disguise a payload. -/
structure Mask where
  first : UInt8
  second : UInt8
  third : UInt8
  fourth : UInt8
  deriving DecidableEq, Repr

namespace Mask

/-- The mask as it stands one byte further. -/
def turned (m : Mask) : Mask :=
  ⟨m.second, m.third, m.fourth, m.first⟩

/-- A payload with the disguise put on or, which is the same, taken off. -/
def apply (m : Mask) : List UInt8 → List UInt8
  | [] => []
  | b :: rest => (b ^^^ m.first) :: m.turned.apply rest

/-- The bytes of a mask. -/
def bytes (m : Mask) : List UInt8 :=
  [m.first, m.second, m.third, m.fourth]

end Mask

/-! ## Headers -/

/-- What stands before a payload. -/
structure Header where
  /-- Whether the message ends with this frame. -/
  isFinal : Bool
  /-- Three bits that mean nothing unless both sides agreed on a meaning. -/
  reserved : Nat
  opcode : Opcode
  mask : Option Mask
  /-- The number of bytes of the payload. -/
  length : Nat
  deriving DecidableEq, Repr

namespace Header

/-- The length in its shortest form: the number in the second byte of the header, and the bytes
that follow. -/
def lengthBytes (length : Nat) : Nat × List UInt8 :=
  if length < 126 then (length, [])
  else if length < 65536 then (126, [UInt8.ofNat (length / 256), UInt8.ofNat length])
  else (127, Crypto.bigEndian64 (UInt64.ofNat length))

/-- The bytes of a header. -/
def encode (h : Header) : List UInt8 :=
  let (short, long) := lengthBytes h.length
  let first := (if h.isFinal then 128 else 0) + h.reserved * 16 + h.opcode.code
  let second := (if h.mask.isSome then 128 else 0) + short
  UInt8.ofNat first :: UInt8.ofNat second :: long ++
    match h.mask with
    | some mask => mask.bytes
    | none => []

/-- The number that bytes stand for, the most significant first. -/
def numberOf (bytes : List UInt8) : Nat :=
  bytes.foldl (fun n b => n * 256 + b.toNat) 0

/-- The first bytes of a text, when there are enough. -/
def takeExactly? (n : Nat) (bytes : List UInt8) : Option (List UInt8 × List UInt8) :=
  if n ≤ bytes.length then some (bytes.take n, bytes.drop n) else none

/-- Reads the length, of which the second byte of the header tells the form; every form may
hold any number. -/
def readLength? (short : Nat) (bytes : List UInt8) : Option (Nat × List UInt8) :=
  if short < 126 then some (short, bytes)
  else
    (takeExactly? (if short = 126 then 2 else 8) bytes).map fun (digits, rest) =>
      (numberOf digits, rest)

/-- Reads a mask. -/
def readMask? : List UInt8 → Option (Mask × List UInt8)
  | a :: b :: c :: d :: rest => some (⟨a, b, c, d⟩, rest)
  | _ => none

/-- Reads a header, when all of it is there. -/
def read? : List UInt8 → Option (Header × List UInt8)
  | first :: second :: rest => do
    let (length, rest) ← readLength? (second.toNat % 128) rest
    let (mask, rest) ←
      if second.toNat < 128 then some (none, rest)
      else (readMask? rest).map fun (mask, rest) => (some mask, rest)
    some (⟨128 ≤ first.toNat, first.toNat / 16 % 8, Opcode.ofCode (first.toNat % 16), mask, length⟩,
      rest)
  | _ => none

end Header

/-! ## Frames -/

/-- A frame, its payload without disguise. -/
structure Frame where
  isFinal : Bool
  reserved : Nat
  opcode : Opcode
  mask : Option Mask
  payload : List UInt8
  deriving DecidableEq, Repr

namespace Frame

/-- The header of a frame. -/
def header (f : Frame) : Header :=
  ⟨f.isFinal, f.reserved, f.opcode, f.mask, f.payload.length⟩

/-- A payload under the mask of its header. -/
def disguise (mask : Option Mask) (payload : List UInt8) : List UInt8 :=
  match mask with
  | some mask => mask.apply payload
  | none => payload

/-- The bytes of a frame. -/
def encode (f : Frame) : List UInt8 :=
  f.header.encode ++ disguise f.mask f.payload

/-- What bytes hold at their beginning. -/
inductive Beginning where
  /-- Not all of a frame yet. -/
  | incomplete
  /-- A header with a number that stands for no purpose. -/
  | unassigned
  /-- A header that announces a longer payload than is allowed. -/
  | tooLong
  | frame (f : Frame) (rest : List UInt8)
  deriving DecidableEq, Repr

/-- Reads a frame.  A header is judged before its payload has come. -/
def read (maxLength : Nat) (bytes : List UInt8) : Beginning :=
  match Header.read? bytes with
  | none => .incomplete
  | some (h, rest) =>
    match h.opcode with
    | .unassigned _ => .unassigned
    | opcode =>
      if maxLength < h.length then .tooLong
      else
        match Header.takeExactly? h.length rest with
        | none => .incomplete
        | some (payload, rest) =>
          .frame ⟨h.isFinal, h.reserved, opcode, h.mask, disguise h.mask payload⟩ rest

end Frame

end KeyDirectory.WebSocket
