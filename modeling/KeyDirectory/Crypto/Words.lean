/-!
# Words and bytes

Fixed-width words written into bytes in either order, and read back, as the hash functions and
the wire formats of this library need them.
-/

namespace KeyDirectory.Crypto

/-- The four bytes of a word, most significant first. -/
def bigEndian32 (w : UInt32) : List UInt8 :=
  [(w >>> 24).toUInt8, (w >>> 16).toUInt8, (w >>> 8).toUInt8, w.toUInt8]

/-- The eight bytes of a word, most significant first. -/
def bigEndian64 (w : UInt64) : List UInt8 :=
  [(w >>> 56).toUInt8, (w >>> 48).toUInt8, (w >>> 40).toUInt8, (w >>> 32).toUInt8,
    (w >>> 24).toUInt8, (w >>> 16).toUInt8, (w >>> 8).toUInt8, w.toUInt8]

/-- The four bytes of a word, least significant first. -/
def littleEndian32 (w : UInt32) : List UInt8 :=
  (bigEndian32 w).reverse

/-- The eight bytes of a word, least significant first. -/
def littleEndian64 (w : UInt64) : List UInt8 :=
  (bigEndian64 w).reverse

/-- Words of four bytes each, most significant first; a rest shorter than that is dropped. -/
def words32 : List UInt8 → List UInt32
  | a :: b :: c :: d :: rest =>
    ((a.toUInt32 <<< 24) ||| (b.toUInt32 <<< 16) ||| (c.toUInt32 <<< 8) ||| d.toUInt32) ::
      words32 rest
  | _ => []

/-- Words of eight bytes each, least significant first; a rest shorter than that is dropped. -/
def words64 : List UInt8 → List UInt64
  | a :: b :: c :: d :: e :: f :: g :: h :: rest =>
    (a.toUInt64 ||| (b.toUInt64 <<< 8) ||| (c.toUInt64 <<< 16) ||| (d.toUInt64 <<< 24) |||
      (e.toUInt64 <<< 32) ||| (f.toUInt64 <<< 40) ||| (g.toUInt64 <<< 48) |||
      (h.toUInt64 <<< 56)) :: words64 rest
  | _ => []

/-- A word turned left. -/
@[inline] def rotateLeft32 (w : UInt32) (n : UInt32) : UInt32 :=
  (w <<< n) ||| (w >>> (32 - n))

/-- A word turned right. -/
@[inline] def rotateRight32 (w : UInt32) (n : UInt32) : UInt32 :=
  (w >>> n) ||| (w <<< (32 - n))

/-- A word turned right. -/
@[inline] def rotateRight64 (w : UInt64) (n : UInt64) : UInt64 :=
  (w >>> n) ||| (w <<< (64 - n))

/-- The list cut into runs of `size` elements, the last one possibly shorter. -/
def chunks (size : Nat) (xs : List α) : List (List α) :=
  match xs with
  | [] => []
  | x :: rest =>
    if size = 0 then [x :: rest]
    else (x :: rest.take (size - 1)) :: chunks size (rest.drop (size - 1))
  termination_by xs.length
  decreasing_by
    rw [List.length_drop, List.length_cons]
    omega

/-- The message of a hash over blocks of sixty-four bytes: a one bit, zeros, and the length in
bits as eight bytes. -/
def padBlocks64 (message : List UInt8) : List UInt8 :=
  let zeros := (119 - message.length % 64) % 64
  message ++ 0x80 :: List.replicate zeros 0 ++ bigEndian64 (UInt64.ofNat (message.length * 8))

end KeyDirectory.Crypto
