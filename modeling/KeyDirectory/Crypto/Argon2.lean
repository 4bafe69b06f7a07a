import KeyDirectory.Crypto.Blake2b

/-!
# Argon2

The memory-hard password function of RFC 9106 in its three variants and two versions.  Memory
is an array of blocks of one kibibyte; a block is kept as eight squares of sixteen words, the
form in which the compression works on it.
-/

namespace KeyDirectory.Crypto.Argon2

/-- How the blocks to mix are chosen. -/
inductive Variant where
  /-- By the contents of the memory. -/
  | dataDependent
  /-- By position alone. -/
  | dataIndependent
  /-- By position in the first half of the first pass, by contents afterwards. -/
  | hybrid
  deriving DecidableEq, Repr

/-- The number that stands for a variant in the input of the function. -/
def Variant.code : Variant → UInt32
  | dataDependent => 0
  | dataIndependent => 1
  | hybrid => 2

/-- What a pass after the first does with the block it finds. -/
inductive Version where
  /-- Version 16 overwrites it. -/
  | overwriting
  /-- Version 19 mixes it in. -/
  | mixing
  deriving DecidableEq, Repr

/-- The number of a version. -/
def Version.number : Version → Nat
  | overwriting => 16
  | mixing => 19

/-- The cost of a computation: memory in kibibytes, passes over it, and lanes. -/
structure Cost where
  memory : Nat
  passes : Nat
  lanes : Nat
  deriving DecidableEq, Repr

/-- The number of words of thirty-two bits. -/
def wordCount : Nat := 4294967296

/-- The costs the function is defined for. -/
def Cost.isValid (c : Cost) : Bool :=
  8 ≤ c.memory && 8 * c.lanes ≤ c.memory && c.memory < wordCount && 1 ≤ c.passes &&
    c.passes < wordCount && 1 ≤ c.lanes && c.lanes < 16777216

/-! ## Blocks -/

/-- A block of one kibibyte. -/
structure Block where
  r0 : Square
  r1 : Square
  r2 : Square
  r3 : Square
  r4 : Square
  r5 : Square
  r6 : Square
  r7 : Square
  deriving DecidableEq, Repr

/-- The square of zeros. -/
def zeroSquare : Square := ⟨0, 0, 0, 0, 0, 0, 0, 0, 0, 0, 0, 0, 0, 0, 0, 0⟩

/-- The block of zeros. -/
def zeroBlock : Block :=
  ⟨zeroSquare, zeroSquare, zeroSquare, zeroSquare, zeroSquare, zeroSquare, zeroSquare, zeroSquare⟩

/-- The block of a list of words. -/
def Block.ofWords (ws : List UInt64) : Block :=
  let square (i : Nat) := Square.ofWords (ws.drop (16 * i))
  ⟨square 0, square 1, square 2, square 3, square 4, square 5, square 6, square 7⟩

/-- The block of a list of bytes. -/
def Block.ofBytes (bytes : List UInt8) : Block :=
  Block.ofWords (words64 bytes)

/-- The words of a block in order. -/
def Block.words (b : Block) : List UInt64 :=
  [b.r0, b.r1, b.r2, b.r3, b.r4, b.r5, b.r6, b.r7].flatMap Square.words

/-- Two squares combined bit by bit. -/
def xorSquare (s t : Square) : Square :=
  ⟨s.w0 ^^^ t.w0, s.w1 ^^^ t.w1, s.w2 ^^^ t.w2, s.w3 ^^^ t.w3, s.w4 ^^^ t.w4, s.w5 ^^^ t.w5,
    s.w6 ^^^ t.w6, s.w7 ^^^ t.w7, s.w8 ^^^ t.w8, s.w9 ^^^ t.w9, s.w10 ^^^ t.w10,
    s.w11 ^^^ t.w11, s.w12 ^^^ t.w12, s.w13 ^^^ t.w13, s.w14 ^^^ t.w14, s.w15 ^^^ t.w15⟩

/-- Two blocks combined bit by bit. -/
def Block.xor (x y : Block) : Block :=
  ⟨xorSquare x.r0 y.r0, xorSquare x.r1 y.r1, xorSquare x.r2 y.r2, xorSquare x.r3 y.r3,
    xorSquare x.r4 y.r4, xorSquare x.r5 y.r5, xorSquare x.r6 y.r6, xorSquare x.r7 y.r7⟩

/-- A sum with twice the product of the lower halves added. -/
@[inline] def mulAdd (x y : UInt64) : UInt64 :=
  x + y + 2 * ((x &&& 0xffffffff) * (y &&& 0xffffffff))

/-- The mixing of a line with multiplications. -/
@[inline] def mix (l : Line) : Line :=
  let a := mulAdd l.a l.b
  let d := rotateRight64 (l.d ^^^ a) 32
  let c := mulAdd l.c d
  let b := rotateRight64 (l.b ^^^ c) 24
  let a := mulAdd a b
  let d := rotateRight64 (d ^^^ a) 16
  let c := mulAdd c d
  let b := rotateRight64 (b ^^^ c) 63
  ⟨a, b, c, d⟩

/-- One round of mixing on a square. -/
def permute (s : Square) : Square :=
  s.round fun _ l => mix l

/-- The block with its squares made of what were columns of word pairs. -/
def Block.transpose (b : Block) : Block :=
  ⟨⟨b.r0.w0, b.r0.w1, b.r1.w0, b.r1.w1, b.r2.w0, b.r2.w1, b.r3.w0, b.r3.w1,
      b.r4.w0, b.r4.w1, b.r5.w0, b.r5.w1, b.r6.w0, b.r6.w1, b.r7.w0, b.r7.w1⟩,
    ⟨b.r0.w2, b.r0.w3, b.r1.w2, b.r1.w3, b.r2.w2, b.r2.w3, b.r3.w2, b.r3.w3,
      b.r4.w2, b.r4.w3, b.r5.w2, b.r5.w3, b.r6.w2, b.r6.w3, b.r7.w2, b.r7.w3⟩,
    ⟨b.r0.w4, b.r0.w5, b.r1.w4, b.r1.w5, b.r2.w4, b.r2.w5, b.r3.w4, b.r3.w5,
      b.r4.w4, b.r4.w5, b.r5.w4, b.r5.w5, b.r6.w4, b.r6.w5, b.r7.w4, b.r7.w5⟩,
    ⟨b.r0.w6, b.r0.w7, b.r1.w6, b.r1.w7, b.r2.w6, b.r2.w7, b.r3.w6, b.r3.w7,
      b.r4.w6, b.r4.w7, b.r5.w6, b.r5.w7, b.r6.w6, b.r6.w7, b.r7.w6, b.r7.w7⟩,
    ⟨b.r0.w8, b.r0.w9, b.r1.w8, b.r1.w9, b.r2.w8, b.r2.w9, b.r3.w8, b.r3.w9,
      b.r4.w8, b.r4.w9, b.r5.w8, b.r5.w9, b.r6.w8, b.r6.w9, b.r7.w8, b.r7.w9⟩,
    ⟨b.r0.w10, b.r0.w11, b.r1.w10, b.r1.w11, b.r2.w10, b.r2.w11, b.r3.w10, b.r3.w11,
      b.r4.w10, b.r4.w11, b.r5.w10, b.r5.w11, b.r6.w10, b.r6.w11, b.r7.w10, b.r7.w11⟩,
    ⟨b.r0.w12, b.r0.w13, b.r1.w12, b.r1.w13, b.r2.w12, b.r2.w13, b.r3.w12, b.r3.w13,
      b.r4.w12, b.r4.w13, b.r5.w12, b.r5.w13, b.r6.w12, b.r6.w13, b.r7.w12, b.r7.w13⟩,
    ⟨b.r0.w14, b.r0.w15, b.r1.w14, b.r1.w15, b.r2.w14, b.r2.w15, b.r3.w14, b.r3.w15,
      b.r4.w14, b.r4.w15, b.r5.w14, b.r5.w15, b.r6.w14, b.r6.w15, b.r7.w14, b.r7.w15⟩⟩

/-- One round of mixing on each square. -/
def Block.permuteRows (b : Block) : Block :=
  ⟨permute b.r0, permute b.r1, permute b.r2, permute b.r3, permute b.r4, permute b.r5,
    permute b.r6, permute b.r7⟩

/-- The compression of two blocks into one. -/
def compress (x y : Block) : Block :=
  let r := x.xor y
  (r.permuteRows.transpose.permuteRows.transpose).xor r

/-! ## Hashes of any length -/

/-- The blocks of a long hash: the first half of each digest but the last. -/
def lengthen : Nat → Nat → List UInt8 → List UInt8
  | 0, rest, v => Blake2b.digest rest v
  | more + 1, rest, v =>
    let next := Blake2b.digest 64 v
    next.take 32 ++ lengthen more rest next

/-- A hash of any length. -/
def longDigest (length : Nat) (message : List UInt8) : List UInt8 :=
  let input := littleEndian32 (UInt32.ofNat length) ++ message
  if length ≤ 64 then Blake2b.digest length input
  else
    let halves := (length + 31) / 32 - 2
    let first := Blake2b.digest 64 input
    first.take 32 ++ lengthen (halves - 1) (length - 32 * halves) first

/-! ## The memory -/

/-- What stays the same during a computation. -/
structure Layout where
  variant : Variant
  version : Version
  passes : Nat
  lanes : Nat
  /-- The blocks of a quarter of a lane, between two points at which all lanes meet. -/
  segment : Nat
  deriving DecidableEq, Repr

/-- The blocks of a lane. -/
def Layout.columns (l : Layout) : Nat := 4 * l.segment

/-- Where a segment is: the pass, the quarter and the lane. -/
structure Place where
  pass : Nat
  quarter : Nat
  lane : Nat

/-- Whether blocks are chosen by position in a segment. -/
def Layout.byPosition (l : Layout) (p : Place) : Bool :=
  match l.variant with
  | .dataDependent => false
  | .dataIndependent => true
  | .hybrid => p.pass = 0 && p.quarter < 2

/-- The pseudo-random words that choose blocks by position, one hundred and twenty-eight at a
time. -/
def addresses (l : Layout) (p : Place) (counter : Nat) : Array UInt64 :=
  let words := [p.pass, p.lane, p.quarter, l.lanes * l.columns, l.passes,
    l.variant.code.toNat, counter].map UInt64.ofNat
  (compress zeroBlock (compress zeroBlock (Block.ofWords words))).words.toArray

/-- The position in memory of the block to mix in, chosen by a pseudo-random word. -/
def reference (l : Layout) (p : Place) (index : Nat) (word : UInt64) : Nat :=
  let lane := if p.pass = 0 ∧ p.quarter = 0 then p.lane else (word >>> 32).toNat % l.lanes
  let finished := if p.pass = 0 then p.quarter * l.segment else l.columns - l.segment
  let available :=
    if lane = p.lane then finished + index - 1
    else if index = 0 then finished - 1
    else finished
  let j := word.toNat % wordCount
  let back := available * (j * j / wordCount) / wordCount
  let start := if p.pass = 0 then 0 else (p.quarter + 1) % 4 * l.segment
  lane * l.columns + (start + (available - 1 - back)) % l.columns

/-- Computes the blocks of a segment that are left. -/
def fillSegment (l : Layout) (p : Place) : Nat → Array UInt64 → Array Block → Array Block
  | 0, _, memory => memory
  | left + 1, words, memory =>
    let index := l.segment - (left + 1)
    let words :=
      if l.byPosition p && (index % 128 = 0 || words.isEmpty) then addresses l p (index / 128 + 1)
      else words
    let column := p.quarter * l.segment + index
    let here := p.lane * l.columns + column
    let before := p.lane * l.columns + (column + l.columns - 1) % l.columns
    let previous := memory.getD before zeroBlock
    let word := if l.byPosition p then words.getD (index % 128) 0 else previous.r0.w0
    let mixed := compress previous (memory.getD (reference l p index word) zeroBlock)
    let block :=
      if p.pass ≠ 0 ∧ l.version = .mixing then mixed.xor (memory.getD here zeroBlock) else mixed
    fillSegment l p left words (memory.setIfInBounds here block)

/-- Computes the segments of all lanes in one quarter. -/
def fillQuarter (l : Layout) (pass quarter : Nat) (memory : Array Block) : Array Block :=
  (List.range l.lanes).foldl (fun memory lane =>
    let given := if pass = 0 ∧ quarter = 0 then 2 else 0
    fillSegment l ⟨pass, quarter, lane⟩ (l.segment - given) #[] memory) memory

/-- Computes all passes. -/
def fill (l : Layout) (memory : Array Block) : Array Block :=
  (List.range l.passes).foldl (fun memory pass =>
    (List.range 4).foldl (fun memory quarter => fillQuarter l pass quarter memory) memory) memory

/-! ## The function -/

/-- A byte string with its length in front. -/
def counted (bytes : List UInt8) : List UInt8 :=
  littleEndian32 (UInt32.ofNat bytes.length) ++ bytes

/-- The hash of everything that goes into a computation; there is no secret. -/
def seed (variant : Variant) (version : Version) (cost : Cost) (length : Nat)
    (password salt associated : List UInt8) : List UInt8 :=
  let number (n : Nat) := littleEndian32 (UInt32.ofNat n)
  Blake2b.digest 64 <|
    number cost.lanes ++ number length ++ number cost.memory ++ number cost.passes ++
      number version.number ++ littleEndian32 variant.code ++
      counted password ++ counted salt ++ counted [] ++ counted associated

/-- The memory before the first pass: the first two blocks of each lane. -/
def initialMemory (l : Layout) (seed : List UInt8) : Array Block :=
  let first (lane column : Nat) : Block :=
    Block.ofBytes <| longDigest 1024 <|
      seed ++ littleEndian32 (UInt32.ofNat column) ++ littleEndian32 (UInt32.ofNat lane)
  (List.range l.lanes).foldl (fun memory lane =>
    (memory.setIfInBounds (lane * l.columns) (first lane 0)).setIfInBounds
      (lane * l.columns + 1) (first lane 1)) (Array.replicate (l.lanes * l.columns) zeroBlock)

/-- The tag of the given length, for a valid cost. -/
def digest (variant : Variant) (version : Version) (cost : Cost) (length : Nat)
    (password salt associated : List UInt8) : List UInt8 :=
  let l : Layout := ⟨variant, version, cost.passes, cost.lanes, cost.memory / (4 * cost.lanes)⟩
  let memory := fill l (initialMemory l (seed variant version cost length password salt associated))
  let last := (List.range l.lanes).foldl (fun sum lane =>
    sum.xor (memory.getD (lane * l.columns + l.columns - 1) zeroBlock)) zeroBlock
  longDigest length (last.words.flatMap littleEndian64)

end KeyDirectory.Crypto.Argon2
