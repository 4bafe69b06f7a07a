import KeyDirectory.Crypto.Words

/-!
# SHA-1

The hash of FIPS 180-4 that the WebSocket handshake answers a challenge with.
-/

namespace KeyDirectory.Crypto.Sha1

/-- The five words a compression carries from block to block. -/
structure State where
  a : UInt32
  b : UInt32
  c : UInt32
  d : UInt32
  e : UInt32
  deriving DecidableEq, Repr

/-- The words before the first block. -/
def initial : State :=
  ⟨0x67452301, 0xefcdab89, 0x98badcfe, 0x10325476, 0xc3d2e1f0⟩

/-- The next word of the schedule from the sixteen before it, oldest first. -/
def scheduleWord (window : List UInt32) : UInt32 :=
  rotateLeft32 (window.getD 13 0 ^^^ window.getD 8 0 ^^^ window.getD 2 0 ^^^ window.getD 0 0) 1

/-- The mixing function and the constant of a round. -/
def stage (t : Nat) (s : State) : UInt32 × UInt32 :=
  if t < 20 then ((s.b &&& s.c) ||| ((~~~ s.b) &&& s.d), 0x5a827999)
  else if t < 40 then (s.b ^^^ s.c ^^^ s.d, 0x6ed9eba1)
  else if t < 60 then ((s.b &&& s.c) ||| (s.b &&& s.d) ||| (s.c &&& s.d), 0x8f1bbcdc)
  else (s.b ^^^ s.c ^^^ s.d, 0xca62c1d6)

/-- One round with a word of the schedule. -/
def round (t : Nat) (s : State) (w : UInt32) : State :=
  let (mixed, constant) := stage t s
  ⟨rotateLeft32 s.a 5 + mixed + s.e + constant + w, s.a, rotateLeft32 s.b 30, s.c, s.d⟩

/-- The given number of rounds up to the eightieth; `window` holds the sixteen words that come
next. -/
def rounds : Nat → List UInt32 → State → State
  | 0, _, s => s
  | left + 1, window, s =>
    match window with
    | [] => s
    | w :: later => rounds left (later ++ [scheduleWord window]) (round (79 - left) s w)

/-- Takes one block of sixty-four bytes in. -/
def compress (s : State) (block : List UInt8) : State :=
  let t := rounds 80 (words32 block) s
  ⟨s.a + t.a, s.b + t.b, s.c + t.c, s.d + t.d, s.e + t.e⟩

/-- The twenty bytes of the hash. -/
def digest (message : List UInt8) : List UInt8 :=
  let s := (chunks 64 (padBlocks64 message)).foldl compress initial
  [s.a, s.b, s.c, s.d, s.e].flatMap bigEndian32

end KeyDirectory.Crypto.Sha1
