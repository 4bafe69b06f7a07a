/-!
# Generated identities

The names under which uploaded keys are served: letters and digits drawn uniformly from random
bytes.  Bytes above the greatest multiple of the alphabet's size are passed over, so no
character is likelier than another.
-/

namespace KeyDirectory.Upload

/-- The letters and digits of generated identities. -/
def alphabet : List Char :=
  "ABCDEFGHIJKLMNOPQRSTUVWXYZabcdefghijklmnopqrstuvwxyz0123456789".toList

/-- The characters drawn for an identity. -/
def identityLength : Nat := 10

/-- The bytes below this bound stand for a character: four times the size of the alphabet. -/
def drawBound : Nat := 248

/-- The character a byte stands for, if it stands for one. -/
def charOfByte? (b : UInt8) : Option Char :=
  if b.toNat < drawBound then alphabet[b.toNat % 62]? else none

/-- Draws characters from successive reads of a random generator, and returns the reads left
over; what is left of the last read used is dropped. -/
def draw : Nat → List (List UInt8) → Option (List Char × List (List UInt8))
  | 0, reads => some ([], reads)
  | _ + 1, [] => none
  | n + 1, read :: reads =>
    let chars := (read.filterMap charOfByte?).take (n + 1)
    (draw (n + 1 - chars.length) reads).map fun (more, rest) => (chars ++ more, rest)

/-- Draws the random part of an identity. -/
def drawIdentity (reads : List (List UInt8)) : Option (String × List (List UInt8)) :=
  (draw identityLength reads).map fun (chars, rest) => (String.ofList chars, rest)

end KeyDirectory.Upload
