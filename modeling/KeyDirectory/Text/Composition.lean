import KeyDirectory.Text.CompositionTable
import KeyDirectory.Text.Mark

/-!
# Composition

A letter with marks can be written as one character or as several.  The composed form takes
characters apart, puts the marks into the order of their classes, and composes each letter with
as many of its marks as there is a character for.  Characters that stand for others altogether,
and not for a pair that composes again, are not taken apart.
-/

namespace KeyDirectory.Text

/-! ## Syllables of the Korean script

A syllable is an initial consonant, a vowel and perhaps a final consonant, numbered in this
order. -/

/-- The first syllable. -/
def firstSyllable : Nat := 0xAC00

/-- The first initial consonant. -/
def firstInitial : Nat := 0x1100

/-- The first vowel. -/
def firstVowel : Nat := 0x1161

/-- The code point before the first final consonant. -/
def beforeFinals : Nat := 0x11A7

/-- The number of final consonants, none counted as one. -/
def finalCount : Nat := 28

/-- The number of vowels. -/
def vowelCount : Nat := 21

/-- The number of initial consonants. -/
def initialCount : Nat := 19

/-- Whether a code point is a syllable. -/
def isSyllable (n : Nat) : Bool :=
  firstSyllable ≤ n && n < firstSyllable + initialCount * vowelCount * finalCount

/-- The two parts of a syllable. -/
def syllableParts (n : Nat) : Nat × Nat :=
  let i := n - firstSyllable
  if i % finalCount = 0 then
    (firstInitial + i / finalCount / vowelCount, firstVowel + i / finalCount % vowelCount)
  else (n - i % finalCount, beforeFinals + i % finalCount)

/-- The syllable of two parts. -/
def syllableOf? (a b : Nat) : Option Nat :=
  if firstInitial ≤ a ∧ a < firstInitial + initialCount ∧
      firstVowel ≤ b ∧ b < firstVowel + vowelCount then
    some (firstSyllable +
      ((a - firstInitial) * vowelCount + (b - firstVowel)) * finalCount)
  else if isSyllable a ∧ (a - firstSyllable) % finalCount = 0 ∧
      beforeFinals < b ∧ b < beforeFinals + finalCount then
    some (a + (b - beforeFinals))
  else none

/-! ## Pairs -/

/-- The pair that a character is composed of. -/
def parts? (c : Char) : Option (Char × Char) :=
  if c.toNat < 128 then none
  else if isSyllable c.toNat then
    let (a, b) := syllableParts c.toNat
    some (Char.ofNat a, Char.ofNat b)
  else
    match spelling? composedSpellings c with
    | some [a, b] => some (a, b)
    | _ => none

/-- The character that two characters compose to. -/
def together? (a b : Char) : Option Char :=
  if b.toNat < 128 then none
  else
    match syllableOf? a.toNat b.toNat with
    | some n => some (Char.ofNat n)
    | none =>
      (composedSpellings.find? fun (_, pair) => pair = [a.toNat, b.toNat]).map fun (n, _) =>
        Char.ofNat n

/-! ## The composed form -/

/-- The greatest number of marks that a character is composed of. -/
def mostMarks : Nat := 4

/-- A character taken apart, its first part again up to `depth` times. -/
def takeApart : Nat → Char → List Char
  | 0, c => [c]
  | depth + 1, c =>
    match parts? c with
    | some (a, b) => takeApart depth a ++ [b]
    | none => [c]

/-- Puts a character in front of ordered ones, behind the marks of lower classes. -/
def placeMark (c : Char) : List Char → List Char
  | [] => [c]
  | d :: rest =>
    if 0 < combiningClass d ∧ combiningClass d < combiningClass c then d :: placeMark c rest
    else c :: d :: rest

/-- The characters with the marks between letters in the order of their classes; marks of one
class stay as they are. -/
def orderMarks (s : List Char) : List Char :=
  s.foldr placeMark []

/-- Composes a letter with what follows; `held` are the marks in between, the last one first,
that did not compose.  A mark composes unless one of its class or a higher one is held. -/
def composeFrom (letter : Char) (held : List Char) : List Char → List Char
  | [] => letter :: held.reverse
  | c :: rest =>
    let isBlocked := held.head?.any fun d => combiningClass c ≤ combiningClass d
    match if isBlocked then none else together? letter c with
    | some composed => composeFrom composed held rest
    | none =>
      if combiningClass c = 0 then letter :: held.reverse ++ composeFrom c [] rest
      else composeFrom letter (c :: held) rest

/-- Composes from the first letter on. -/
def composeAll : List Char → List Char
  | [] => []
  | c :: rest => if combiningClass c = 0 then composeFrom c [] rest else c :: composeAll rest

/-- The composed form of a text. -/
def composed (s : List Char) : List Char :=
  composeAll (orderMarks (s.flatMap (takeApart mostMarks)))

end KeyDirectory.Text
