import KeyDirectory.Text.Number
import KeyDirectory.Text.Split

/-!
# Tables of characters

A property of the Unicode character database, version 17, is kept as the ascending runs of the
code points that have it, and a mapping as the code points that others stand for.  Long tables
are written as lines of hexadecimal numbers:

* `300-36F 483-489 591` are three runs, of which the last one has one member;
* `A8: 20+308 3B1 41` says what `A8` and the two code points after it stand for, the first one
  for two characters.
-/

namespace KeyDirectory.Text

/-- Membership in a table of ascending ranges. -/
def inRanges (table : Array (Nat × Nat)) (c : Char) : Bool :=
  table.any fun (first, last) => first ≤ c.toNat && c.toNat ≤ last

/-- The number that hexadecimal digits in capitals stand for. -/
def hexNumber (s : List Char) : Nat :=
  s.foldl (fun n c => n * 16 + (if isDigit c then c.toNat - 48 else c.toNat - 55)) 0

/-- A run: its first and last member, or its only one. -/
def readRun (s : List Char) : Nat × Nat :=
  match cutAtFirst '-' s with
  | some (first, last) => (hexNumber first, hexNumber last)
  | none => (hexNumber s, hexNumber s)

/-- The runs of a table. -/
def readRuns (lines : List String) : Array (Nat × Nat) :=
  (lines.flatMap fun line => (pieces ' ' line.toList).map readRun).toArray

/-- What code points from `next` on stand for, as the words of a line tell; a word that ends with
a colon names the next code point. -/
def spellingsFrom (next : Nat) : List (List Char) → List (Nat × List Nat)
  | [] => []
  | word :: words =>
    match cutAtFirst ':' word with
    | some (head, _) => spellingsFrom (hexNumber head) words
    | none => (next, (pieces '+' word).map hexNumber) :: spellingsFrom (next + 1) words

/-- The code points of a table with what they stand for. -/
def readSpellings (lines : List String) : Array (Nat × List Nat) :=
  (lines.flatMap fun line => spellingsFrom 0 (pieces ' ' line.toList)).toArray

/-- What a character stands for, when the table has it. -/
def spelling? (table : Array (Nat × List Nat)) (c : Char) : Option (List Char) :=
  (table.find? fun (code, _) => code = c.toNat).map fun (_, codes) => codes.map Char.ofNat

end KeyDirectory.Text
