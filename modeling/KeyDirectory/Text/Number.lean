/-!
# Decimal numbers in text

Reading and writing natural numbers.  A number may carry a plus sign where the reader allows
one; an empty text, any other character, or a value above the limit is refused.
-/

namespace KeyDirectory.Text

/-- An ASCII digit. -/
def isDigit (c : Char) : Bool :=
  '0' ≤ c && c ≤ '9'

/-- The value of a run of digits. -/
def digitsValue (s : List Char) : Nat :=
  s.foldl (fun n c => n * 10 + (c.toNat - 48)) 0

/-- A run of at least one digit, with no sign, of a value up to `limit`. -/
def readDigits? (limit : Nat) (s : List Char) : Option Nat :=
  if s.isEmpty || !s.all isDigit then none
  else
    let n := digitsValue s
    if n ≤ limit then some n else none

/-- A natural number up to `limit`, with or without a plus sign. -/
def readNatural? (limit : Nat) : List Char → Option Nat
  | '+' :: rest => readDigits? limit rest
  | s => readDigits? limit s

/-- Decimal digits with zeros in front up to the given width. -/
def padded (width n : Nat) : String :=
  let digits := toString n
  String.ofList (List.replicate (width - digits.length) '0') ++ digits

/-- The greatest number of sixteen bits. -/
def maxWord16 : Nat := 65535

/-- The greatest number of thirty-two bits. -/
def maxWord32 : Nat := 4294967295

/-- The greatest number of sixty-four bits. -/
def maxWord64 : Nat := 18446744073709551615

end KeyDirectory.Text
