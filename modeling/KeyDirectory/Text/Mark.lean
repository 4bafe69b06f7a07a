import KeyDirectory.Text.MarkTable

/-!
# Combining marks

Marks stand at the letter before them.  Their combining classes say where, so that marks of
different classes can be told apart in any order.
-/

namespace KeyDirectory.Text

/-- A mark, which belongs to the letter before it. -/
def isMark (c : Char) : Bool :=
  768 ≤ c.toNat && inRanges markRuns c

/-- The combining class of a character, zero for all that are no marks with a place of their
own. -/
def combiningClass (c : Char) : Nat :=
  if c.toNat < 768 then 0
  else
    match combiningClassRuns.find? fun (_, runs) => inRanges runs c with
    | some (number, _) => number
    | none => 0

/-- A sign that takes the vowel of a letter away, in the scripts of India. -/
def isVirama (c : Char) : Bool :=
  combiningClass c = 9

end KeyDirectory.Text
