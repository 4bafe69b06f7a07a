/-!
# Blank characters and trimming

The characters that count as white space in text that people type, and the removal of them
from both ends of a line.  The class is the Unicode property `White_Space`, so a no-break
space or an ideographic space is blank as well.
-/

namespace KeyDirectory.Text

/-- The Unicode property `White_Space`. -/
def isBlank (c : Char) : Bool :=
  let n := c.toNat
  (9 ≤ n && n ≤ 13) || n = 32 || n = 0x85 || n = 0xA0 || n = 0x1680 ||
    (0x2000 ≤ n && n ≤ 0x200A) || n = 0x2028 || n = 0x2029 || n = 0x202F ||
    n = 0x205F || n = 0x3000

/-- The text without the blanks it starts with. -/
def trimLeft (s : List Char) : List Char :=
  s.dropWhile isBlank

/-- The text without the blanks it ends with. -/
def trimRight (s : List Char) : List Char :=
  (s.reverse.dropWhile isBlank).reverse

/-- The text without the blanks at either end. -/
def trim (s : List Char) : List Char :=
  trimRight (trimLeft s)

/-- A string without the blanks at either end. -/
def trimText (s : String) : String :=
  String.ofList (trim s.toList)

/-- A text that does not begin with a blank keeps its beginning. -/
theorem trimLeft_cons_of_not_blank {c : Char} (s : List Char) (h : isBlank c = false) :
    trimLeft (c :: s) = c :: s := by
  simp [trimLeft, h]

end KeyDirectory.Text
