import KeyDirectory.Text.Composition
import KeyDirectory.Text.Direction
import KeyDirectory.Text.Joining
import KeyDirectory.Text.Lowercase
import KeyDirectory.Url.NameTable
import KeyDirectory.Url.Punycode

/-!
# Labels of host names

The name of a host consists of labels.  A label is brought into its usual form, in which case
does not count and characters that mean the same are the same, and it must obey the rules on
marks, joiners and writing directions.  On the wire a label with characters beyond ASCII is
written in its ASCII form.
-/

namespace KeyDirectory.Url.Label

/-! ## The usual form -/

/-- The characters that a character of a name stands for; none when it cannot stand in a name. -/
def meaning? (c : Char) : Option (List Char) :=
  if c.toNat < 128 then some [c.toLower]
  else if Text.inRanges refusedRuns c then none
  else if Text.inRanges vanishingRuns c then some []
  else
    match shiftedRuns.find? fun (first, last, _) => first ≤ c.toNat && c.toNat ≤ last with
    | some (_, _, offset) => some [Char.ofNat (c.toNat + offset).toNat]
    | none => some ((Text.spelling? nameSpellings c).getD [Text.lowerChar c])

/-- The usual form of a name or label. -/
def usualForm? (s : List Char) : Option (List Char) :=
  (s.mapM meaning?).map fun parts =>
    if s.all fun c => c.toNat < 128 then parts.flatten else Text.composed parts.flatten

/-! ## Characters that cannot stand in a label -/

/-- Whether a character has a meaning in URLs or cannot be seen, so that no label has it. -/
def isForbidden (c : Char) : Bool :=
  c.toNat ≤ 32 || c.toNat = 127 || "%#/:<>?@[\\]^|".toList.contains c

/-! ## Joiners -/

/-- The character that asks for letters to be joined. -/
def joiner : Char := '\u200D'

/-- The character that asks for letters to be kept apart. -/
def nonJoiner : Char := '\u200C'

/-- Whether the first character that is not looked through joins on one of the given sides. -/
def joins (sides : List Text.Joining) (s : List Char) : Bool :=
  match s.dropWhile fun c => Text.Joining.of c = .transparent with
  | c :: _ => sides.contains (Text.Joining.of c)
  | [] => false

/-- Whether each joiner stands where it has an effect: after a virama, or, to keep letters apart,
between two that would join.  `before` is the part before, last character first. -/
def placesJoiners (before : List Char) : List Char → Bool
  | [] => true
  | c :: rest =>
    let isPlaced :=
      before.head?.any Text.isVirama ||
        (c = nonJoiner && joins [.left, .both] before && joins [.right, .both] rest)
    (if c = joiner ∨ c = nonJoiner then isPlaced else true) && placesJoiners (c :: before) rest

/-! ## Writing directions -/

/-- Whether a character makes a name one with text from right to left. -/
def isRightward (c : Char) : Bool :=
  128 ≤ c.toNat && [Text.Direction.right, .arabic, .arabicNumber].contains (Text.Direction.of c)

/-- The directions that go with any text. -/
def weakDirections : List Text.Direction :=
  [.european, .sign, .separator, .terminator, .neutral, .boundary, .mark]

/-- Whether a label can stand in a name with text from right to left: it keeps to the direction of
its first letter and ends with a letter or digit, and it has digits of one kind. -/
def keepsDirection (label : List Char) : Bool :=
  let directions := label.map Text.Direction.of
  let ending := (directions.reverse.dropWhile (· = .mark)).head?
  match directions with
  | [] => true
  | .left :: _ =>
    directions.all (fun d => d = .left || weakDirections.contains d) &&
      ending.any [Text.Direction.left, .european].contains
  | .right :: _ | .arabic :: _ =>
    directions.all (fun d =>
      d = .right || d = .arabic || d = .arabicNumber || weakDirections.contains d) &&
    ending.any [Text.Direction.right, .arabic, .european, .arabicNumber].contains &&
    !(directions.contains .european && directions.contains .arabicNumber)
  | _ => false

/-! ## The ASCII form -/

/-- What introduces the ASCII form of a label. -/
def encodedMark : List Char := ['x', 'n', '-', '-']

/-- The greatest number of characters of a label beyond ASCII. -/
def mostCharacters : Nat := 1000

/-- The greatest number of characters of an encoded label after its mark. -/
def mostEncoded : Nat := 2000

/-- Whether all characters of a text are ASCII. -/
def isAscii (s : List Char) : Bool :=
  s.all fun c => c.toNat < 128

/-- The label of the part of an ASCII form after its mark; it must be in its usual form and need
an ASCII form. -/
def ofEncoded? (form : List Char) : Option (List Char) := do
  if !isAscii form || form.getLast?.all (· = '-') || mostEncoded < form.length then none
  else
    let label ← Punycode.decode? form
    let usual ← usualForm? label
    if usual = label then some label else none

/-- The label that a label in its usual form stands for, if it obeys the rules for single labels. -/
def read? (s : List Char) : Option (List Char) := do
  let label ←
    match Text.afterBeginning? encodedMark s with
    | some form => ofEncoded? form
    | none => some s
  if label.any isForbidden || (!isAscii label &&
      (label.head?.any Text.isMark || !placesJoiners [] label || mostCharacters < label.length))
  then none
  else some label

/-- The ASCII form of a label. -/
def asciiForm (label : List Char) : List Char :=
  if isAscii label then label else encodedMark ++ Punycode.encode label

/-- The ASCII form of a name, of which each label must obey the rules. -/
def asciiName? (name : List Char) : Option String := do
  let labels ← (Text.pieces '.' (← usualForm? name)).mapM read?
  if labels.any (·.any isRightward) && !labels.all keepsDirection then none
  else some (".".intercalate (labels.map fun label => String.ofList (asciiForm label)))

end KeyDirectory.Url.Label
