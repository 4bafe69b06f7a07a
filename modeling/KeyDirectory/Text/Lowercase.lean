import KeyDirectory.Text.CaseTable
import KeyDirectory.Text.RangeTable

/-!
# Lower case

The full lower-case mapping of Unicode text.  Two characters do not map to one fixed
character: a dotted capital I keeps its dot as a combining mark, and a capital sigma takes its
final form where a word ends.
-/

namespace KeyDirectory.Text

/-- The characters that case detection looks through, such as an apostrophe or an accent. -/
def isCaseIgnorable (c : Char) : Bool :=
  inRanges caseIgnorableRanges c

/-- The characters that are cased and not looked through. -/
def isCased (c : Char) : Bool :=
  inRanges casedRanges c

/-- The lower case of a character taken alone, when it is one character. -/
def lowerChar (c : Char) : Char :=
  let n := c.toNat
  if n < 128 then c.toLower
  else
    let run := lowerCaseRuns.find? fun (first, last, distance, _) =>
      first ≤ n && n ≤ last && (n - first) % distance == 0
    match run with
    | some (_, _, _, offset) => Char.ofNat (n + offset).toNat
    | none => c

/-- Whether the first character that is not looked through is cased. -/
def startsCased (s : List Char) : Bool :=
  match s.dropWhile isCaseIgnorable with
  | c :: _ => isCased c
  | [] => false

/-- The lower case of a text whose beginning is already mapped; `afterCased` says whether the
last character before it that is not looked through is cased. -/
def lowerCaseAfter (afterCased : Bool) : List Char → List Char
  | [] => []
  | c :: rest =>
    let mapped :=
      if c = 'Σ' then [if afterCased && !startsCased rest then 'ς' else 'σ']
      else if c = 'İ' then ['i', '\u0307']
      else [lowerChar c]
    mapped ++ lowerCaseAfter (if isCaseIgnorable c then afterCased else isCased c) rest

/-- The lower case of a string. -/
def lowerCase (s : String) : String :=
  String.ofList (lowerCaseAfter false s.toList)

end KeyDirectory.Text
