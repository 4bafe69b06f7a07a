import KeyDirectory.Key.Basic
import KeyDirectory.Text.Blank

/-!
# Lines of an authorized_keys file

One line holds a key, `algorithm base64`, possibly with options before it and a comment after
it.  The two spaces of a key with a comment make the form ambiguous, so the number of spaces in
the line decides what is tried: options are looked for only where at least three spaces stand.
-/

namespace KeyDirectory.Key

/-- Reads up to the next space, which is dropped; only plain characters may stand before it. -/
def segment? : List Char → Option (List Char × List Char)
  | [] => some ([], [])
  | c :: rest =>
    if c = ' ' then some ([], rest)
    else if Material.isPlainChar c then
      (segment? rest).map fun (before, after) => (c :: before, after)
    else none

/-- Reads `algorithm base64` with any comment after it.  The label on the wire must be the
algorithm that the text names. -/
def ofText? (s : List Char) : Option PublicKey := do
  let (algorithm, rest) ← segment? (Text.trimRight s)
  let (digits, _) ← segment? rest
  if algorithm.isEmpty || digits.isEmpty then none
  else
    let key ← PublicKey.ofWire? (← Text.Base64.decode? digits)
    if key.algorithm = String.ofList algorithm then some key else none

/-- The characters of options: printable ASCII without space, backtick and the quotes of other
alphabets. -/
def isOptionChar (c : Char) : Bool :=
  c.isAlphanum || ('!' ≤ c && c ≤ '/') || (':' ≤ c && c ≤ '@') || ('[' ≤ c && c ≤ '_') ||
    c = '{' || c = '|' || c = '}' || c = '~'

/-- Reads options, one space and a key. -/
def ofTextAfterOptions? (s : List Char) : Option PublicKey := do
  let (options, rest) ← Text.cutAtFirst ' ' s
  if options.all isOptionChar then ofText? rest else none

/-- Reads a line that neither starts nor ends with a blank. -/
def ofTrimmedLine? (s : List Char) : Option PublicKey :=
  match s.count ' ' with
  | 0 => none
  | 1 | 2 => ofText? s
  | _ => (ofText? s).or (ofTextAfterOptions? s)

/-- The detail of a line that holds nothing. -/
def emptyDetail : String := "empty key"

/-- The detail of a line that holds something else than a key. -/
def malformedDetail : String := "malformed key"

/-- Reads one line. -/
def parseChars (line : List Char) : Except Failure PublicKey :=
  let s := Text.trim line
  if s.isEmpty then .error (.invalidKey emptyDetail)
  else
    match ofTrimmedLine? s with
    | some key => .ok key
    | none => .error (.invalidKey malformedDetail)

/-- Reads one line of text. -/
def parse (line : String) : Except Failure PublicKey :=
  parseChars line.toList

/-- Reads a list of lines: all their keys in order, or the failure of the first line that is not
one. -/
def parseAllFrom (index : Nat) : List String → Except Failure (List PublicKey)
  | [] => .ok []
  | line :: lines =>
    match parse line with
    | .error failure =>
      .error (.invalidKey ("key " ++ toString index ++ ": " ++ failure.message))
    | .ok key =>
      match parseAllFrom (index + 1) lines with
      | .error failure => .error failure
      | .ok keys => .ok (key :: keys)

/-- Reads a list of lines, counted from zero in the failure of one that is not a key. -/
def parseAll (lines : List String) : Except Failure (List PublicKey) :=
  parseAllFrom 0 lines

end KeyDirectory.Key
