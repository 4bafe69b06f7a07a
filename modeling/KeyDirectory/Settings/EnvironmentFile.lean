import KeyDirectory.Text.Alphanumeric
import KeyDirectory.Text.Blank
import KeyDirectory.Text.Split
import KeyDirectory.Text.Utf8

/-!
# Environment files

A file `.env` sets variables that the environment does not set: lines `NAME=value`, with
comments, quotes, escapes and references to other variables.  Reading stops at the first line
that has not this form or is no text; the lines before it count.
-/

namespace KeyDirectory.Settings.EnvironmentFile

/-- Variables with their values. -/
abbrev Environment := List (String × String)

/-! ## Lines

A quoted value may go on over several lines. -/

/-- Where in a line the reader stands. -/
inductive Place where
  | plain
  | afterBlank
  | escape
  | double
  | doubleEscape
  | single
  | singleEscape
  deriving DecidableEq, Repr

/-- The place after one more character; none where a comment begins. -/
def Place.next? (p : Place) (c : Char) : Option Place :=
  let opening : Place :=
    if c = '\\' then escape else if c = '"' then double else if c = '\'' then single else plain
  match p with
  | afterBlank => if c = '#' then none else some opening
  | plain => some (if Text.isBlank c && c ≠ '\n' && c ≠ '\r' then afterBlank else opening)
  | escape => some plain
  | double => some (if c = '\\' then doubleEscape else if c = '"' then plain else double)
  | doubleEscape => some double
  | single => some (if c = '\\' then singleEscape else if c = '\'' then plain else single)
  | singleEscape => some single

/-- The part of a line before a comment, and the place at its end; none where a comment begins. -/
def scanLine (p : Place) : List Char → List Char × Option Place
  | [] => ([], some p)
  | c :: rest =>
    match p.next? c with
    | none => ([], none)
    | some p =>
      let (before, last) := scanLine p rest
      (c :: before, last)

/-- The line without its end. -/
def withoutEnd (s : List Char) : List Char :=
  match s.reverse with
  | '\n' :: '\r' :: rest => rest.reverse
  | '\n' :: rest => rest.reverse
  | _ => s

/-- The lines of a file, each with its end. -/
def physicalLines : List UInt8 → List (List UInt8)
  | [] => []
  | b :: rest =>
    if b = 10 then [b] :: physicalLines rest
    else match physicalLines rest with
      | [] => [[b]]
      | line :: lines => (b :: line) :: lines

/-- The lines before the first one that is no text. -/
def readableLines : List (List UInt8) → List (List Char)
  | [] => []
  | line :: lines =>
    match Text.Utf8.decode? line with
    | some s => s :: readableLines lines
    | none => []

/-- The lines after quoted line ends are taken together; the flag tells whether the text ends
within a line. -/
def logicalLines (held : List Char) (p : Place) : List (List Char) → List (List Char) × Bool
  | [] => ([], p ≠ .plain)
  | line :: lines =>
    if ((held ++ line).dropWhile Text.isBlank).head? = some '#' then
      let (more, broken) := logicalLines [] .plain lines
      ([] :: more, broken)
    else
      match scanLine p line with
      | (before, none) =>
        let (more, broken) := logicalLines [] .plain lines
        ((held ++ before) :: more, broken)
      | (_, some .plain) =>
        let (more, broken) := logicalLines [] .plain lines
        (withoutEnd (held ++ line) :: more, broken)
      | (_, some p) => logicalLines (held ++ line) p lines

/-! ## Values -/

/-- A reference to a variable that is being read. -/
inductive Reference where
  | none
  /-- After a dollar sign. -/
  | bare
  /-- After a dollar sign and a brace. -/
  | braced
  deriving DecidableEq, Repr

/-- The reading of a value between two characters. -/
structure ValueReading where
  written : List Char
  inSingle : Bool
  inDouble : Bool
  escaped : Bool
  atEnd : Bool
  reference : Reference
  /-- The name that is referred to, as far as it was read, last character first. -/
  name : List Char
  deriving DecidableEq, Repr

/-- What a variable says after the given name and an equals sign.  The name may go on into the
value: of `A=b=c`, the name `A=b` gives `c`. -/
def valueAfter? (name : List Char) (setting : String × String) : Option (List Char) :=
  if name.isEmpty then none
  else Text.afterBeginning? (name ++ ['=']) (setting.1.toList ++ '=' :: setting.2.toList)

/-- The value that a reference stands for. -/
def resolve (known : Environment) (name : List Char) : List Char :=
  (known.findSome? (valueAfter? name.reverse)).getD []

namespace ValueReading

/-- The reading before any character. -/
def start : ValueReading := ⟨[], false, false, false, false, .none, []⟩

/-- Writes a character. -/
def push (r : ValueReading) (c : Char) : ValueReading :=
  { r with written := r.written ++ [c] }

/-- Writes the value of the name that was read. -/
def substitute (known : Environment) (r : ValueReading) : ValueReading :=
  { r with written := r.written ++ resolve known r.name, reference := .none, name := [] }

/-- Takes a character while a reference is read. -/
def takeReference (known : Environment) (r : ValueReading) (c : Char) : ValueReading :=
  if Text.isAlphanumeric c then { r with name := c :: r.name }
  else if r.reference = .braced then
    if c = '\x7d' then r.substitute known else { r with name := c :: r.name }
  else if c = '\x7b' && r.name.isEmpty then { r with reference := .braced }
  else
    let r := r.substitute known
    if c = '$' then { r with reference := .bare } else r.push c

/-- Takes a character; none when it cannot stand there. -/
def take? (known : Environment) (r : ValueReading) (c : Char) : Option ValueReading :=
  if r.atEnd then
    if c = ' ' || c = '\t' then some r else none
  else if r.escaped then
    if c = 'n' then some ({ r with escaped := false }.push '\n')
    else if c = '\\' || c = '\'' || c = '"' || c = '$' || c = ' ' then
      some ({ r with escaped := false }.push c)
    else none
  else if r.inSingle then
    some (if c = '\'' then { r with inSingle := false } else r.push c)
  else if r.reference ≠ .none then some (r.takeReference known c)
  else if c = '$' then some { r with reference := .bare }
  else if r.inDouble then
    some (if c = '"' then { r with inDouble := false }
      else if c = '\\' then { r with escaped := true }
      else r.push c)
  else if c = '\'' then some { r with inSingle := true }
  else if c = '"' then some { r with inDouble := true }
  else if c = '\\' then some { r with escaped := true }
  else if c = ' ' || c = '\t' then some { r with atEnd := true }
  else some (r.push c)

/-- Takes characters up to the end or a comment after a blank. -/
def run? (known : Environment) (r : ValueReading) : List Char → Option ValueReading
  | [] => some r
  | c :: rest =>
    if r.atEnd && c = '#' then some r
    else (r.take? known c).bind fun r => r.run? known rest

end ValueReading

/-- Reads a value; quotes and braces must be closed. -/
def readValue? (known : Environment) (s : List Char) : Option String := do
  let r ← ValueReading.start.run? known s
  if r.reference = .braced || r.inSingle || r.inDouble then none
  else some (String.ofList (r.substitute known).written)

/-! ## Assignments -/

/-- Takes the name of a variable. -/
def readName? (s : List Char) : Option (String × List Char) :=
  match s with
  | [] => none
  | c :: _ =>
    let isPart (c : Char) : Bool := c.isAlphanum || c = '_' || c = '.'
    if c.isAlpha || c = '_' then some (String.ofList (s.takeWhile isPart), s.dropWhile isPart)
    else none

/-- Takes a name and the equals sign after it; the word `export` may stand in front. -/
def readHead? (s : List Char) : Option (String × List Char) := do
  let (name, rest) ← readName? s
  match Text.trimLeft rest, name with
  | '=' :: rest, _ => some (name, rest)
  | rest, "export" => do
    let (name, rest) ← readName? rest
    match Text.trimLeft rest with
    | '=' :: rest => some (name, rest)
    | _ => none
  | _, _ => none

/-- What a line says. -/
inductive Line where
  | nothing
  | assignment (name value : String)
  | malformed
  deriving DecidableEq, Repr

/-- Reads a line. -/
def readLine (known : Environment) (line : List Char) : Line :=
  let s := Text.trim line
  if s.isEmpty || s.head? = some '#' then .nothing
  else match readHead? s with
    | none => .malformed
    | some (name, rest) =>
      let rest := Text.trimLeft rest
      if rest.isEmpty || rest.head? = some '#' then .assignment name ""
      else match readValue? known rest with
        | some value => .assignment name value
        | none => .malformed

/-- Carries lines out.  References see what the lines before have set; a variable that is set
already keeps its value. -/
def apply (environment : Environment) : List (List Char) → Environment
  | [] => environment
  | line :: lines =>
    match readLine environment line with
    | .nothing => apply environment lines
    | .malformed => environment
    | .assignment name value =>
      apply (if (environment.lookup name).isSome then environment
        else environment ++ [(name, value)]) lines

/-- The file without the mark of its byte order. -/
def withoutMark : List UInt8 → List UInt8
  | 0xEF :: 0xBB :: 0xBF :: rest => rest
  | bytes => bytes

/-- The environment with the variables of a file. -/
def load (environment : Environment) (bytes : List UInt8) : Environment :=
  apply environment (logicalLines [] .plain (readableLines (physicalLines (withoutMark bytes)))).1

end KeyDirectory.Settings.EnvironmentFile
