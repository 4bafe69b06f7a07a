import KeyDirectory.Text.Split

/-!
# What a shell makes of a script

A shell reads a script line by line.  A line is blank, a comment or a command, and a command that
opens a here-document has the lines after it for its input, up to the delimiter.  The delimiter is
read between single quotes only, because it is these quotes that make a shell take the lines as they
are.

This is the part of the language where a line ends what it begins: simple commands without
substitutions.  A script with anything else is refused, so that no line is given a meaning that a
shell would not give it.
-/

namespace KeyDirectory.Shell

/-- A command as it is written, with the text of its here-document. -/
structure Command where
  text : String
  input : Option String
  deriving DecidableEq, Repr

/-! ## Lines -/

/-- Where the reader of a line stands. -/
inductive Place where
  /-- Between words. -/
  | between
  | word
  /-- Between single quotes, where every character stands for itself. -/
  | singleQuotes
  | doubleQuotes
  /-- After a dollar sign, which may stand between double quotes. -/
  | dollar (quoted : Bool)
  /-- After `<`. -/
  | less
  /-- After `<<`. -/
  | doubleLess
  /-- Between the quotes around a delimiter, after the given characters of it. -/
  | delimiter (read : List Char)
  /-- After the quotes around a delimiter. -/
  | afterDelimiter
  | comment
  deriving DecidableEq, Repr

/-- What divides words. -/
def isSpace (c : Char) : Bool :=
  c = ' ' || c = '\t'

/-- What quotes, substitutes or joins commands in a way that is not read here. -/
def isRefused (c : Char) : Bool :=
  c = '\\' || c = '\x60' || c = '|' || c = '&' || c = ';' || c = '(' || c = ')'

/-- The place after a character outside quotes. -/
def Place.afterPlain? (c : Char) : Option Place :=
  if isSpace c || c = '>' then some between
  else if c = '\'' then some singleQuotes
  else if c = '"' then some doubleQuotes
  else if c = '$' then some (dollar false)
  else if c = '<' then some less
  else if isRefused c then none
  else some word

/-- The place after a character.  A number sign begins a comment only where a word could begin, and
only a name may follow a dollar sign. -/
def Place.next? : Place → Char → Option Place
  | between, c => if c = '#' then some comment else afterPlain? c
  | word, c => afterPlain? c
  | singleQuotes, c => some (if c = '\'' then word else singleQuotes)
  | doubleQuotes, c =>
    if c = '"' then some word
    else if c = '$' then some (dollar true)
    else if c = '\\' || c = '\x60' then none
    else some doubleQuotes
  | dollar quoted, c =>
    if c.isAlpha || c = '_' then some (if quoted then doubleQuotes else word) else none
  | less, c =>
    if c = '<' then some doubleLess else if c = '#' then none else afterPlain? c
  | doubleLess, c => if c = '\'' then some (delimiter []) else none
  | delimiter read, c => some (if c = '\'' then afterDelimiter else delimiter (read ++ [c]))
  | afterDelimiter, c => if isSpace c then some between else none
  | comment, _ => some comment

/-- Whether a line may end here. -/
def Place.isEnd : Place → Bool
  | between | word | afterDelimiter | comment => true
  | _ => false

/-- The reader of a line between two characters. -/
structure Reader where
  place : Place
  /-- What was read without comments. -/
  text : List Char
  /-- The delimiter of the here-document that the line opens. -/
  delimiter : Option (List Char)
  deriving DecidableEq, Repr

/-- The reader before any character. -/
def Reader.start : Reader := ⟨.between, [], none⟩

/-- The delimiter that a line opens a here-document with once the reader goes on to a place.  A line
opens one here-document at most. -/
def Reader.delimiterAt? (r : Reader) (next : Place) : Option (Option (List Char)) :=
  match r.place, next, r.delimiter with
  | .delimiter read, .afterDelimiter, none => some (some read)
  | .delimiter _, .afterDelimiter, some _ => none
  | _, _, delimiter => some delimiter

/-- Takes one character. -/
def Reader.take? (r : Reader) (c : Char) : Option Reader := do
  let next ← r.place.next? c
  let delimiter ← r.delimiterAt? next
  some ⟨next, if next = .comment then r.text else r.text ++ [c], delimiter⟩

/-- What a line holds: its text without comments, and the delimiter of its here-document. -/
def readLine? (line : List Char) : Option (List Char × Option (List Char)) := do
  let r ← line.foldlM Reader.take? Reader.start
  if r.place.isEnd then some (r.text, r.delimiter) else none

/-! ## Scripts -/

/-- What the next line of a script belongs to. -/
inductive Mode where
  | command
  /-- The here-document of a command, of which some lines were read. -/
  | document (text delimiter : List Char) (read : List (List Char))
  deriving DecidableEq, Repr

/-- The text of a here-document: its lines, each with a line end. -/
def documentText (lines : List (List Char)) : String :=
  String.ofList (lines.flatMap (· ++ ['\n']))

/-- The commands of the lines of a script. -/
def readLines? : Mode → List (List Char) → Option (List Command)
  | .command, [] => some []
  | .document _ _ _, [] => none
  | .command, line :: rest =>
    match readLine? line with
    | none => none
    | some (text, none) =>
      if text.all isSpace then readLines? .command rest
      else (readLines? .command rest).map (⟨String.ofList text, none⟩ :: ·)
    | some (text, some delimiter) => readLines? (.document text delimiter []) rest
  | .document text delimiter read, line :: rest =>
    if line = delimiter then
      (readLines? .command rest).map (⟨String.ofList text, some (documentText read)⟩ :: ·)
    else readLines? (.document text delimiter (read ++ [line])) rest

/-- The commands of a script, in the order in which they are executed. -/
def read? (script : String) : Option (List Command) :=
  readLines? .command (Text.pieces '\n' script.toList)

end KeyDirectory.Shell
