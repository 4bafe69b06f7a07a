import KeyDirectory.Text.Entity

/-!
# Markup as tags and the texts after them

A marked up text is a row of tags, each with the text up to the next one.  `Part.write` writes a
part with its texts and values escaped; `read?` tells from the characters alone where tags and
values begin and end, and reads the references in texts and values back.

The reader knows the markup that a browser reads in one way only: names of letters and digits, one
space before each attribute, values between double quotes.  Anything else within a tag is refused, a
comment with it.  Which tags belong together is not asked.
-/

namespace KeyDirectory.Text.Markup

/-- A tag with its attributes, some of which have a value. -/
structure Tag where
  name : String
  attributes : List (String × Option String)
  deriving DecidableEq, Repr

/-- A tag and the text up to the next one. -/
structure Part where
  tag : Tag
  text : String
  deriving DecidableEq, Repr

/-- A tag without attributes and the text after it. -/
def plain (name text : String) : Part :=
  ⟨⟨name, []⟩, text⟩

/-- A tag with one attribute and the text after it. -/
def withValue (name key value text : String) : Part :=
  ⟨⟨name, [(key, some value)]⟩, text⟩

/-- The tag and the attributes of a part, with nothing in the values. -/
def Part.outline (p : Part) : Tag :=
  ⟨p.tag.name, p.tag.attributes.map fun (name, value) => (name, value.map fun _ => "")⟩

/-! ## Writing -/

/-- An attribute, with the space before it. -/
def writeAttribute : String × Option String → List Char
  | (name, none) => ' ' :: name.toList
  | (name, some value) =>
    ' ' :: (name.toList ++ '=' :: '"' :: (Entity.escapeChars value.toList ++ ['"']))

/-- A part written out. -/
def Part.write (p : Part) : List Char :=
  '<' :: (p.tag.name.toList ++ p.tag.attributes.flatMap writeAttribute ++
    '>' :: Entity.escapeChars p.text.toList)

/-! ## Reading -/

/-- Where a reader stands, with what it has read of the part it is in. -/
inductive Place where
  /-- Before any character. -/
  | start
  | text (tag : Tag) (read : List Char)
  | tagName (read : List Char)
  /-- After the space before an attribute. -/
  | space (tag : Tag)
  | attributeName (tag : Tag) (read : List Char)
  | equals (tag : Tag) (name : List Char)
  | value (tag : Tag) (name read : List Char)
  | afterValue (tag : Tag)
  deriving DecidableEq, Repr

/-- What names are made of.  The name of a tag may begin with one other character. -/
def isNameChar (c : Char) : Bool :=
  c.isAlphanum

/-- The string of characters with references. -/
def unescaped (s : List Char) : String :=
  String.ofList (Entity.unescapeChars s)

/-- The tag with one more attribute. -/
def Tag.add (tag : Tag) (name : List Char) (value : Option String) : Tag :=
  ⟨tag.name, tag.attributes ++ [(String.ofList name, value)]⟩

/-- The place after a character that ends what was read of a tag. -/
def Tag.next? (tag : Tag) (c : Char) : Option Place :=
  if c = ' ' then some (.space tag) else if c = '>' then some (.text tag []) else none

/-- The place after a character. -/
def Place.next? : Place → Char → Option Place
  | start, c => if c = '<' then some (tagName []) else none
  | text tag read, c => some (if c = '<' then tagName [] else text tag (read ++ [c]))
  | tagName read, c =>
    if isNameChar c || (read.isEmpty && (c = '/' || c = '!')) then some (tagName (read ++ [c]))
    else Tag.next? ⟨String.ofList read, []⟩ c
  | space tag, c => if isNameChar c then some (attributeName tag [c]) else none
  | attributeName tag read, c =>
    if isNameChar c then some (attributeName tag (read ++ [c]))
    else if c = '=' then some (equals tag read)
    else (tag.add read none).next? c
  | equals tag name, c => if c = '"' then some (value tag name []) else none
  | value tag name read, c =>
    some (if c = '"' then afterValue (tag.add name (some (unescaped read)))
      else value tag name (read ++ [c]))
  | afterValue tag, c => tag.next? c

/-- The reader between two characters. -/
structure Reader where
  /-- The parts before the one that is being read. -/
  parts : List Part
  place : Place
  deriving DecidableEq, Repr

/-- The reader before any character. -/
def Reader.start : Reader := ⟨[], .start⟩

/-- The part that is complete when the text ends or another tag begins. -/
def Place.part? : Place → Option Part
  | text tag read => some ⟨tag, unescaped read⟩
  | _ => none

/-- Takes one character. -/
def Reader.take? (r : Reader) (c : Char) : Option Reader :=
  (r.place.next? c).map fun next =>
    ⟨if c = '<' then r.parts ++ r.place.part?.toList else r.parts, next⟩

/-- All parts, where the text may end. -/
def Reader.finish? (r : Reader) : Option (List Part) :=
  match r.place with
  | .start | .text _ _ => some (r.parts ++ r.place.part?.toList)
  | _ => none

/-- The parts of a text. -/
def read? (s : String) : Option (List Part) := do
  let r ← s.toList.foldlM Reader.take? Reader.start
  r.finish?

end KeyDirectory.Text.Markup
