import KeyDirectory.Key.Line

/-!
# Options of a line

What may be written in front of a key, without regard to who reads it: options with commas between
them, each a name, or a name and a value in quotes.  A value may hold any character that a line
can, among them commas and spaces.
-/

namespace KeyDirectory.Key

/-- The characters in the name of an option. -/
def isOptionNameChar (c : Char) : Bool :=
  c.isAlphanum || c = '-'

/-- A value that can stand between quotes: a quote in it has a backslash in front, and the closing
quote has none. -/
def isQuotable : List Char → Bool
  | [] => true
  | '\\' :: '"' :: rest => isQuotable rest
  | ['\\'] => false
  | c :: rest => c ≠ '"' && c ≠ '\n' && isQuotable rest

/-- The text is a name, or a name with a value. -/
inductive IsOption : List Char → Prop where
  | flag {name : List Char} (hne : name ≠ []) (hname : name.all isOptionNameChar = true) :
      IsOption name
  | valued {name value : List Char} (hne : name ≠ []) (hname : name.all isOptionNameChar = true)
      (hvalue : isQuotable value = true) : IsOption (name ++ '=' :: '"' :: (value ++ ['"']))

/-- The text is made of options with commas between them. -/
inductive IsOptions : List Char → Prop where
  | last {option : List Char} (h : IsOption option) : IsOptions option
  | more {option rest : List Char} (h : IsOption option) (hrest : IsOptions rest) :
      IsOptions (option ++ ',' :: rest)

/-- What the reader asks of the text around a key that has options: no characters in the options but
those it knows, and a comment that is not blank. -/
structure IsReadAround (options comment : String) : Prop where
  known : options.toList.all isOptionChar = true
  commented : ∃ c ∈ comment.toList, Text.isBlank c = false

end KeyDirectory.Key
