/-!
# Character references in pages

The five characters that mean something in a page's text or attributes are written as
references; everything else stands for itself.  `unescape` reads the references back.
-/

namespace KeyDirectory.Text.Entity

/-- The written form of one character. -/
def escapeChar (c : Char) : List Char :=
  if c = '&' then "&amp;".toList
  else if c = '<' then "&lt;".toList
  else if c = '>' then "&gt;".toList
  else if c = '"' then "&quot;".toList
  else if c = '\'' then "&#39;".toList
  else [c]

/-- The written form of a text. -/
def escapeChars (s : List Char) : List Char :=
  s.flatMap escapeChar

/-- The written form of a string. -/
def escape (s : String) : String :=
  String.ofList (escapeChars s.toList)

/-- Reads the five references; every other character stands for itself. -/
def unescapeChars : List Char → List Char
  | '&' :: 'a' :: 'm' :: 'p' :: ';' :: rest => '&' :: unescapeChars rest
  | '&' :: 'l' :: 't' :: ';' :: rest => '<' :: unescapeChars rest
  | '&' :: 'g' :: 't' :: ';' :: rest => '>' :: unescapeChars rest
  | '&' :: 'q' :: 'u' :: 'o' :: 't' :: ';' :: rest => '"' :: unescapeChars rest
  | '&' :: '#' :: '3' :: '9' :: ';' :: rest => '\'' :: unescapeChars rest
  | c :: rest => c :: unescapeChars rest
  | [] => []

/-- Escaping goes one character at a time. -/
theorem escapeChars_append (s t : List Char) :
    escapeChars (s ++ t) = escapeChars s ++ escapeChars t := by
  simp [escapeChars]

end KeyDirectory.Text.Entity
