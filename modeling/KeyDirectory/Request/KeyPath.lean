/-!
# Paths that name a listing

A listing is asked for as `/identity` or `/identity.extension`, with or without one slash at the
end.  Everything else names no listing.
-/

namespace KeyDirectory

/-- The identity and the extension that a path names; the extension is empty when the path has
none. -/
structure KeyPath where
  identity : String
  extension : String
  deriving DecidableEq, Repr

namespace KeyPath

/-- The characters of an identity. -/
def isIdentityChar (c : Char) : Bool :=
  c.isAlphanum || c = '-'

/-- The characters of an extension. -/
def isExtensionChar (c : Char) : Bool :=
  c.isAlpha || c = '_'

/-- The text without one slash at its end. -/
def withoutLastSlash (s : List Char) : List Char :=
  if s.getLast? = some '/' then s.dropLast else s

/-- The part before the first point, and the part after it when there is one. -/
def splitAtPoint (s : List Char) : List Char × Option (List Char) :=
  let before := s.takeWhile (· ≠ '.')
  match s.dropWhile (· ≠ '.') with
  | [] => (before, none)
  | _ :: after => (before, some after)

/-- Reads a path. -/
def parseChars? : List Char → Option KeyPath
  | '/' :: rest =>
    let (identity, extension) := splitAtPoint (withoutLastSlash rest)
    let extensionIsValid := match extension with
      | none => true
      | some e => !e.isEmpty && e.all isExtensionChar
    if !identity.isEmpty && identity.all isIdentityChar && extensionIsValid then
      some ⟨String.ofList identity, String.ofList (extension.getD [])⟩
    else none
  | _ => none

/-- Reads a path. -/
def parse? (path : String) : Option KeyPath :=
  parseChars? path.toList

end KeyPath

end KeyDirectory
