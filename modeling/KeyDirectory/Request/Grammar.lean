import KeyDirectory.Server.Reach

/-!
# The grammar of key paths

What a key path is, said without the reader: a slash, an identity, an extension with a point in
front of it or none, and at most one more slash.
-/

namespace KeyDirectory

/-- A letter of the English alphabet, capital or small. -/
def IsLetter (c : Char) : Prop :=
  ('A' ≤ c ∧ c ≤ 'Z') ∨ ('a' ≤ c ∧ c ≤ 'z')

/-- A numeral from zero to nine. -/
def IsNumeral (c : Char) : Prop :=
  '0' ≤ c ∧ c ≤ '9'

namespace KeyPath

/-- The path has the two parts, of the characters that each may have, and ends with a slash or
not. -/
structure IsWritten (path : String) (p : KeyPath) (slash : Bool) : Prop where
  identity_ne : p.identity ≠ ""
  identity : ∀ c ∈ p.identity.toList, IsLetter c ∨ IsNumeral c ∨ c = '-'
  extension : ∀ c ∈ p.extension.toList, IsLetter c ∨ c = '_'
  written : path = p.text slash

/-- What no key path has. -/
inductive HasFault (path : String) : Prop where
  | secondPoint (h : 2 ≤ path.toList.count '.')
  | emptyExtension (before : String) (slash : Bool)
      (h : path = before ++ "." ++ if slash then "/" else "")
  | doubledSlash (h : ['/', '/'] <:+: path.toList)
  | percent (h : '%' ∈ path.toList)
  | foreign (c : Char) (h : c ∈ path.toList) (hc : 128 ≤ c.toNat)

end KeyPath

end KeyDirectory
