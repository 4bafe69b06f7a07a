import KeyDirectory.Upload.Access

/-!
# Whom uploads admit

The credentials in the settings and the header of a request, each described by its text, and when
the one fits the other.  Of the way passwords are hashed, no more is said than what is relied on.
-/

namespace KeyDirectory

namespace Password

/-- The text begins as an Argon2 hash does and is an encoded hash. -/
def IsEncodedHash (s : String) : Prop :=
  "$argon2".toList <+: s.toList ∧ (Phc.parse? s).isSome = true

/-- What is relied on in a way to keep passwords, with the salt that the gate has drawn: every
password can be hashed with it, a hash made with it fits the password that it was made from and no
other, and encoded hashes are told from passwords.  Of other salts nothing is said: one that is too
short for the scheme may well be refused. -/
structure Scheme.IsLawful (scheme : Scheme) (salt : List UInt8) : Prop where
  hashes : ∀ password, ∃ kept, scheme.hash salt password = .ok kept
  verifies : ∀ {password kept}, scheme.hash salt password = .ok kept →
    ∀ given, scheme.verify given kept = .ok true ↔ given = password
  recognises : ∀ s, scheme.isKept s = true ↔ IsEncodedHash s

/-- The given password fits the one in the settings: it is the same, or fits it where that is an
encoded hash. -/
def Scheme.Fits (scheme : Scheme) (configured given : String) : Prop :=
  (IsEncodedHash configured ∧ scheme.verify given configured = .ok true) ∨
    (¬ IsEncodedHash configured ∧ given = configured)

end Password

/-- The credentials are the user, a colon and the password; the user is not empty and holds no
colon. -/
def IsPair (credentials user password : String) : Prop :=
  credentials = user ++ ":" ++ password ∧ user ≠ "" ∧ ':' ∉ user.toList

/-- The header is, but for blanks around it, the word `basic` in any case, a space and, but for
blanks around it, the base64 form of the user, a colon and the password.  The user holds no
colon. -/
def CarriesBasic (header user password : String) : Prop :=
  ':' ∉ user.toList ∧ ∃ word encoded, Text.trim header.toList = word ++ ' ' :: encoded ∧
    word.map Char.toLower = "basic".toList ∧
      Text.trim encoded = Text.Base64.encode (Text.Utf8.encodeText (user ++ ":" ++ password))

/-- There is a header that carries the user and a password that fits. -/
def Upload.Opens (scheme : Password.Scheme) (user password : String)
    (authorization : Option String) : Prop :=
  ∃ header given, authorization = some header ∧ CarriesBasic header user given ∧
    scheme.Fits password given

end KeyDirectory
