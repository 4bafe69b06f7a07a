import KeyDirectory.Text.Base64
import KeyDirectory.Text.Blank
import KeyDirectory.Text.Split
import KeyDirectory.Text.Utf8

/-!
# Basic credentials

The `Authorization` header of RFC 7617: the word `Basic` in any case, a space, and the padded
base64 of `user:password`.  The user ends at the first colon, so a password may hold colons.
-/

namespace KeyDirectory

/-- A user and a password, as a client sent them. -/
structure BasicCredentials where
  user : String
  password : String
  deriving DecidableEq, Repr

namespace BasicCredentials

/-- Reads the text `user:password`. -/
def ofPair? (s : List Char) : Option BasicCredentials :=
  (Text.cutAtFirst ':' s).map fun (user, password) =>
    ⟨String.ofList user, String.ofList password⟩

/-- Reads the value of a header. -/
def parseChars? (header : List Char) : Option BasicCredentials := do
  let (scheme, encoded) ← Text.cutAtFirst ' ' (Text.trim header)
  if scheme.map Char.toLower = "basic".toList then
    let bytes ← Text.Base64.decode? (Text.trim encoded)
    ofPair? (← Text.Utf8.decode? bytes)
  else none

/-- Reads the value of a header. -/
def parse? (header : String) : Option BasicCredentials :=
  parseChars? header.toList

/-- The value of a header that carries the credentials. -/
def write (c : BasicCredentials) : String :=
  let pair := Text.Utf8.encodeText (c.user ++ ":" ++ c.password)
  "Basic " ++ String.ofList (Text.Base64.encode pair)

end BasicCredentials

end KeyDirectory
