import KeyDirectory.Crypto.Sha256
import KeyDirectory.Failure
import KeyDirectory.Key.Material
import KeyDirectory.Text.Base64

/-!
# Public keys

A public key is well-formed key material.  It has one canonical text, `algorithm base64`, which
is all that the library ever serves of it, and a fingerprint for display.
-/

namespace KeyDirectory

/-- An SSH public key. -/
structure PublicKey where
  material : Key.Material
  isWellFormed : material.isWellFormed = true
  deriving DecidableEq, Repr

namespace PublicKey

/-- The name of the key's algorithm. -/
def algorithm (key : PublicKey) : String :=
  key.material.label

/-- The wire form of the key. -/
def wire (key : PublicKey) : List UInt8 :=
  key.material.wire

/-- The one text that the key is served as: no options and no comment. -/
def canonical (key : PublicKey) : String :=
  key.algorithm ++ " " ++ String.ofList (Text.Base64.encode key.wire)

/-- The SHA-256 fingerprint of the wire form. -/
def fingerprint (key : PublicKey) : String :=
  "SHA256:" ++ String.ofList (Text.Base64.encodeUnpadded (Crypto.Sha256.digest key.wire))

/-- A short description for logs. -/
def description (key : PublicKey) : String :=
  "PublicKey(" ++ key.algorithm ++ " " ++ key.fingerprint ++ ")"

/-- The key of a wire form. -/
def ofWire? (bytes : List UInt8) : Option PublicKey :=
  match Key.Material.ofWire? bytes with
  | none => none
  | some material => if h : material.isWellFormed = true then some ⟨material, h⟩ else none

end PublicKey

end KeyDirectory
