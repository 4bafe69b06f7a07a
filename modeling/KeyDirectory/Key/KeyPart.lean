import KeyDirectory.Key.Material
import KeyDirectory.Text.Base64
import KeyDirectory.Text.Blank

/-!
# The key part of a line

A line holds a name of an algorithm and, in base64, a wire form of a key of that algorithm.  What
stands in front of them and after them is no part of the key.

A wire form names its algorithm in front of its fields.  An RSA key goes by the name of the
algorithm and by the names of its two signatures, so it has three wire forms, and what a key is
served with is the first of them.
-/

namespace KeyDirectory.Key

namespace Material

/-- The names that a wire form of the material may begin with. -/
def labels : Material → List String
  | rsa _ _ => ["ssh-rsa", "rsa-sha2-256", "rsa-sha2-512"]
  | m => [m.label]

/-- The bytes are a wire form of the material. -/
def IsWire (bytes : List UInt8) (m : Material) : Prop :=
  m.isWellFormed = true ∧
    ∃ label ∈ m.labels, bytes = (Text.Utf8.encodeText label :: m.body).flatMap writeField

/-- The bytes with the name of the algorithm where they begin with the name of an RSA signature. -/
def plainLabelled (bytes : List UInt8) : List UInt8 :=
  match readField? bytes with
  | none => bytes
  | some (label, rest) =>
    if label = Text.Utf8.encodeText "rsa-sha2-256" ∨
        label = Text.Utf8.encodeText "rsa-sha2-512" then
      writeField (Text.Utf8.encodeText "ssh-rsa") ++ rest
    else bytes

end Material

/-- The text is the name of an algorithm, one space and the base64 form of the bytes, with nothing
after them or with a space and a comment. -/
def IsKeyText (s : List Char) (algorithm : String) (wire : List UInt8) : Prop :=
  ∃ tail, s = algorithm.toList ++ ' ' :: (Text.Base64.encode wire ++ tail) ∧
    (tail = [] ∨ ∃ comment, tail = ' ' :: comment)

/-- The key part of the line: the name of an algorithm and a wire form of a key of it.  Blanks
around the line, options in front of a space, and a comment do not matter. -/
def CarriesKey (line : List Char) (algorithm : String) (wire : List UInt8) : Prop :=
  (∃ m : Material, m.label = algorithm ∧ Material.IsWire wire m) ∧
    (IsKeyText (Text.trim line) algorithm wire ∨
      ∃ options rest, Text.trim line = options ++ ' ' :: rest ∧ ' ' ∉ options ∧
        IsKeyText rest algorithm wire)

end KeyDirectory.Key
