import KeyDirectory.Crypto.Words
import KeyDirectory.Text.Split
import KeyDirectory.Text.Utf8

/-!
# Key material and its wire form

What an SSH public key consists of, for each supported algorithm, and the wire form of RFC 4253
and its extensions: a sequence of fields, each with its length in front, of which the first one
is the algorithm's label.  `Material.ofWire?` reads a wire form completely or not at all;
`Material.wire` writes it.
-/

namespace KeyDirectory.Key

/-- The curves of ECDSA keys. -/
inductive Curve where
  | p256
  | p384
  | p521
  deriving DecidableEq, Repr

/-- The name of a curve in labels and on the wire. -/
def Curve.name : Curve → String
  | p256 => "nistp256"
  | p384 => "nistp384"
  | p521 => "nistp521"

/-- The bytes of a coordinate. -/
def Curve.coordinateSize : Curve → Nat
  | p256 => 32
  | p384 => 48
  | p521 => 66

/-- What a public key consists of.  Numbers, points and texts are kept as the bytes of their
fields. -/
inductive Material where
  | ed25519 (point : List UInt8)
  | rsa (exponent modulus : List UInt8)
  | dsa (p q g y : List UInt8)
  | ecdsa (curve : Curve) (point : List UInt8)
  /-- An Ed25519 key in a security key, bound to an application. -/
  | securityEd25519 (point application : List UInt8)
  /-- A P-256 key in a security key, bound to an application. -/
  | securityEcdsa (point application : List UInt8)
  /-- A key of an algorithm that is known by its name only. -/
  | named (label : String) (content : List UInt8)
  deriving DecidableEq, Repr

namespace Material

/-- The label of the algorithm. -/
def label : Material → String
  | ed25519 _ => "ssh-ed25519"
  | rsa _ _ => "ssh-rsa"
  | dsa _ _ _ _ => "ssh-dss"
  | ecdsa curve _ => "ecdsa-sha2-" ++ curve.name
  | securityEd25519 _ _ => "sk-ssh-ed25519@openssh.com"
  | securityEcdsa _ _ => "sk-ecdsa-sha2-nistp256@openssh.com"
  | named label _ => label

/-- The fields after the label. -/
def body : Material → List (List UInt8)
  | ed25519 point => [point]
  | rsa exponent modulus => [exponent, modulus]
  | dsa p q g y => [p, q, g, y]
  | ecdsa curve point => [Text.Utf8.encodeText curve.name, point]
  | securityEd25519 point application => [point, application]
  | securityEcdsa point application =>
    [Text.Utf8.encodeText Curve.p256.name, point, application]
  | named _ content => [content]

/-! ## What may stand in a field -/

/-- The greatest length of a field. -/
def maxFieldSize : Nat := 0xFFFFF

/-- The greatest length of a label. -/
def maxLabelSize : Nat := 48

/-- A number in its shortest form: no zero byte stands in front except to keep the sign. -/
def isShortestNumber : List UInt8 → Bool
  | [0] => false
  | 0 :: b :: _ => 0x80 ≤ b
  | _ => true

/-- A point of a curve with both coordinates, or with one and a sign.  That it lies on the curve
is not asked. -/
def isPoint (curve : Curve) : List UInt8 → Bool
  | [] => false
  | tag :: coordinates =>
    (tag = 4 && coordinates.length = 2 * curve.coordinateSize) ||
      ((tag = 2 || tag = 3) && coordinates.length = curve.coordinateSize)

/-- Any encoding of a point: besides the usual ones the point at infinity, and one coordinate
without a sign. -/
def isAnyPoint (curve : Curve) (point : List UInt8) : Bool :=
  isPoint curve point ||
    match point with
    | [] => false
    | tag :: coordinates =>
      (tag = 0 && coordinates.isEmpty) || (tag = 5 && coordinates.length = curve.coordinateSize)

/-- The characters of the algorithm and of the base64 part of a written key. -/
def isPlainChar (c : Char) : Bool :=
  c.isAlphanum || c = '+' || c = '-' || c = '/' || c = '=' || c = '@' || c = '.'

/-- The labels that stand for an algorithm with a form of its own. -/
def reservedLabels : List String :=
  ["ssh-ed25519", "ssh-rsa", "rsa-sha2-256", "rsa-sha2-512", "ssh-dss", "ecdsa-sha2-nistp256",
    "ecdsa-sha2-nistp384", "ecdsa-sha2-nistp521", "sk-ssh-ed25519@openssh.com",
    "sk-ecdsa-sha2-nistp256@openssh.com"]

/-- A label of the form `name@domain` that is not reserved. -/
def isDomainLabel (label : String) : Bool :=
  let s := label.toList
  s.length ≤ maxLabelSize && s.all isPlainChar && !reservedLabels.contains label &&
    match Text.cutAtFirst '@' s with
    | some (name, domain) => !name.isEmpty && !domain.isEmpty && !domain.contains '@'
    | none => false

/-- Whether the fields hold what their algorithm asks for. -/
def hasValidFields : Material → Bool
  | ed25519 point => point.length = 32
  | rsa exponent modulus => isShortestNumber exponent && isShortestNumber modulus
  | dsa p q g y =>
    isShortestNumber p && isShortestNumber q && isShortestNumber g && isShortestNumber y
  | ecdsa curve point => isPoint curve point
  | securityEd25519 point application =>
    point.length = 32 && (Text.Utf8.decode? application).isSome
  | securityEcdsa point application =>
    isAnyPoint .p256 point && (Text.Utf8.decode? application).isSome
  | named label _ => isDomainLabel label

/-- Whether the fields hold what their algorithm asks for and can stand on the wire: each is
short enough, and the last one is not empty. -/
def isWellFormed (m : Material) : Bool :=
  m.hasValidFields && (m.body.all fun field => field.length ≤ maxFieldSize) &&
    m.body.getLast? ≠ some []

/-! ## Wire form -/

/-- A field with its length in front. -/
def writeField (field : List UInt8) : List UInt8 :=
  Crypto.bigEndian32 (UInt32.ofNat field.length) ++ field

/-- The wire form. -/
def wire (m : Material) : List UInt8 :=
  (Text.Utf8.encodeText m.label :: m.body).flatMap writeField

/-- The first field and what follows it. -/
def readField? : List UInt8 → Option (List UInt8 × List UInt8)
  | a :: b :: c :: d :: rest =>
    let size := ((a.toNat * 256 + b.toNat) * 256 + c.toNat) * 256 + d.toNat
    if size ≤ maxFieldSize ∧ size ≤ rest.length then some (rest.take size, rest.drop size)
    else none
  | _ => none

/-- Reading a field shortens what is left, so that fields can be read one after the other. -/
theorem readField?_length {bytes field rest : List UInt8}
    (h : readField? bytes = some (field, rest)) : rest.length < bytes.length := by
  match bytes, h with
  | a :: b :: c :: d :: more, h =>
    simp only [readField?] at h
    split at h
    · simp only [Option.some.injEq, Prod.mk.injEq] at h
      rw [← h.2]
      simp only [List.length_drop, List.length_cons]
      omega
    · simp at h

/-- All fields of a wire form, when nothing is left over. -/
def readFields? (bytes : List UInt8) : Option (List (List UInt8)) :=
  if bytes.isEmpty then some []
  else
    match h : readField? bytes with
    | none => none
    | some (field, rest) =>
      have : rest.length < bytes.length := readField?_length h
      (readFields? rest).map (field :: ·)
  termination_by bytes.length

/-- The curve of the given name. -/
def curveNamed? (name : List UInt8) : Option Curve :=
  [Curve.p256, .p384, .p521].find? fun curve => name = Text.Utf8.encodeText curve.name

/-- The material of a label and the fields after it, whatever the fields hold.  The labels of
RSA signatures stand for RSA keys as well. -/
def ofBody? (label : String) (body : List (List UInt8)) : Option Material :=
  match label, body with
  | "ssh-ed25519", [point] => some (ed25519 point)
  | "ssh-rsa", [exponent, modulus] | "rsa-sha2-256", [exponent, modulus]
  | "rsa-sha2-512", [exponent, modulus] => some (rsa exponent modulus)
  | "ssh-dss", [p, q, g, y] => some (dsa p q g y)
  | "sk-ssh-ed25519@openssh.com", [point, application] => some (securityEd25519 point application)
  | "sk-ecdsa-sha2-nistp256@openssh.com", [curve, point, application] =>
    if curveNamed? curve = some .p256 then some (securityEcdsa point application) else none
  | label, [content] => some (named label content)
  | label, [curve, point] =>
    match curveNamed? curve with
    | some curve => if label = "ecdsa-sha2-" ++ curve.name then some (ecdsa curve point) else none
    | none => none
  | _, _ => none

/-- Reads a wire form: every byte belongs to a field, the label is short enough, and the material
is well-formed. -/
def ofWire? (bytes : List UInt8) : Option Material := do
  match ← readFields? bytes with
  | [] => none
  | first :: body =>
    if first.length > maxLabelSize then none
    else
      let material ← ofBody? (← Text.Utf8.decodeText? first) body
      if material.isWellFormed then some material else none

end Material

end KeyDirectory.Key
