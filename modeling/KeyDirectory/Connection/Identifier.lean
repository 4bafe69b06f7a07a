import KeyDirectory.Text.Number

/-!
# Identifiers of connections

A connection is named in logs by an identifier of sixteen random bytes, of which six bits are
fixed: four tell that the identifier is a random one (version four), two tell its layout.
-/

namespace KeyDirectory.Connection

/-- The identifier of a connection. -/
structure Identifier where
  bytes : List UInt8
  deriving DecidableEq, Repr

namespace Identifier

/-- The identifier that random bytes make. -/
def ofRandom (random : List UInt8) : Identifier :=
  ⟨(random.modify 6 fun b => (b &&& 0x0F) ||| 0x40).modify 8 fun b => (b &&& 0x3F) ||| 0x80⟩

/-- The version that an identifier tells. -/
def version (i : Identifier) : Nat :=
  (i.bytes.getD 6 0).toNat / 16

end Identifier

end KeyDirectory.Connection
