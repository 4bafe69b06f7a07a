import KeyDirectory.Crypto.Argon2
import KeyDirectory.Failure
import KeyDirectory.Password.Phc
import KeyDirectory.Text.Utf8

/-!
# Password schemes

A scheme turns passwords into text that may be kept and checks passwords against such text.
The one in use is Argon2 with its recommended costs; encoded hashes carry their own salt and
costs, so those of other settings are checked as well.
-/

namespace KeyDirectory.Password

/-- A way to keep passwords. -/
structure Scheme where
  /-- The text to keep for a password, made with a salt. -/
  hash : (salt : List UInt8) → (password : String) → Except Failure String
  /-- Whether a password fits a text that was kept. -/
  verify : (password kept : String) → Except Failure Bool
  /-- Whether a text is one to keep rather than a password. -/
  isKept : String → Bool

namespace Argon2

open Crypto.Argon2

/-- The number of random bytes in a salt. -/
def saltSize : Nat := 16

/-- The costs that new hashes are made with. -/
def recommended : Cost := ⟨19456, 2, 1⟩

/-- The bytes of a new hash. -/
def hashSize : Nat := 32

/-- The text to keep for a password. -/
def hash (salt : List UInt8) (password : String) : String :=
  let tag := digest .hybrid .mixing recommended hashSize (Text.Utf8.encodeText password) salt []
  "$argon2id$v=19$m=19456,t=2,p=1$" ++ String.ofList (Text.Base64.encodeUnpadded salt) ++ "$" ++
    String.ofList (Text.Base64.encodeUnpadded tag)

/-- The variant of the given name. -/
def variantNamed? : String → Option Variant
  | "argon2d" => some .dataDependent
  | "argon2i" => some .dataIndependent
  | "argon2id" => some .hybrid
  | _ => none

/-- The version of the given number; the newest one when none is given. -/
def versionNumbered? : Option Nat → Option Version
  | none | some 19 => some .mixing
  | some 16 => some .overwriting
  | some _ => none

/-- Bytes in unpadded base64, at most so many. -/
def readBytes? (limit : Nat) (s : String) : Option (List UInt8) := do
  let bytes ← Text.Base64.decodeUnpadded? s.toList
  if bytes.length ≤ limit then some bytes else none

/-- The costs and the associated data that parameters set; of a parameter that is given twice
the last one counts. -/
def readParameters? (parameters : List (String × String)) : Option (Cost × List UInt8) :=
  parameters.foldlM (fun (cost, associated) (name, value) =>
    match name with
    | "m" => (Phc.readCount? value.toList).map fun n => (⟨n, cost.passes, cost.lanes⟩, associated)
    | "t" => (Phc.readCount? value.toList).map fun n => (⟨cost.memory, n, cost.lanes⟩, associated)
    | "p" => (Phc.readCount? value.toList).map fun n => (⟨cost.memory, cost.passes, n⟩, associated)
    | "keyid" => (readBytes? 8 value).map fun _ => (cost, associated)
    | "data" => (readBytes? 32 value).map fun bytes => (cost, bytes)
    | _ => none) (recommended, [])

/-- The hash of a password with the salt and the costs of an encoded hash, when those are of the
kind that this scheme computes. -/
def recompute? (kept : Phc) (password : String) (size : Nat) : Option (List UInt8) := do
  let variant ← variantNamed? kept.algorithm
  let version ← versionNumbered? kept.version
  let (cost, associated) ← readParameters? kept.parameters
  let salt ← Text.Base64.decodeUnpadded? (← kept.salt).toList
  if cost.isValid && 8 ≤ salt.length then
    some (digest variant version cost size (Text.Utf8.encodeText password) salt associated)
  else none

/-- Whether a password fits an encoded hash. -/
def fits (password : String) (kept : Phc) : Bool :=
  match kept.hash with
  | none => false
  | some expected => recompute? kept password expected.length = some expected

/-- The detail of a text that is no encoded hash. -/
def malformedDetail : String := "Invalid password hash format: "

/-- What is wrong with such a text. -/
def malformedReason : String := "not a PHC string"

/-- Whether a password fits a text that was kept. -/
def verify (password kept : String) : Except Failure Bool :=
  match Phc.parse? kept with
  | none => .error (.settings (malformedDetail ++ malformedReason))
  | some phc => .ok (fits password phc)

/-- Whether a text is an encoded hash of this scheme's family. -/
def isKept (s : String) : Bool :=
  (Text.afterBeginning? "$argon2".toList s.toList).isSome && (Phc.parse? s).isSome

end Argon2

/-- The scheme in use. -/
def argon2 : Scheme where
  hash salt password := .ok (Argon2.hash salt password)
  verify := Argon2.verify
  isKept := Argon2.isKept

end KeyDirectory.Password
