import KeyDirectory.Text.Base64
import KeyDirectory.Text.Number
import KeyDirectory.Text.Split

/-!
# Encoded password hashes

The text form in which password hashes are kept: fields with a dollar sign in front of each,
`$name$v=version$parameters$salt$hash`, of which all but the name may be absent.
-/

namespace KeyDirectory.Password

/-- A hash with everything that is needed to compute it again. -/
structure Phc where
  algorithm : String
  version : Option Nat
  parameters : List (String × String)
  /-- The salt as it is written. -/
  salt : Option String
  hash : Option (List UInt8)
  deriving DecidableEq, Repr

namespace Phc

/-- The characters of the names of algorithms and parameters. -/
def isNameChar (c : Char) : Bool :=
  ('a' ≤ c && c ≤ 'z') || Text.isDigit c || c = '-'

/-- The characters of values. -/
def isValueChar (c : Char) : Bool :=
  c.isAlphanum || c = '/' || c = '+' || c = '.' || c = '-'

/-- The name of an algorithm or a parameter. -/
def isName (s : List Char) : Bool :=
  1 ≤ s.length && s.length ≤ 32 && s.all isNameChar

/-- The value of a parameter. -/
def isValue (s : List Char) : Bool :=
  s.length ≤ 64 && s.all isValueChar

/-- A number of thirty-two bits without needless zeros. -/
def readCount? (s : List Char) : Option Nat :=
  match s with
  | '0' :: _ :: _ => none
  | _ => if isValue s then Text.readDigits? Text.maxWord32 s else none

/-- One `name=value`. -/
def readParameter? (s : List Char) : Option (String × String) :=
  match Text.pieces '=' s with
  | [name, value] =>
    if isName name && isValue value then some (String.ofList name, String.ofList value) else none
  | _ => none

/-- Parameters separated by commas. -/
def readParameters? (s : List Char) : Option (List (String × String)) :=
  if s.length ≤ 127 then (Text.pieces ',' s).mapM readParameter? else none

/-- The salt as it is written. -/
def readSalt? (s : List Char) : Option String :=
  if 4 ≤ s.length && isValue s then some (String.ofList s) else none

/-- The hash itself. -/
def readHash? (s : List Char) : Option (List UInt8) := do
  let bytes ← Text.Base64.decodeUnpadded? s
  if 10 ≤ bytes.length ∧ bytes.length ≤ 64 then some bytes else none

/-- The version, when the next field is one, and the fields after it. -/
def takeVersion? : List (List Char) → Option (Option Nat × List (List Char))
  | ('v' :: '=' :: number) :: rest =>
    if number.contains ',' then some (none, ('v' :: '=' :: number) :: rest)
    else (readCount? number).map fun n => (some n, rest)
  | fields => some (none, fields)

/-- The parameters, when the next field holds some, and the fields after it. -/
def takeParameters? : List (List Char) → Option (List (String × String) × List (List Char))
  | field :: rest =>
    if field.contains '=' then (readParameters? field).map fun ps => (ps, rest)
    else some ([], field :: rest)
  | [] => some ([], [])

/-- Reads an encoded hash. -/
def parse? (s : String) : Option Phc :=
  match Text.pieces '$' s.toList with
  | [] :: name :: fields => do
    if !isName name then none
    else
      let (version, fields) ← takeVersion? fields
      let (parameters, fields) ← takeParameters? fields
      let algorithm := String.ofList name
      match fields with
      | [] => some ⟨algorithm, version, parameters, none, none⟩
      | [salt] => some ⟨algorithm, version, parameters, some (← readSalt? salt), none⟩
      | [salt, hash] =>
        some ⟨algorithm, version, parameters, some (← readSalt? salt), some (← readHash? hash)⟩
      | _ => none
  | _ => none

end Phc

end KeyDirectory.Password
