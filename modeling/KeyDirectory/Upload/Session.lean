import KeyDirectory.Connection.Session
import KeyDirectory.Key.Line
import KeyDirectory.Upload.Roster

/-!
# Upload sessions

What a connection does at the upload point: it reads one line, and if that is a public key,
puts it on the roster, tells the peer under which identity, and keeps it there until the
connection is cancelled.
-/

namespace KeyDirectory.Upload

open Connection

/-- What upload sessions share. -/
structure Desk where
  roster : Roster
  /-- What the next reads of the random generator bring. -/
  randomness : List (List UInt8)
  /-- The time that is noted for entries. -/
  today : Timestamp
  deriving DecidableEq, Repr

/-- Puts keys on the roster. -/
def Desk.register (d : Desk) (keys : List PublicKey) : Option (Desk × Lease) :=
  (d.roster.register d.randomness ⟨keys, d.today⟩).map fun (roster, lease, rest) =>
    ({ d with roster := roster, randomness := rest }, lease)

/-- Takes the keys of a lease off the roster. -/
def Desk.revoke (d : Desk) (lease : Lease) : Desk × Lease :=
  let (roster, lease) := d.roster.revoke lease
  ({ d with roster := roster }, lease)

/-- Where an upload session stands. -/
inductive Stage where
  | arriving
  | awaitingKey
  | registering (key : PublicKey)
  | registered (lease : Lease)
  /-- The identity is to be told. -/
  | telling (lease : Lease)
  | holding (lease : Lease)
  | revoking (lease : Lease)
  | leaving
  deriving DecidableEq, Repr

namespace Stage

/-- Where a message leads: nowhere, unless it is a public key. -/
def ofMessage (line : String) : Stage :=
  match Key.parse line with
  | .ok key => registering key
  | .error _ => leaving

/-- What an upload session does next. -/
def call : Stage → Call Desk Stage
  | arriving => .publish .awaitingKey awaitingKey
  | awaitingKey =>
    .read fun
      | some line => ofMessage line
      | none => leaving
  | registering key =>
    .act fun desk =>
      match desk.register [key] with
      | some (desk, lease) => (desk, registered lease)
      | none => (desk, leaving)
  | registered lease => .publish .registered (telling lease)
  | telling lease =>
    .write lease.identity fun accepted => if accepted then holding lease else revoking lease
  | holding lease => .wait (revoking lease)
  | revoking lease => .act fun desk => ((desk.revoke lease).1, leaving)
  | leaving => .finish

end Stage

/-- The session of an upload. -/
def session : Session Desk Stage := ⟨.arriving, Stage.call⟩

end KeyDirectory.Upload
