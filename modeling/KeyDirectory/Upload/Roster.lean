import KeyDirectory.Source.Chain
import KeyDirectory.Text.Quoted
import KeyDirectory.Timestamp
import KeyDirectory.Upload.Identity

/-!
# The roster of uploaded keys

The roster holds the keys of the live connections under generated identities.  An entry lives
as long as the lease that was given out for it: revoking the lease, or dropping it, takes the
entry away, and a lease that was revoked never touches the roster again.
-/

namespace KeyDirectory.Upload

/-- The keys of a live connection. -/
structure Entry where
  keys : List PublicKey
  created : Timestamp
  deriving DecidableEq, Repr

/-- The entries by identity. -/
structure Roster where
  /-- What every generated identity starts with. -/
  beginning : String
  /-- How many identities were counted, for want of random bytes. -/
  counted : Nat
  entries : List (String × Entry)
  deriving DecidableEq, Repr

/-- The right to an entry, held by the connection that made it. -/
structure Lease where
  identity : String
  revoked : Bool
  deriving DecidableEq, Repr

namespace Roster

/-- The roster without entries. -/
def empty (beginning : String) : Roster := ⟨beginning, 0, []⟩

/-- The entry of an identity. -/
def entry? (r : Roster) (identity : String) : Option Entry :=
  r.entries.lookup identity

/-- Whether an identity is live. -/
def contains (r : Roster) (identity : String) : Bool :=
  r.entry? identity |>.isSome

/-- The number of live identities. -/
def size (r : Roster) : Nat :=
  r.entries.length

/-- The roster without the entry of an identity. -/
def erase (r : Roster) (identity : String) : Roster :=
  { r with entries := r.entries.filter fun (name, _) => name ≠ identity }

/-- Stores an entry under an identity that is vacant. -/
def registerAs (r : Roster) (identity : String) (entry : Entry) : Option (Roster × Lease) :=
  if r.contains identity then none
  else some ({ r with entries := (identity, entry) :: r.entries }, ⟨identity, false⟩)

/-- Generates an identity from random bytes, or from a count when the generator fails; it fails
when it has no more bytes. -/
def nextIdentity (r : Roster) (reads : List (List UInt8)) :
    String × Roster × List (List UInt8) :=
  match drawIdentity reads with
  | some (random, rest) => (r.beginning ++ random, r, rest)
  | none => (r.beginning ++ toString r.counted, { r with counted := r.counted + 1 }, [])

/-- Stores keys under a generated identity; one that is in use is generated again.  With so many
tries one of them meets a vacant identity. -/
def register (r : Roster) (reads : List (List UInt8)) (entry : Entry) :
    Option (Roster × Lease × List (List UInt8)) :=
  go (reads.length + r.entries.length + 1) r reads
where
  /-- Tries at most so many identities. -/
  go : Nat → Roster → List (List UInt8) → Option (Roster × Lease × List (List UInt8))
    | 0, _, _ => none
    | tries + 1, r, reads =>
      let (identity, r, rest) := r.nextIdentity reads
      match r.registerAs identity entry with
      | some (r', lease) => some (r', lease, rest)
      | none => go tries r rest

/-- Takes the entry of a lease away, unless the lease was revoked before. -/
def revoke (r : Roster) (lease : Lease) : Roster × Lease :=
  if lease.revoked then (r, lease) else (r.erase lease.identity, { lease with revoked := true })

/-- The keys of an identity. -/
def get (r : Roster) (identity : String) : Answer :=
  match r.entry? identity with
  | some entry => .ok ⟨.upload, entry.keys⟩
  | none => .error (.notFound identity)

end Roster

/-- A short description of a lease for logs. -/
def Lease.description (lease : Lease) : String :=
  "Registration \x7b identity: " ++ Text.Quoted.quote lease.identity ++ ", revoked: " ++
    toString lease.revoked ++ " \x7d"

end KeyDirectory.Upload
