import KeyDirectory.Upload.Roster

/-!
# The roster and its leases

Everything that can be done to a roster and to the leases given out for it, in any order: leases
are revoked once or several times, early or late, and dropped.  Beside it stands a ledger that only
writes down who was given a lease for which keys and who gave one up.  It knows no identities, so
it cannot mistake one lease for another that has the same identity.
-/

namespace KeyDirectory.Upload

/-- A roster with the leases given out for it, by number; nothing is left of one that was
dropped. -/
structure Tenancy where
  roster : Roster
  leases : List (Option Lease)
  deriving DecidableEq, Repr

namespace Tenancy

/-- An operation on a roster or on a lease. -/
inductive Operation where
  /-- Keys are stored, and a lease is given out for them. -/
  | register (today : Timestamp) (reads : List (List UInt8)) (keys : List PublicKey)
  | revoke (i : Nat)
  | drop (i : Nat)
  | get (identity : String)
  deriving DecidableEq, Repr

/-- No keys are stored yet. -/
def opened (beginning : String) : Tenancy := ⟨.empty beginning, []⟩

/-- Stores keys under a generated identity. -/
def register (t : Tenancy) (today : Timestamp) (reads : List (List UInt8))
    (keys : List PublicKey) : Tenancy :=
  match t.roster.register reads ⟨keys, today⟩ with
  | some (roster, lease, _) => ⟨roster, t.leases ++ [some lease]⟩
  | none => t

/-- Revokes a lease, whether it was revoked before or not. -/
def revoke (t : Tenancy) (i : Nat) : Tenancy :=
  match t.leases[i]? with
  | some (some lease) =>
    let (roster, lease) := t.roster.revoke lease
    ⟨roster, t.leases.set i (some lease)⟩
  | _ => t

/-- Drops a lease, which revokes it. -/
def drop (t : Tenancy) (i : Nat) : Tenancy :=
  match t.leases[i]? with
  | some (some lease) => ⟨(t.roster.revoke lease).1, t.leases.set i none⟩
  | _ => t

/-- Carries an operation out.  Looking up changes nothing. -/
def step (t : Tenancy) : Operation → Tenancy
  | .register today reads keys => t.register today reads keys
  | .revoke i => t.revoke i
  | .drop i => t.drop i
  | .get _ => t

/-- Carries operations out one after the other. -/
def run (t : Tenancy) (ops : List Operation) : Tenancy :=
  ops.foldl step t

/-! ## The ledger -/

/-- For each lease by number the keys that it was given out for, as long as it was neither revoked
nor dropped. -/
abbrev Ledger := List (Option (List PublicKey))

/-- Writes an operation down. -/
def Ledger.note (book : Ledger) : Operation → Ledger
  | .register _ _ keys => book ++ [some keys]
  | .revoke i | .drop i => book.set i none
  | .get _ => book

/-- The ledger of operations one after the other. -/
def ledger (ops : List Operation) : Ledger :=
  ops.foldl Ledger.note []

/-- The identity and the keys of a lease that the ledger has as live. -/
def holding : Option Lease × Option (List PublicKey) → Option (String × List PublicKey)
  | (some lease, some keys) => some (lease.identity, keys)
  | _ => none

/-- The identities and the keys of all leases that the ledger has as live. -/
def live (t : Tenancy) (book : Ledger) : List (String × List PublicKey) :=
  (t.leases.zip book).filterMap holding

/-- The roster agrees with the ledger: there is one lease for each line of the ledger, and the
roster lists the live ones, under distinct identities, with the keys that they were given out for,
and nothing else.  A lease that is not live can be revoked or dropped, and the roster stays as it
is. -/
structure Agrees (t : Tenancy) (book : Ledger) : Prop where
  numbered : t.leases.length = book.length
  leased : ∀ (i : Nat) (keys : List PublicKey), book[i]? = some (some keys) →
    ∃ lease, t.leases[i]? = some (some lease) ∧
      t.roster.get lease.identity = .ok ⟨.upload, keys⟩
  apart : ((t.live book).map Prod.fst).Nodup
  exact : (t.roster.entries.map fun (identity, entry) => (identity, entry.keys)).Perm (t.live book)
  vacant : ∀ identity, identity ∉ (t.live book).map Prod.fst →
    t.roster.get identity = .error (.notFound identity)
  size_eq : t.roster.size = book.countP Option.isSome
  spent : ∀ i, book[i]?.join = none →
    (t.revoke i).roster = t.roster ∧ (t.drop i).roster = t.roster

end Tenancy

end KeyDirectory.Upload
