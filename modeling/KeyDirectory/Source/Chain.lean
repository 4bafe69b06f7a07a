import KeyDirectory.Failure
import KeyDirectory.Record
import KeyDirectory.Source.Blocklist

/-!
# Chains of sources

Sources are combined into a tree.  A chain asks its members in order until one knows the
identity, so the keys of two sources are never mixed; a blocklist stands in front of a tree and
answers for it.
-/

namespace KeyDirectory

/-- What a source answers. -/
abbrev Answer := Except Failure KeyRecord

/-- A tree of sources. -/
inductive Chain (α : Type) where
  | source (a : α)
  /-- The inner tree, less the identities on a list. -/
  | barring (list : Blocklist) (inner : Chain α)
  /-- The first member that knows the identity. -/
  | firstOf (members : List (Chain α))

namespace Chain

instance : Inhabited (Chain α) := ⟨.firstOf []⟩

/-- A chain of sources, which must not be empty. -/
def ofMembers (members : List (Chain α)) : Except Failure (Chain α) :=
  if members.isEmpty then .error (.settings "resolver chain needs at least one repository")
  else .ok (.firstOf members)

/-- Whether the next member is asked after this answer. -/
def fallsThrough : Answer → Bool
  | .ok _ => false
  | .error failure => failure.isNotFound

variable {m : Type → Type} [Monad m]

mutual

/-- Asks a tree for an identity; `ask` asks one source. -/
def resolve (ask : α → String → m Answer) (identity : String) : Chain α → m Answer
  | .source a => ask a identity
  | .barring list inner =>
    if list.bars identity then pure (.error (.unavailable identity))
    else resolve ask identity inner
  | .firstOf members => resolveFirst ask identity (.error (.notFound identity)) members

/-- Asks members in turn; `last` is the answer when there is none left. -/
def resolveFirst (ask : α → String → m Answer) (identity : String) (last : Answer) :
    List (Chain α) → m Answer
  | [] => pure last
  | member :: members => do
    let answer ← resolve ask identity member
    if fallsThrough answer then resolveFirst ask identity answer members else pure answer

end

end Chain

end KeyDirectory
