import KeyDirectory.Key.Basic

/-!
# Records

What a source answers for an identity: its keys, and which kind of source had them.
-/

namespace KeyDirectory

/-- The kinds of sources. -/
inductive Origin where
  /-- Keys that a live connection uploaded. -/
  | upload
  /-- A file in a local folder. -/
  | folder
  /-- The remote directory. -/
  | remote
  deriving DecidableEq, Repr

/-- The word that answers name an origin by. -/
def Origin.text : Origin → String
  | upload => "ephemeral"
  | folder => "disk"
  | remote => "remote"

/-- The keys of an identity, all from one source. -/
structure KeyRecord where
  origin : Origin
  keys : List PublicKey
  deriving DecidableEq, Repr

end KeyDirectory
