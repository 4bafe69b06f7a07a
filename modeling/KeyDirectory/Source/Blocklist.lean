import KeyDirectory.Text.Blank
import KeyDirectory.Text.Lowercase

/-!
# Blocklists

The identities that must not be served, whatever their case.
-/

namespace KeyDirectory

/-- The barred identities, in lower case and without blanks around, each once. -/
structure Blocklist where
  names : List String
  deriving DecidableEq, Repr

namespace Blocklist

/-- The list of the given names; those that are blank do not count. -/
def ofNames (names : List String) : Blocklist :=
  ⟨((names.map fun name => Text.lowerCase (Text.trimText name)).filter
    fun name => !name.isEmpty).eraseDups⟩

/-- Whether an identity must not be served. -/
def bars (list : Blocklist) (identity : String) : Bool :=
  list.names.contains (Text.lowerCase identity)

/-- The number of barred names. -/
def size (list : Blocklist) : Nat :=
  list.names.length

end Blocklist

end KeyDirectory
