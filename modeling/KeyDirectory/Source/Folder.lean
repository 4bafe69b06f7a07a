import KeyDirectory.Files.Static
import KeyDirectory.Key.File
import KeyDirectory.Source.Chain

/-!
# The local folder

Keys from authorized_keys files that are named after identities and stand directly in one
folder.  A file that is there but cannot be read is a fatal failure, so a broken file never
uncovers what another source holds.
-/

namespace KeyDirectory.Folder

/-- Whether an identity can be the name of a file in the folder. -/
def isFileName (identity : String) : Bool :=
  identity ≠ "" && identity ≠ "." && identity ≠ ".." && !identity.toList.contains '/'

/-- The keys of an identity. -/
def get (root : Files.Node) (folder identity : String) : Answer :=
  if isFileName identity then
    let path := Files.join folder identity
    match root.read path with
    | .ok contents => .ok ⟨.folder, Key.parseFile contents⟩
    | .error .notFound => .error (.notFound identity)
    | .error e => .error (.internal (Files.readingFailed path e))
  else .error (.notFound identity)

end KeyDirectory.Folder
