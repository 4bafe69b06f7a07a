import KeyDirectory.Source.Folder

/-!
# What the local folder reads

The same resolution with any way to read files, so that it can be told which paths are read for an
identity; and the entry of the folder that an answer depends on, of all that there is.
-/

namespace KeyDirectory

namespace Files

/-- What stands at a place of a tree, without what is further below. -/
inductive Kind where
  | file (contents : List UInt8)
  | locked
  | folder
  deriving DecidableEq, Repr

namespace Node

/-- What a node is by itself. -/
def kind : Node → Kind
  | file contents => .file contents
  | locked => .locked
  | folder _ => .folder

/-- Whether a node has entries. -/
def isFolder (node : Node) : Bool :=
  node.kind = .folder

/-- What has the name directly in a node.  There is nothing in a file. -/
def child? (node : Node) (name : String) : Option Node :=
  match node with
  | file _ | locked => none
  | folder entries => entry? name entries

end Node

end Files

namespace Folder

open Files

/-! ## Reading by any means -/

section

variable {m : Type → Type} [Monad m]

/-- The keys of an identity, however files are read. -/
def getWith (read : String → m (Except PathError (List UInt8))) (folder identity : String) :
    m Answer := do
  if isFileName identity then
    let path := join folder identity
    match ← read path with
    | .ok contents => return .ok ⟨.folder, Key.parseFile contents⟩
    | .error .notFound => return .error (.notFound identity)
    | .error e => return .error (.internal (readingFailed path e))
  else return .error (.notFound identity)

end

/-- Reads a file and writes down its path. -/
def recordingReads (root : Node) (path : String) :
    StateM (List String) (Except PathError (List UInt8)) := do
  modify (· ++ [path])
  return root.read path

/-- Resolves an identity and tells which paths were read for it. -/
def getTelling (root : Node) (folder identity : String) : Answer × List String :=
  (getWith (recordingReads root) folder identity).run []

/-- What reading the file of an identity brings, by what is known of the folder alone: whether there
is a folder at its path, and what has the name of the identity in it. -/
def readEntry (isFolder : Bool) (kind : Option Kind) (folder identity : String) :
    Except PathError (List UInt8) :=
  if '\x00' ∈ identity.toList then .error .nulCharacter
  else if maxPathSize < (join folder identity).utf8ByteSize then .error .nameTooLong
  else if isFolder = false then .error .notFolder
  else if maxNameSize < identity.utf8ByteSize then .error .nameTooLong
  else
    match kind with
    | none => .error .notFound
    | some (.file contents) => .ok contents
    | some .locked => .error .denied
    | some .folder => .error .isFolder

/-! ## What is expected of an answer -/

/-- An identity that is the name of one file: it leads neither elsewhere nor further down. -/
structure IsPlainName (identity : String) : Prop where
  notEmpty : identity ≠ ""
  oneStep : '/' ∉ identity.toList
  notHere : identity ≠ "."
  notAbove : identity ≠ ".."

/-- The system can look for a file of this name in the folder. -/
structure IsPossible (folder identity : String) : Prop where
  noNul : '\x00' ∉ identity.toList
  name : identity.utf8ByteSize ≤ maxNameSize
  path : (join folder identity).utf8ByteSize ≤ maxPathSize

/-- Why the file of an identity cannot be read, where `here` is what stands at the path of the
folder. -/
inductive Hinders (here : Node) (folder identity : String) : PathError → Prop
  | nul (held : '\x00' ∈ identity.toList) : Hinders here folder identity .nulCharacter
  | longName (long : maxNameSize < identity.utf8ByteSize) :
    Hinders here folder identity .nameTooLong
  | longPath (long : maxPathSize < (join folder identity).utf8ByteSize) :
    Hinders here folder identity .nameTooLong
  | noFolder (is : here.isFolder = false) : Hinders here folder identity .notFolder
  | isFolder (is : (here.child? identity).map Node.kind = some .folder) :
    Hinders here folder identity .isFolder
  | locked (is : (here.child? identity).map Node.kind = some .locked) :
    Hinders here folder identity .denied

/-- What is owed for an identity, where `here` is what stands at the path of the folder: an answer,
and the paths that are read for it. -/
structure Answers (here : Node) (folder identity : String) (told : Answer × List String) :
    Prop where
  /-- No other identity has a file, and nothing is read for it. -/
  refused : ¬ IsPlainName identity → told = (.error (.notFound identity), [])
  reads : IsPlainName identity → told.2 = [join folder identity]
  found : IsPlainName identity → IsPossible folder identity → ∀ contents,
    (here.child? identity).map Node.kind = some (.file contents) →
      told.1 = .ok ⟨.folder, Key.parseFile contents⟩
  absent : IsPlainName identity → IsPossible folder identity → here.isFolder = true →
    here.child? identity = none → told.1 = .error (.notFound identity)
  /-- What is there and cannot be read, or cannot even be looked for, is a fatal failure that tells
  why. -/
  hindered : IsPlainName identity → (∃ e, Hinders here folder identity e) →
    ∃ e, Hinders here folder identity e ∧
      told.1 = .error (.internal (readingFailed (join folder identity) e))
  /-- The next source is asked only where there is nothing of that name. -/
  kept : IsPlainName identity → here.child? identity ≠ none →
    Chain.fallsThrough told.1 = false

end Folder

end KeyDirectory
