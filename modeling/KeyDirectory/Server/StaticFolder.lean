import KeyDirectory.Source.FolderEntry

/-!
# What stands below the folder of static files

The same serving with any way to look at paths and to read files, so that it can be told what is
touched for a request; what stands below a folder, and when two trees are alike there; what a
request is owed.
-/

namespace KeyDirectory.Files

/-! ## Below a node -/

namespace Node

/-- What is reached from a node by taking one name after another. -/
def descend? : Node → List String → Option Node
  | here, [] => some here
  | here, name :: names => (here.child? name).bind fun next => next.descend? names

/-- All that is below a node may be read. -/
def IsOpen (here : Node) : Prop :=
  ∀ names, here.descend? names ≠ some .locked

/-- What the names of a request are taken from.  The empty path leads nowhere by itself, but a name
joined to it is looked for in the topmost folder. -/
def startAt (root : Node) (folder : String) : Except PathError Node :=
  if folder = "" then .ok root else root.find folder

end Node

/-- Two nodes have the same below them, whatever the order in which they hold it. -/
def IsLike (a b : Node) : Prop :=
  ∀ names, (a.descend? names).map Node.kind = (b.descend? names).map Node.kind

/-- Two paths lead to nodes that have the same below them, or nowhere for the same reason. -/
inductive Alike : Except PathError Node → Except PathError Node → Prop
  | ok {a b : Node} (like : IsLike a b) : Alike (.ok a) (.ok b)
  | error (e : PathError) : Alike (.error e) (.error e)

/-! ## Serving by any means -/

section

variable {m : Type → Type} [Monad m]

/-- Reads the file at a path and tells its content type, however files are read. -/
def serveFileWith (read : String → m (Except PathError (List UInt8))) (path : String) :
    m (Except Failure (Option Served)) := do
  match ← read path with
  | .ok body => return .ok (some ⟨contentType path, body⟩)
  | .error e => return .error (failureOf e)

/-- The file that a request path names below a folder, however paths are looked at and files read.
What is looked for is whether there is a folder at a path. -/
def serveWith (look : String → m (Except PathError Bool))
    (read : String → m (Except PathError (List UInt8))) (folder relative : String) :
    m (Except Failure (Option Served)) := do
  match staticPath? folder relative with
  | none => return .ok none
  | some path =>
    match ← look path with
    | .error .notFound => return .ok none
    | .error e => return .error (failureOf e)
    | .ok false => serveFileWith read path
    | .ok true =>
      let index := join path "index.html"
      match ← look index with
      | .ok false => serveFileWith read index
      | .ok true => return .ok none
      | .error .notFound => return .ok none
      | .error e => return .error (failureOf e)

end

/-- What is done to a path. -/
inductive Access where
  | looksAt (path : String)
  | reads (path : String)
  deriving DecidableEq, Repr

/-- The path that is touched. -/
def Access.path : Access → String
  | looksAt path | reads path => path

/-- Looks at a path and writes it down. -/
def recordingLook (root : Node) (path : String) : StateM (List Access) (Except PathError Bool) := do
  modify (· ++ [.looksAt path])
  return (root.find path).map Node.isFolder

/-- Reads a file and writes down its path. -/
def recordingRead (root : Node) (path : String) :
    StateM (List Access) (Except PathError (List UInt8)) := do
  modify (· ++ [.reads path])
  return root.read path

/-- Serves a request path and tells what was touched for it. -/
def serveTelling (root : Node) (folder relative : String) :
    Except Failure (Option Served) × List Access :=
  (serveWith (recordingLook root) (recordingRead root) folder relative).run []

/-! ## What a request is owed -/

/-- The files that names below a folder stand for: the file of that name, or the page of a folder.
A file that is served as the folder itself has its type from the path of the folder. -/
inductive Offers (here : Node) (folder : String) (names : List String) : Served → Prop
  | file {body : List UInt8} (is : here.descend? names = some (.file body)) :
    Offers here folder names ⟨contentType (names.getLast?.getD folder), body⟩
  | page {body : List UInt8} (isFolder : (here.descend? names).map Node.kind = some .folder)
    (is : here.descend? (names ++ ["index.html"]) = some (.file body)) :
    Offers here folder names ⟨"text/html; charset=utf-8", body⟩

/-- The names lead to this path below the folder, and nowhere else. -/
structure LeadsBelow (root : Node) (folder : String) (names : List String) (path : String) :
    Prop where
  path_eq : path = names.foldl join folder
  plain : ∀ name ∈ names, Folder.IsPlainName name
  inside : ∀ node, root.find path = .ok node →
    ∃ here, root.startAt folder = .ok here ∧ here.descend? names = some node

/-- What is served for a request path, and what is touched for it, is below the folder. -/
structure StaysBelow (root : Node) (folder relative : String)
    (told : Except Failure (Option Served) × List Access) : Prop where
  refused : ".." ∈ Text.splitText '/' relative → told = (.ok none, [])
  touched : ∀ access ∈ told.2, LeadsBelow root folder (steps relative) access.path ∨
    LeadsBelow root folder (steps relative ++ ["index.html"]) access.path
  served : ∀ file, told.1 = .ok (some file) →
    ∃ here, root.startAt folder = .ok here ∧ Offers here folder (steps relative) file

/-- The system can look for what a request path names. -/
structure IsWithinLimits (folder relative : String) : Prop where
  noNul : '\x00' ∉ relative.toList
  name : ∀ name ∈ steps relative, name.utf8ByteSize ≤ maxNameSize
  path : ((steps relative).foldl join folder).utf8ByteSize ≤ maxPathSize

/-- An answer is the file that a request path names, and no file when it names none. -/
def IsOffer (here : Node) (folder relative : String) (answer : Option Served) : Prop :=
  ∀ file, answer = some file ↔
    ".." ∉ Text.splitText '/' relative ∧ Offers here folder (steps relative) file

/-- The names that lead to no answer: they go on below a file, or name a folder whose page has too
long a path. -/
inductive Strays (here : Node) (folder : String) (names : List String) : PathError → Prop
  | belowFile {front rest : List String} {name : String} {body : List UInt8}
    (goesOn : names = front ++ name :: rest) (is : here.descend? front = some (.file body)) :
    Strays here folder names .notFolder
  | longPage (isFolder : (here.descend? names).map Node.kind = some .folder)
    (long : maxPathSize < (join (names.foldl join folder) "index.html").utf8ByteSize) :
    Strays here folder names .nameTooLong

end KeyDirectory.Files
