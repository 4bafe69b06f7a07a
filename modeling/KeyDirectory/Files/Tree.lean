import KeyDirectory.Text.Split
import KeyDirectory.Text.Utf8

/-!
# File trees

The part of a file system that the directory reads: folders and files by name, without links,
and the way a path is walked through them.  A walk fails with the error that the system reports
for the first step that cannot be taken.
-/

namespace KeyDirectory.Files

/-- A file or a folder. -/
inductive Node where
  | file (contents : List UInt8)
  /-- A file that may not be read. -/
  | locked
  | folder (entries : List (String × Node))
  deriving Repr

/-- Why a path leads nowhere or cannot be read. -/
inductive PathError where
  | notFound
  | notFolder
  | isFolder
  | nameTooLong
  /-- A file that may not be read. -/
  | denied
  /-- A path that holds the character that ends texts for the system. -/
  | nulCharacter
  deriving DecidableEq, Repr

/-- The system's wording. -/
def PathError.text : PathError → String
  | notFound => "No such file or directory (os error 2)"
  | notFolder => "Not a directory (os error 20)"
  | isFolder => "Is a directory (os error 21)"
  | nameTooLong => "File name too long (os error 36)"
  | denied => "Permission denied (os error 13)"
  | nulCharacter => "file name contained an unexpected NUL byte"

/-- The longest name of a file, in bytes. -/
def maxNameSize : Nat := 255

/-- The longest path, in bytes. -/
def maxPathSize : Nat := 4095

/-- The entry of the given name. -/
def entry? (name : String) (entries : List (String × Node)) : Option Node :=
  entries.lookup name

/-- Walks the steps of a path.  `above` holds the folders passed through, the nearest first; a
step out of the topmost folder stays there. -/
def walk (above : List Node) (here : Node) : List String → Except PathError Node
  | [] => .ok here
  | step :: steps =>
    match here with
    | .file _ | .locked => .error .notFolder
    | .folder entries =>
      if step = "" ∨ step = "." then walk above here steps
      else if step = ".." then
        match above with
        | [] => walk [] here steps
        | parent :: others => walk others parent steps
      else if step.utf8ByteSize > maxNameSize then .error .nameTooLong
      else match entry? step entries with
        | none => .error .notFound
        | some next => walk (here :: above) next steps

/-- What a path leads to, from the topmost folder. -/
def Node.find (root : Node) (path : String) : Except PathError Node :=
  if path.toList.contains '\x00' then .error .nulCharacter
  else if path.isEmpty then .error .notFound
  else if path.utf8ByteSize > maxPathSize then .error .nameTooLong
  else walk [] root (Text.splitText '/' path)

/-- The contents of the file that a path leads to. -/
def Node.read (root : Node) (path : String) : Except PathError (List UInt8) :=
  match root.find path with
  | .error e => .error e
  | .ok (.folder _) => .error .isFolder
  | .ok .locked => .error .denied
  | .ok (.file contents) => .ok contents

/-- The path of a name below a folder. -/
def join (folder name : String) : String :=
  if folder.isEmpty || folder.endsWith "/" then folder ++ name else folder ++ "/" ++ name

/-- The folder without the entry of a name. -/
def withoutEntry (name : String) (entries : List (String × Node)) : List (String × Node) :=
  entries.filter fun (n, _) => n ≠ name

/-- The entries with a file written, or a folder made, below the given steps; folders on the way
are made.  A step that a file stands in the way of is not taken. -/
def put (node : Node) : List String → List (String × Node) → List (String × Node)
  | [], entries => entries
  | [name], entries =>
    match node, entry? name entries with
    | .folder [], some (.folder _) => entries
    | _, _ => withoutEntry name entries ++ [(name, node)]
  | step :: steps, entries =>
    match entry? step entries with
    | some (.file _) | some .locked => entries
    | some (.folder inner) => withoutEntry step entries ++ [(step, .folder (put node steps inner))]
    | none => entries ++ [(step, .folder (put node steps []))]

/-- The entries without the file below the given steps. -/
def erase : List String → List (String × Node) → List (String × Node)
  | [], entries => entries
  | [name], entries => withoutEntry name entries
  | step :: steps, entries =>
    match entry? step entries with
    | some (.folder inner) => withoutEntry step entries ++ [(step, .folder (erase steps inner))]
    | _ => entries

/-- The steps of a path that are names. -/
def steps (path : String) : List String :=
  (Text.splitText '/' path).filter fun step => step ≠ "" ∧ step ≠ "."

/-- Writes a file, making the folders above it. -/
def Node.write (root : Node) (path : String) (contents : List UInt8) : Node :=
  match root with
  | .folder entries => .folder (put (.file contents) (steps path) entries)
  | .file _ | .locked => root

/-- Makes a folder and the folders above it. -/
def Node.makeFolder (root : Node) (path : String) : Node :=
  match root with
  | .folder entries => .folder (put (.folder []) (steps path) entries)
  | .file _ | .locked => root

/-- Removes a file. -/
def Node.remove (root : Node) (path : String) : Node :=
  match root with
  | .folder entries => .folder (erase (steps path) entries)
  | .file _ | .locked => root

end KeyDirectory.Files
