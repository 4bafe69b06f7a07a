import KeyDirectory.Failure
import KeyDirectory.Files.ContentType

/-!
# Static files

Files served from one folder.  A request path is cleaned step by step before it is joined to
the folder; a step upwards refuses the whole path, so nothing outside the folder is ever
looked at.  A folder is served through the page `index.html` in it and never listed.
-/

namespace KeyDirectory.Files

/-- A file as it is served. -/
structure Served where
  contentType : String
  body : List UInt8
  deriving DecidableEq, Repr

/-- The names that a request path goes through; none when it goes upwards. -/
def cleanSteps? (relative : String) : Option (List String) :=
  let steps := (Text.splitText '/' relative).filter fun step => step ≠ "" ∧ step ≠ "."
  if steps.contains ".." then none else some steps

/-- The path of a request below a folder. -/
def staticPath? (folder relative : String) : Option String :=
  (cleanSteps? relative).map fun steps => steps.foldl join folder

/-- The failure that a system error becomes. -/
def failureOf (e : PathError) : Failure :=
  .internal e.text

/-- Reads the file at a path and tells its content type. -/
def serveFile (root : Node) (path : String) : Except Failure (Option Served) :=
  match root.read path with
  | .ok body => .ok (some ⟨contentType path, body⟩)
  | .error e => .error (failureOf e)

/-- The file that a request path names below a folder, if it names one. -/
def serve (root : Node) (folder relative : String) : Except Failure (Option Served) :=
  match staticPath? folder relative with
  | none => .ok none
  | some path =>
    match root.find path with
    | .error .notFound => .ok none
    | .error e => .error (failureOf e)
    | .ok (.file _) | .ok .locked => serveFile root path
    | .ok (.folder _) =>
      let index := join path "index.html"
      match root.find index with
      | .ok (.file _) | .ok .locked => serveFile root index
      | .ok (.folder _) => .ok none
      | .error .notFound => .ok none
      | .error e => .error (failureOf e)

/-- The wording of a file that could not be read. -/
def readingFailed (path : String) (e : PathError) : String :=
  "reading " ++ path ++ ": " ++ e.text

/-- The file at a path, or a built-in text when no path is set or nothing is there. -/
def readOr (root : Node) (path : Option String) (builtIn : String) :
    Except Failure (List UInt8) :=
  match path with
  | none => .ok (Text.Utf8.encodeText builtIn)
  | some path =>
    match root.read path with
    | .ok contents => .ok contents
    | .error .notFound => .ok (Text.Utf8.encodeText builtIn)
    | .error e => .error (.internal (readingFailed path e))

end KeyDirectory.Files
