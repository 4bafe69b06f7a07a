import KeyDirectory.Listing.Format
import KeyDirectory.Remote.Directory
import KeyDirectory.Source.Folder
import KeyDirectory.Upload.Access
import KeyDirectory.Upload.Roster

/-!
# The directory

The directory as its settings set it up, and what changes while it runs.  Identities are looked
up among the uploaded keys, then in the local folder, then in the remote directory; the
blocklist stands in front of all of them.
-/

namespace KeyDirectory

/-- The sources of a directory. -/
inductive Source where
  | uploads
  | folder (path : String)
  | remote
  deriving DecidableEq, Repr

/-- Where keys are uploaded. -/
structure UploadPoint where
  /-- Who may upload; everybody, when nothing is set. -/
  access : Option Upload.Access
  /-- What the page ends with. -/
  suffix : List UInt8
  deriving DecidableEq, Repr

/-- A directory that is set up. -/
structure Directory where
  blocklist : Blocklist
  uploads : Option UploadPoint
  keyFolder : Option String
  remote : RemoteDirectory
  formats : FormatTable
  indexFile : Option String
  robotsFile : Option String
  staticFolder : Option String

/-- What changes while a directory runs. -/
structure DirectoryState where
  roster : Upload.Roster
  cache : Cache
  files : Files.Node

namespace Directory

/-- The sources in the order in which they are asked. -/
def sources (d : Directory) : List Source :=
  (if d.uploads.isSome then [.uploads] else []) ++
    (match d.keyFolder with
      | some path => [.folder path]
      | none => []) ++
    [.remote]

/-- The sources behind the blocklist. -/
def chain (d : Directory) : Chain Source :=
  .barring d.blocklist (.firstOf (d.sources.map .source))

/-- The suffix of the pages. -/
def readSuffix (files : Files.Node) (path : Option String) : Except Failure (List UInt8) :=
  match path with
  | none => .ok []
  | some path =>
    match files.read path with
    | .ok bytes => .ok bytes
    | .error e => .error (.settings (Files.readingFailed ("suffix " ++ path) e))

/-- The upload point that settings ask for. -/
def uploadPoint (scheme : Password.Scheme) (salt suffix : List UInt8) (s : Settings) :
    Except Failure (Option UploadPoint) :=
  if s.uploadsEnabled then
    match s.uploadCredentials with
    | none => .ok (some ⟨none, suffix⟩)
    | some credentials =>
      (Upload.Access.ofCredentials scheme salt credentials).map fun access =>
        some ⟨some access, suffix⟩
  else .ok none

/-- Sets a directory up.  Of several faults the first is reported: the suffix, the credentials,
the remote directory. -/
def ofSettings (scheme : Password.Scheme) (salt : List UInt8) (files : Files.Node) (s : Settings) :
    Except Failure Directory := do
  let suffix ← readSuffix files s.suffixFile
  let uploads ← uploadPoint scheme salt suffix s
  let remote ← RemoteDirectory.ofSettings s
  return {
    blocklist := Blocklist.ofNames s.blockedNames
    uploads := uploads
    keyFolder := s.keyFolder
    remote := remote
    formats := FormatTable.standard suffix
    indexFile := s.indexFile
    robotsFile := s.robotsFile
    staticFolder := s.staticFolder }

/-- The state in which a directory starts. -/
def startState (files : Files.Node) (s : Settings) : DirectoryState :=
  ⟨Upload.Roster.empty s.uploadBeginning, Cache.empty (RemoteDirectory.cacheLimits s), files⟩

variable {m : Type → Type} [Monad m]

/-- Asks one source; `now` reads the clock and `exchange` asks the remote directory. -/
def ask (d : Directory) (now : m Moment) (exchange : Remote.Request → m Remote.Outcome)
    (source : Source) (identity : String) : StateT DirectoryState m Answer := do
  let state ← get
  match source with
  | .uploads => return state.roster.get identity
  | .folder path => return Folder.get state.files path identity
  | .remote =>
    let (cache, answer) ← StateT.lift (d.remote.get now exchange identity state.cache)
    modify fun state => { state with cache := cache }
    return answer

/-- Looks an identity up. -/
def resolve (d : Directory) (now : m Moment) (exchange : Remote.Request → m Remote.Outcome)
    (identity : String) : StateT DirectoryState m Answer :=
  d.chain.resolve (d.ask now exchange) identity

end Directory

end KeyDirectory
