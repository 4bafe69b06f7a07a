import KeyDirectory.Network.SocketAddress
import KeyDirectory.Text.Blank
import KeyDirectory.Text.Split

/-!
# Settings

Everything about the server that its owner chooses, with the values used when nothing is
chosen, and what is checked before the server starts.
-/

namespace KeyDirectory

/-- The choices of the owner. -/
structure Settings where
  listen : SocketAddress
  /-- The bearer token for the remote directory. -/
  token : Option String
  remoteUrl : String
  remoteTimeoutMs : Nat
  cacheBytes : Nat
  cacheSeconds : Nat
  /-- The folder with a key file for each identity. -/
  keyFolder : Option String
  /-- Identities to refuse for legal reasons, with commas between them. -/
  legalBlock : Option String
  allowUploads : Bool
  /-- The user and password that uploads ask for. -/
  uploadCredentials : Option String
  /-- What generated identities start with. -/
  uploadBeginning : String
  indexFile : Option String
  robotsFile : Option String
  /-- The file that is appended to every page. -/
  suffixFile : Option String
  staticFolder : Option String
  logLevel : String
  logJson : Bool
  deriving DecidableEq, Repr

namespace Settings

/-- The settings when nothing is chosen. -/
def standard : Settings where
  listen := .v4 [127, 0, 0, 1] 8080
  token := none
  remoteUrl := "https://api.github.com"
  remoteTimeoutMs := 1000
  cacheBytes := 25000
  cacheSeconds := 3600
  keyFolder := none
  legalBlock := none
  allowUploads := false
  uploadCredentials := none
  uploadBeginning := "uploaded-"
  indexFile := none
  robotsFile := none
  suffixFile := none
  staticFolder := none
  logLevel := "info"
  logJson := false

/-- Whether keys can be uploaded: asking for a password allows it as well. -/
def uploadsEnabled (s : Settings) : Bool :=
  s.allowUploads || s.uploadCredentials.isSome

/-- The identities to refuse, without blanks around and without blank ones. -/
def blockedNames (s : Settings) : List String :=
  match s.legalBlock with
  | none => []
  | some text => ((Text.splitText ',' text).map Text.trimText).filter fun name => !name.isEmpty

/-- The characters that generated identities may start with. -/
def isBeginningChar (c : Char) : Bool :=
  c.isAlphanum || c = '-'

/-- What is wrong with the credentials, if they are set. -/
def credentialsFault (s : Settings) : Option String :=
  match s.uploadCredentials with
  | none => none
  | some text =>
    match Text.cutText ':' text with
    | none => some "UPLOAD_AUTH must be of the form user:password"
    | some (user, _) =>
      if user.isEmpty then some "UPLOAD_AUTH username must not be empty" else none

/-- What is wrong with the settings, the first fault of several. -/
def fault (s : Settings) : Option String :=
  match s.credentialsFault with
  | some fault => some fault
  | none =>
    if s.remoteTimeoutMs = 0 then some "API_TIMEOUT_MS must be greater than zero"
    else if s.uploadBeginning.isEmpty || !s.uploadBeginning.toList.all isBeginningChar then
      some "UPLOAD_PREFIX must be non-empty and only contain [A-Za-z0-9-]"
    else none

end Settings

end KeyDirectory
