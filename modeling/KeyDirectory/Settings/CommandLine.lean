import KeyDirectory.Settings.Basic

/-!
# The command line

Settings from arguments, and from environment variables where an argument is absent.
Arguments are judged from left to right: an option takes the argument after it unless that
looks like an option itself, and its value is judged when the next known option, or the end,
is reached.
-/

namespace KeyDirectory.Settings

/-- What can be set. -/
inductive Choice where
  | listen
  | token
  | remoteUrl
  | remoteTimeout
  | cacheBytes
  | cacheSeconds
  | keyFolder
  | legalBlock
  | allowUploads
  | uploadCredentials
  | uploadBeginning
  | indexFile
  | robotsFile
  | suffixFile
  | staticFolder
  | logLevel
  | logJson
  deriving DecidableEq, Repr

/-- All choices, in the order in which variables are judged. -/
def Choice.all : List Choice :=
  [.listen, .token, .remoteUrl, .remoteTimeout, .cacheBytes, .cacheSeconds, .keyFolder,
    .legalBlock, .allowUploads, .uploadCredentials, .uploadBeginning, .indexFile, .robotsFile,
    .suffixFile, .staticFolder, .logLevel, .logJson]

/-- The name of the option, after two dashes. -/
def Choice.option : Choice → String
  | listen => "listen"
  | token => "token"
  | remoteUrl => "github-api-url"
  | remoteTimeout => "api-timeout-ms"
  | cacheBytes => "cache-size"
  | cacheSeconds => "cache-age-secs"
  | keyFolder => "akpath"
  | legalBlock => "legal-block"
  | allowUploads => "allow-uploads"
  | uploadCredentials => "upload-auth"
  | uploadBeginning => "upload-prefix"
  | indexFile => "index"
  | robotsFile => "robots"
  | suffixFile => "suffix"
  | staticFolder => "serve"
  | logLevel => "log-level"
  | logJson => "log-json"

/-- The name of the environment variable. -/
def Choice.variable : Choice → String
  | listen => "LISTEN"
  | token => "GITHUB_TOKEN"
  | remoteUrl => "GITHUB_API_URL"
  | remoteTimeout => "API_TIMEOUT_MS"
  | cacheBytes => "CACHE_SIZE"
  | cacheSeconds => "CACHE_AGE_SECS"
  | keyFolder => "AKPATH"
  | legalBlock => "LEGAL_BLOCK"
  | allowUploads => "ALLOW_UPLOADS"
  | uploadCredentials => "UPLOAD_AUTH"
  | uploadBeginning => "UPLOAD_PREFIX"
  | indexFile => "INDEX_HTML"
  | robotsFile => "ROBOTS_TXT"
  | suffixFile => "SUFFIX_HTML"
  | staticFolder => "SERVE_PATH"
  | logLevel => "LOG_LEVEL"
  | logJson => "LOG_JSON"

/-- Whether the option stands alone. -/
def Choice.isSwitch : Choice → Bool
  | allowUploads | logJson => true
  | _ => false

/-- Why a command line is not carried out. -/
inductive CommandLineFault where
  | unknownArgument
  /-- A value is missing, empty, or none of those allowed. -/
  | invalidValue
  /-- A value does not have the form of its option. -/
  | malformedValue
  | repeated
  /-- A value was given to an option that stands alone. -/
  | valueForSwitch
  /-- The help text was asked for. -/
  | help
  /-- The version was asked for. -/
  | version
  deriving DecidableEq, Repr

/-- The words for a fault. -/
def CommandLineFault.text : CommandLineFault → String
  | unknownArgument => "unexpected argument"
  | invalidValue => "a value is missing or is none of those allowed"
  | malformedValue => "a value does not have the form of its option"
  | repeated => "an option is given more than once"
  | valueForSwitch => "a value is given to an option that takes none"
  | help => "help was asked for"
  | version => "the version was asked for"

/-- Sets a path, which must not be empty. -/
def pathValue (value : String) : Except CommandLineFault (Option String) :=
  if value.isEmpty then .error .invalidValue else .ok (some value)

/-- Reads a number of sixty-four bits. -/
def countValue (value : String) : Except CommandLineFault Nat :=
  match Text.readNatural? Text.maxWord64 value.toList with
  | some n => .ok n
  | none => .error .malformedValue

/-- Reads the value of a switch. -/
def switchValue (value : String) : Except CommandLineFault Bool :=
  if value = "true" then .ok true
  else if value = "false" then .ok false
  else .error .invalidValue

/-- The settings with one choice set to a value. -/
def set (s : Settings) (choice : Choice) (value : String) : Except CommandLineFault Settings := do
  match choice with
  | .listen =>
    match SocketAddress.parse? value with
    | some address => return { s with listen := address }
    | none => .error .malformedValue
  | .token => return { s with token := some value }
  | .remoteUrl => return { s with remoteUrl := value }
  | .remoteTimeout => return { s with remoteTimeoutMs := ← countValue value }
  | .cacheBytes => return { s with cacheBytes := ← countValue value }
  | .cacheSeconds => return { s with cacheSeconds := ← countValue value }
  | .keyFolder => return { s with keyFolder := ← pathValue value }
  | .legalBlock => return { s with legalBlock := some value }
  | .allowUploads => return { s with allowUploads := ← switchValue value }
  | .uploadCredentials => return { s with uploadCredentials := some value }
  | .uploadBeginning => return { s with uploadBeginning := value }
  | .indexFile => return { s with indexFile := ← pathValue value }
  | .robotsFile => return { s with robotsFile := ← pathValue value }
  | .suffixFile => return { s with suffixFile := ← pathValue value }
  | .staticFolder => return { s with staticFolder := ← pathValue value }
  | .logLevel => return { s with logLevel := value }
  | .logJson => return { s with logJson := ← switchValue value }

/-! ## Arguments -/

/-- What an argument looks like. -/
inductive Argument where
  /-- Two dashes alone: nothing after them is an option. -/
  | endOfOptions
  /-- `--name` or `--name=value`. -/
  | long (name : String) (value : Option String)
  /-- One dash and letters. -/
  | short (letters : List Char)
  | plain (text : String)
  deriving DecidableEq, Repr

/-- The look of an argument. -/
def Argument.ofText (text : String) : Argument :=
  match text.toList with
  | ['-', '-'] => .endOfOptions
  | '-' :: '-' :: rest =>
    match Text.cutAtFirst '=' rest with
    | some (name, value) => .long (String.ofList name) (some (String.ofList value))
    | none => .long (String.ofList rest) none
  | '-' :: c :: rest => .short (c :: rest)
  | _ => .plain text

/-- The reading of a command line between two arguments. -/
structure Reading where
  settings : Settings
  /-- The choices made so far. -/
  made : List Choice
  /-- The option whose value comes next, or was read and is not judged yet. -/
  pending : Option (Choice × Option String)
  optionsEnded : Bool
  deriving DecidableEq, Repr

namespace Reading

/-- Makes a choice that was not made before. -/
def choose (r : Reading) (choice : Choice) (value : String) : Except CommandLineFault Reading :=
  if r.made.contains choice then .error .repeated
  else do
    let settings ← r.settings.set choice value
    return { r with settings := settings, made := choice :: r.made }

/-- Judges the option that is pending. -/
def settle (r : Reading) : Except CommandLineFault Reading :=
  match r.pending with
  | none => .ok r
  | some (_, none) => .error .invalidValue
  | some (choice, some value) => { r with pending := none }.choose choice value

/-- Takes `--name` or `--name=value`. -/
def takeLong (r : Reading) (name : String) (value : Option String) :
    Except CommandLineFault Reading :=
  if name = "help" ∨ name = "version" then
    match value with
    | some _ => .error .valueForSwitch
    | none => do
      let _ ← r.settle
      .error (if name = "help" then .help else .version)
  else
    match Choice.all.find? fun c => c.option = name, value with
    | none, _ => .error .unknownArgument
    | some choice, some value => do
      if choice.isSwitch then .error .valueForSwitch
      else (← r.settle).choose choice value
    | some choice, none => do
      let r ← r.settle
      if choice.isSwitch then r.choose choice "true"
      else return { r with pending := some (choice, none) }

/-- Takes one dash and letters, of which the first one decides. -/
def takeShort (r : Reading) (letters : List Char) : Except CommandLineFault Reading :=
  match letters with
  | 'h' :: _ => do
    let _ ← r.settle
    .error .help
  | 'V' :: _ => do
    let _ ← r.settle
    .error .version
  | _ => .error .unknownArgument

/-- Takes an argument that is no option: the value that is waited for, or nothing. -/
def takePlain (r : Reading) (text : String) : Except CommandLineFault Reading :=
  match r.pending with
  | some (choice, none) => .ok { r with pending := some (choice, some text) }
  | _ => .error .unknownArgument

/-- Takes one argument. -/
def take (r : Reading) (text : String) : Except CommandLineFault Reading :=
  if r.optionsEnded then .error .unknownArgument
  else
    match Argument.ofText text with
    | .endOfOptions => .ok { r with optionsEnded := true }
    | .long name value => r.takeLong name value
    | .short letters => r.takeShort letters
    | .plain text => r.takePlain text

/-- Makes the choices that variables stand for, where no argument did. -/
def takeVariables (r : Reading) (environment : List (String × String)) :
    Except CommandLineFault Reading :=
  Choice.all.foldlM (fun r choice =>
    if r.made.contains choice then .ok r
    else match environment.lookup choice.variable with
      | some value => r.choose choice value
      | none => .ok r) r

end Reading

/-- The settings of a command line. -/
def ofCommandLine (arguments : List String) (environment : List (String × String)) :
    Except CommandLineFault Settings := do
  let r ← arguments.foldlM Reading.take ⟨standard, [], none, false⟩
  let r ← (← r.settle).takeVariables environment
  return r.settings

end KeyDirectory.Settings
