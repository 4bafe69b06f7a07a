import KeyDirectory.Directory.Basic
import KeyDirectory.Settings.CommandLine
import KeyDirectory.Settings.EnvironmentFile
import KeyDirectory.Settings.LogFilter
import KeyDirectory.Text.Json
import KeyDirectory.Timestamp

/-!
# Starting up

What the program does before it serves: it reads the environment file and the command line,
checks the settings, reports them in the log and sets the directory up.  Every start ends here
unless the directory is set up.
-/

namespace KeyDirectory

/-- A line of the log. -/
structure LogLine where
  level : LogLevel
  target : String
  message : String
  deriving DecidableEq, Repr

namespace LogLine

/-- A character of a message as people read it: what could steer a terminal is spelled out. -/
def shownChar (c : Char) : String :=
  let code := String.ofList (Nat.toDigits 16 c.toNat)
  if c = '\x07' ∨ c = '\x08' ∨ c = '\x0c' ∨ c = '\x1b' ∨ c = '\x7f' then
    "\\x" ++ String.ofList (List.replicate (2 - code.length) '0') ++ code
  else if 0x80 ≤ c.toNat ∧ c.toNat ≤ 0x9F then "\\u\x7b" ++ code ++ "\x7d"
  else c.toString

/-- The message of a line as people read it. -/
def shownMessage (l : LogLine) : String :=
  String.join (l.message.toList.map shownChar)

/-- A line as people read it. -/
def text (l : LogLine) (time : Timestamp) : String :=
  let level := String.ofList (List.replicate (5 - l.level.text.length) ' ') ++ l.level.text
  time.text ++ " " ++ level ++ " " ++ l.target ++ ": " ++ l.shownMessage

/-- A line as a JSON document. -/
def jsonText (l : LogLine) (time : Timestamp) : String :=
  let member (name value : String) := Text.Json.quote name ++ ":" ++ Text.Json.quote value
  "\x7b" ++ member "timestamp" time.text ++ "," ++ member "level" l.level.text ++ "," ++
    Text.Json.quote "fields" ++ ":\x7b" ++ member "message" l.message ++ "\x7d," ++
    member "target" l.target ++ "\x7d"

end LogLine

namespace Startup

/-- The version of the program. -/
def version : String := "0.1.0"

/-- The name of the program, which is also the target of its log lines. -/
def programName : String := "keyway"

/-- Which build of the program runs. -/
structure Build where
  commit : String
  time : String

/-- A build of which nothing is known. -/
def Build.unknown : Build := ⟨"unknown", "unknown"⟩

/-- How a start ends. -/
inductive Ending where
  /-- Only the version or the help text was asked for. -/
  | version
  | help
  | misused (fault : Settings.CommandLineFault)
  /-- The settings contradict themselves. -/
  | refused
  | failed (failure : Failure)
  | ready (settings : Settings) (directory : Directory)

/-- A start: what it wrote on the way and how it ended. -/
structure Start where
  log : List LogLine
  /-- Whether the lines of the log are written as JSON. -/
  logsJson : Bool
  /-- Rules of the log filter that were left out. -/
  ignoredRules : List (String × LogFilter.RuleFault)
  ending : Ending

/-- A log line of the program. -/
def line (level : LogLevel) (message : String) : LogLine :=
  ⟨level, programName, message⟩

/-- The line above and below the report. -/
def rule : LogLine :=
  line .info "======================================"

/-- The lines that report the settings. -/
def report (build : Build) (s : Settings) : List LogLine :=
  [rule,
    line .info ("  Keyway " ++ version),
    line .info ("  commit " ++ build.commit ++ " built " ++ build.time),
    rule,
    line .info ("Listen: " ++ s.listen.text),
    line .info ("GitHub API: " ++ s.remoteUrl)] ++
  (if s.token.isNone then
    [line .warn "No GitHub token configured, API requests are heavily rate limited"] else []) ++
  [line .info ("Cache: " ++ toString s.cacheBytes ++ " bytes, max age " ++
      toString s.cacheSeconds ++ "s"),
    line .info ("Key files: " ++ s.keyFolder.getD "disabled"),
    line .info ("Uploads: " ++ if s.uploadsEnabled then "enabled" else "disabled")] ++
  (if s.blockedNames.isEmpty then []
    else [line .info ("Blocklist: " ++ toString s.blockedNames.length ++ " user(s)")]) ++
  (match s.staticFolder with
    | some path => [line .info ("Serving " ++ path ++ " under /_/")]
    | none => []) ++
  [rule]

/-- The variable that holds a log filter. -/
def filterVariable : String := "RUST_LOG"

/-- The log filter: that of the environment if it can be read, else the level of the settings for
the program's own lines. -/
def logFilter (environment : List (String × String)) (s : Settings) :
    LogFilter × List (String × LogFilter.RuleFault) :=
  match (environment.lookup filterVariable).bind LogFilter.parse? with
  | some filter => (filter, [])
  | none => LogFilter.parseLossy (programName ++ "=" ++ s.logLevel ++ ",info")

/-- Starts with settings that were read. -/
def withSettings (build : Build) (scheme : Password.Scheme) (salt : List UInt8)
    (files : Files.Node) (environment : List (String × String)) (s : Settings) : Start :=
  let (filter, ignored) := logFilter environment s
  let shown (lines : List LogLine) := lines.filter fun l => filter.shows l.target l.level
  match s.fault with
  | some fault =>
    ⟨shown [line .error ("Configuration error: " ++ fault)], s.logJson, ignored, .refused⟩
  | none =>
    ⟨shown (report build s), s.logJson, ignored,
      match Directory.ofSettings scheme salt files s with
      | .error failure => .failed failure
      | .ok directory => .ready s directory⟩

/-- The environment file, in the working folder. -/
def environmentFile : String := ".env"

/-- The environment with what the environment file adds. -/
def fullEnvironment (files : Files.Node) (environment : List (String × String)) :
    List (String × String) :=
  match files.read environmentFile with
  | .ok bytes => Settings.EnvironmentFile.load environment bytes
  | .error _ => environment

/-- The file with the suffix of the pages, which a start reads. -/
def suffixPath? (files : Files.Node) (arguments : List String)
    (environment : List (String × String)) : Option String :=
  match Settings.ofCommandLine arguments (fullEnvironment files environment) with
  | .ok s => s.suffixFile
  | .error _ => none

/-- Starts with the given arguments and environment; relative paths lead into `files`. -/
def run (build : Build) (scheme : Password.Scheme) (salt : List UInt8) (files : Files.Node)
    (arguments : List String) (environment : List (String × String)) : Start :=
  let environment := fullEnvironment files environment
  match Settings.ofCommandLine arguments environment with
  | .error .version => ⟨[], false, [], .version⟩
  | .error .help => ⟨[], false, [], .help⟩
  | .error fault => ⟨[], false, [], .misused fault⟩
  | .ok s => withSettings build scheme salt files environment s

/-- The words that a start writes for those who asked for them, when it does nothing else. -/
def Ending.answerText : Ending → String
  | version => programName ++ " " ++ Startup.version ++ "\n"
  | help =>
    "Usage: " ++ programName ++ " [OPTIONS]\n\nOptions:\n" ++
      String.join (Settings.Choice.all.map fun choice =>
        "  --" ++ choice.option ++ (if choice.isSwitch then "" else " <VALUE>") ++ "  [env: " ++
          choice.variable ++ "]\n")
  | misused _ | refused | failed _ | ready _ _ => ""

/-- The failure to listen where another program listens. -/
def addressInUse : Failure := .internal "Address already in use (os error 98)"

/-- The code with which a start ends, when it ends. -/
def Ending.code : Ending → Nat
  | version | help | ready _ _ => 0
  | misused _ => 2
  | refused | failed _ => 1

/-- The notice of a rule that was left out. -/
def ignoredText (rule : String × LogFilter.RuleFault) : String :=
  "ignoring \x60" ++ rule.1 ++ "\x60: " ++ rule.2.text ++ "\n"

/-- What a start writes to the error stream. -/
def Start.errorText (s : Start) : String :=
  String.join (s.ignoredRules.map ignoredText) ++
    match s.ending with
    | .failed failure => "Error: " ++ failure.message ++ "\n"
    | .misused fault => "error: " ++ fault.text ++ "\n"
    | _ => ""

end Startup

end KeyDirectory
