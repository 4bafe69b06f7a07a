import KeyDirectory.Directory.Startup
import Std.Time.DateTime.Timestamp

/-!
# The program

Starts with the command line and the environment of the process: it writes the log of the start
and ends with its code.  Nothing is decided here; the files that a start may read are read
before it, the environment file and the suffix of the pages.
-/

namespace KeyDirectory.Main

/-- Puts the contents of a file, if it can be read, into a tree under the path that names it. -/
def loadFile (tree : Files.Node) (path : String) : IO Files.Node := do
  try
    let contents ← IO.FS.readBinFile path
    return tree.write path contents.toList
  catch _ =>
    return tree

/-- The words of a text that can be names of variables. -/
def wordsOf (bytes : List UInt8) : List String :=
  let isPart (c : Char) : Bool := Text.isAlphanumeric c || c = '_' || c = '.'
  (Text.Utf8.decodeLossy bytes).splitBy (fun a b => isPart a == isPart b) |>.map String.ofList

/-- The variables of the process with the given names. -/
def readVariables (names : List String) : IO (List (String × String)) :=
  names.eraseDups.filterMapM fun name => do
    if name.isEmpty then return none
    else return (← IO.getEnv name).map fun value => (name, value)

/-- The variables that a start looks at. -/
def variableNames (tree : Files.Node) : List String :=
  Startup.filterVariable :: Settings.Choice.all.map (·.variable) ++
    match tree.read Startup.environmentFile with
    | .ok bytes => wordsOf bytes
    | .error _ => []

/-- Writes the lines of a log. -/
def writeLog (start : Startup.Start) : IO Unit := do
  for line in start.log do
    let time := Timestamp.ofSeconds (← Std.Time.Timestamp.now).toSecondsSinceUnixEpoch.val
    IO.println (if start.logsJson then line.jsonText time else line.text time)

/-- Starts, and ends with the code of the start. -/
def run (arguments : List String) : IO UInt32 := do
  let tree ← loadFile (.folder []) Startup.environmentFile
  let environment ← readVariables (variableNames tree)
  let tree ← match Startup.suffixPath? tree arguments environment with
    | some path => loadFile tree path
    | none => pure tree
  let salt ← IO.getRandomBytes Password.Argon2.saltSize.toUSize
  let start := Startup.run .unknown Password.argon2 salt.toList tree arguments environment
  IO.print start.ending.answerText
  writeLog start
  IO.eprint start.errorText
  return UInt32.ofNat start.ending.code

end KeyDirectory.Main

/-- The program. -/
def main (arguments : List String) : IO UInt32 :=
  KeyDirectory.Main.run arguments
