import KeyDirectory.Url.Host

/-!
# URLs

A URL in its parts, and its text.  The parts hold what the text shows: everything that had to
be percent-encoded is.
-/

namespace KeyDirectory

namespace Url

/-- What stands between the two slashes and the path. -/
structure Authority where
  username : String
  /-- The password after the colon, when there is one. -/
  password : Option String
  host : Host
  /-- The port, when it is not the usual one of the scheme. -/
  port : Option Nat
  deriving DecidableEq, Repr

/-- The path of a URL. -/
inductive Path where
  /-- A text without structure, as in a mail address. -/
  | plain (text : String)
  /-- Segments, each after a slash. -/
  | segments (parts : List String)
  deriving DecidableEq, Repr

end Url

/-- A URL. -/
structure Url where
  scheme : String
  authority : Option Url.Authority
  path : Url.Path
  query : Option String
  fragment : Option String
  deriving DecidableEq, Repr

namespace Url

/-- The schemes that always have a host, with their usual ports. -/
def usualPorts : List (String × Nat) :=
  [("http", 80), ("https", 443), ("ws", 80), ("wss", 443), ("ftp", 21)]

/-- The usual port of a scheme. -/
def usualPort? (scheme : String) : Option Nat :=
  usualPorts.lookup scheme

/-- Whether the scheme is one of the known ones, in which a backslash is a slash. -/
def isSpecial (scheme : String) : Bool :=
  scheme = "file" || (usualPort? scheme).isSome

/-- The user and the password in front of a host. -/
def Authority.credentialsText (a : Authority) : String :=
  match a.password with
  | some password => a.username ++ ":" ++ password ++ "@"
  | none => if a.username.isEmpty then "" else a.username ++ "@"

/-- The text of an authority. -/
def Authority.text (a : Authority) : String :=
  a.credentialsText ++ a.host.text ++
    match a.port with
    | some port => ":" ++ toString port
    | none => ""

/-- The text of segments: a slash in front of each. -/
def segmentsText (parts : List String) : String :=
  String.join (parts.map ("/" ++ ·))

/-- The text of a path. -/
def Path.text : Path → String
  | plain s => s
  | segments parts => segmentsText parts

/-- What keeps a path that begins with two slashes from being read as an authority. -/
def pathGuard (u : Url) : String :=
  match u.authority, u.path with
  | none, .segments ("" :: _ :: _) => "/."
  | _, _ => ""

/-- A part with the character in front that introduces it. -/
def introduced (mark : String) : Option String → String
  | some s => mark ++ s
  | none => ""

/-- The text of a URL without its fragment. -/
def textWithoutFragment (u : Url) : String :=
  u.scheme ++ ":" ++
    (match u.authority with
      | some a => "//" ++ a.text
      | none => "") ++
    u.pathGuard ++ u.path.text ++ introduced "?" u.query

/-- The text of a URL. -/
def text (u : Url) : String :=
  u.textWithoutFragment ++ introduced "#" u.fragment

/-- Whether paths can be added below a URL. -/
def canBeBase (u : Url) : Bool :=
  match u.path with
  | .plain _ => false
  | .segments _ => true

end Url

end KeyDirectory
