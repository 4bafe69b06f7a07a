/-!
# Failures

Every reason for which the directory cannot answer, with its wording and what a client is
told about it.  A chain of sources looks only at the coarse kind: an absent identity may be
looked for in the next source, every other failure ends the search.  Details of fatal failures
stay out of the answers.
-/

namespace KeyDirectory

/-- Why a request, a resolution or a configuration failed. -/
inductive Failure where
  /-- The identity has no keys in the source that was asked. -/
  | notFound (identity : String)
  /-- The identity is excluded by policy. -/
  | unavailable (identity : String)
  /-- The remote directory failed or answered something unusable. -/
  | remote (detail : String)
  /-- A text is not a public key. -/
  | invalidKey (detail : String)
  | badRequest (detail : String)
  | unauthorized (detail : String)
  /-- A live connection failed. -/
  | connection (detail : String)
  | internal (detail : String)
  /-- The settings cannot be used. -/
  | settings (detail : String)
  | http (detail : String)
  deriving DecidableEq, Repr

/-- The coarse kind of a failure, all that a chain of sources looks at. -/
inductive FailureKind where
  | notFound
  | unavailable
  | fatal
  deriving DecidableEq, Repr

namespace Failure

/-- The kind that decides whether the next source is asked. -/
def kind : Failure → FailureKind
  | notFound _ => .notFound
  | unavailable _ => .unavailable
  | _ => .fatal

/-- Whether the identity is merely absent from the source. -/
def isNotFound (f : Failure) : Bool :=
  f.kind = .notFound

/-- What the wording of a failure starts with. -/
def heading : Failure → String
  | notFound _ => "User not found: "
  | unavailable _ => "User not available: "
  | remote _ => "Upstream error: "
  | invalidKey _ => "Invalid key: "
  | badRequest _ => "Bad request: "
  | unauthorized _ => "Unauthorized: "
  | connection _ => "WebSocket error: "
  | internal _ => "Internal error: "
  | settings _ => "Configuration error: "
  | http _ => "HTTP error: "

/-- What a failure is about: an identity or a detail. -/
def subject : Failure → String
  | notFound s | unavailable s | remote s | invalidKey s | badRequest s | unauthorized s
  | connection s | internal s | settings s | http s => s

/-- The full wording, for logs and the terminal. -/
def message (f : Failure) : String :=
  f.heading ++ f.subject

/-- The status a client is answered with. -/
def status : Failure → Nat
  | notFound _ => 404
  | unavailable _ => 451
  | badRequest _ => 400
  | unauthorized _ => 401
  | remote _ | invalidKey _ | connection _ | internal _ | settings _ | http _ => 500

/-- The text a client is answered with.  Only a bad request tells what was wrong. -/
def clientText : Failure → String
  | notFound _ => "Not Found"
  | unavailable _ => "Unavailable for legal reasons"
  | badRequest detail => "Bad Request: " ++ detail
  | unauthorized _ => "Unauthorized"
  | remote _ | invalidKey _ | connection _ | internal _ | settings _ | http _ =>
    "Internal Server Error"

end Failure

end KeyDirectory
