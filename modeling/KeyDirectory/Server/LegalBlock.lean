import KeyDirectory.Server.Answer

/-!
# Refusals for legal reasons

What a refused identity is answered with, and a request as it is answered with everything that the
answer could depend on.
-/

namespace KeyDirectory

/-- The directory without its blocklist. -/
def Directory.withoutBlocklist (d : Directory) : Directory :=
  { d with blocklist := ⟨[]⟩ }

namespace Server

/-- What a directory can turn to: its clock, the calendar and the remote directory. -/
structure Outside (ω : Type) where
  now : StateM ω Moment
  today : StateM ω Timestamp
  exchange : Remote.Request → StateM ω Remote.Outcome

/-- The response to a refused identity. -/
def legalNotice : Response :=
  .ofText 451 "Unavailable for legal reasons"

/-- Answers a request in a state of the directory and one of the world outside. -/
def serve (d : Directory) (scheme : Password.Scheme) (outside : Outside ω) (request : Request)
    (state : DirectoryState) (world : ω) : (Response × DirectoryState) × ω :=
  ((answer d scheme outside.now outside.today outside.exchange request).run state).run world

end Server

end KeyDirectory
