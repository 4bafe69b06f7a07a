import KeyDirectory.Connection.Basic
import KeyDirectory.Connection.Identifier

/-!
# Sessions

What an application does with a connection.  A session is an automaton: from where it stands
it makes one call to its connection, and goes on from where the answer leads.  Every call that
may have to wait is over at once when the connection is cancelled, except for sleeping.
-/

namespace KeyDirectory.Connection

/-- What a session does next.  `σ` is where a session can stand, `ρ` what all sessions share. -/
inductive Call (ρ σ : Type) where
  /-- Ends, and the connection with it. -/
  | finish
  /-- Ends by a fault of its own. -/
  | crash
  /-- Waits for a message from the peer; none comes once the connection is cancelled. -/
  | read (next : Option String → σ)
  /-- Queues a message for the peer, which is refused once the connection is cancelled. -/
  | write (message : String) (next : Bool → σ)
  /-- Waits until the connection is cancelled. -/
  | wait (next : σ)
  | sleep (time : Duration) (next : σ)
  /-- Shows a phase. -/
  | publish (phase : Phase) (next : σ)
  /-- Asks whether the connection is cancelled. -/
  | ask (next : Bool → σ)
  /-- Asks for the identifier of the connection. -/
  | identify (next : Identifier → σ)
  /-- Looks at what is shared, and changes it. -/
  | act (next : ρ → ρ × σ)

/-- A session: where it starts, and what it does from where it stands. -/
structure Session (ρ σ : Type) where
  start : σ
  call : σ → Call ρ σ

/-- Where the task that runs a session stands. -/
inductive Standing (σ : Type) where
  | running (state : σ)
  | sleeping (wake : Moment) (state : σ)
  | ended
  deriving DecidableEq, Repr

/-- Whether the session is over. -/
def Standing.isEnded : Standing σ → Bool
  | ended => true
  | running _ | sleeping _ _ => false

end KeyDirectory.Connection
