import KeyDirectory.Moment
import KeyDirectory.WebSocket.Socket

/-!
# Connections: what is known about them

The phases of a live connection, the times and sizes it is held to, and the link through which
others watch and cancel it.
-/

namespace KeyDirectory.Connection

/-- How far a connection has come. -/
inductive Phase where
  | connecting
  | opened
  | awaitingKey
  | registered
  | closing
  | closed
  deriving DecidableEq, Repr

/-- The word for a phase. -/
def Phase.text : Phase → String
  | connecting => "connecting"
  | opened => "open"
  | awaitingKey => "awaiting_key"
  | registered => "registered"
  | closing => "closing"
  | closed => "closed"

/-- The times and sizes that a connection is held to. -/
structure Liveness where
  /-- How often the peer is pinged. -/
  pingEvery : Duration
  /-- For how long the peer may go without a pong. -/
  pongWithin : Duration
  /-- For how long a single frame may take to be written. -/
  writeWithin : Duration
  /-- The size of the largest message that is taken, in bytes. -/
  maxMessage : Nat
  deriving DecidableEq, Repr

namespace Liveness

/-- The times and sizes in use unless others are set: pings leave a tenth of the time for the
pong. -/
def standard : Liveness where
  pingEvery := Duration.ofSeconds 54
  pongWithin := Duration.ofSeconds 60
  writeWithin := Duration.ofSeconds 10
  maxMessage := 2048

/-- The limits of the socket: a frame that announces too much is refused by its header. -/
def limits (l : Liveness) : WebSocket.Limits :=
  ⟨l.maxMessage, l.maxMessage⟩

end Liveness

/-- The link between a connection and those who watch it: anyone may cancel it, and its phase
shows. -/
structure Link where
  cancelled : Bool
  phase : Phase
  deriving DecidableEq, Repr

/-- The link of a connection that did not begin. -/
def Link.fresh : Link := ⟨false, .connecting⟩

end KeyDirectory.Connection
