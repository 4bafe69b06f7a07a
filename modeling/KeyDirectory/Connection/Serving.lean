import KeyDirectory.Connection.Step

/-!
# Connections served over a pipe

A connection together with the socket and the pipe that it runs on, the peer at the other end,
and what all sessions share.  Of the many orders in which moves could follow each other, one is
carried out here: every task goes on until it has to wait, one task after the other, until all
of them wait; only then does the clock move, from one time that a task waits for to the next.
-/

namespace KeyDirectory.Connection

/-- The other end of the pipe. -/
structure Peer where
  /-- Whether the peer takes bytes as soon as they come. -/
  reads : Bool
  /-- The bytes that it took. -/
  taken : List UInt8
  deriving DecidableEq, Repr

/-- A connection with all that it runs on. -/
structure Serving (ρ σ : Type) where
  session : Session ρ σ
  shared : ρ
  connection : Connection σ
  socket : WebSocket.Socket
  pipe : Pipe
  peer : Peer

namespace Serving

variable {ρ σ : Type}

/-- A connection that begins to be served. -/
def start (session : Session ρ σ) (shared : ρ) (connection : Connection σ)
    (limits : WebSocket.Limits) (pipe : Pipe) : Serving ρ σ :=
  ⟨session, shared, connection, .start limits, pipe, ⟨true, []⟩⟩

/-- Whether the socket was let go of, so that the peer sees its end. -/
def isHungUp (s : Serving ρ σ) : Bool :=
  s.connection.sender = .ended && !s.connection.receiving

/-! ## Tasks -/

/-- Hands a message to the socket, which may refuse it. -/
def hand (s : Serving ρ σ) (out : Outgoing) : Serving ρ σ :=
  match s.socket.write out.message with
  | some socket => { s with socket := socket }
  | none =>
    match s.connection.failed? with
    | some (c, _) => { s with connection := c }
    | none => s

/-- Makes a move, and hands the messages that it begins to the socket. -/
def move? (s : Serving ρ σ) (move : Move) : Option (Serving ρ σ) :=
  (step? s.session s.shared s.connection move).map fun (shared, connection, events) =>
    events.foldl (fun s event =>
      match event with
      | .began out => s.hand out
      | _ => s) { s with shared := shared, connection := connection }

/-- What a task did: where that led, and whether it did not have to wait. -/
abbrev Polled (ρ σ : Type) := Serving ρ σ × Bool

/-- Makes the first of some moves that is possible. -/
def tryMoves (s : Serving ρ σ) (moves : List Move) : Polled ρ σ :=
  match moves.findSome? s.move? with
  | some s => (s, true)
  | none => (s, false)

/-- Lets the sender go on. -/
def pollSender (s : Serving ρ σ) : Polled ρ σ :=
  match s.connection.sender with
  | .unstartable | .idle => s.tryMoves [.stop, .take, .ping]
  | .ended => (s, false)
  | .writing _ _ _ | .closing _ | .flushing _ =>
    let (socket, pipe, flushing) := s.socket.flush s.pipe
    { s with socket := socket, pipe := pipe }.tryMoves [match flushing with
      | .done => .written
      | .blocked => .giveUp
      | .failed => .failed]

/-- What a reading brings the receiver. -/
def inbound? : WebSocket.Reading → Option Inbound
  | .waiting => none
  | .message m => some (.message m)
  | .failed => some .failed
  | .ended => some .ended

/-- Lets the receiver go on. -/
def pollReceiver (s : Serving ρ σ) : Polled ρ σ :=
  if s.connection.receiving then
    match s.tryMoves [.halt, .expire] with
    | (s, true) => (s, true)
    | (s, false) =>
      let (socket, pipe, reading) := s.socket.read s.pipe
      { s with socket := socket, pipe := pipe }.tryMoves
        ((inbound? reading).toList.map Move.receive)
  else (s, false)

/-- Lets the session go on. -/
def pollSession (s : Serving ρ σ) : Polled ρ σ :=
  s.tryMoves [.work]

/-- Lets the joiner go on. -/
def pollJoiner (s : Serving ρ σ) : Polled ρ σ :=
  s.tryMoves [.join]

/-- Lets the peer take what waits for it. -/
def pollPeer (s : Serving ρ σ) : Polled ρ σ :=
  if s.peer.reads && !s.pipe.peerGone && !s.pipe.outgoing.isEmpty then
    let (pipe, bytes) := s.pipe.drain
    ({ s with pipe := pipe, peer := { s.peer with taken := s.peer.taken ++ bytes } }, true)
  else (s, false)

/-! ## Schedule

`patience` bounds how often a task goes on without waiting and how often the clock is moved; it
matters only to sessions that never wait. -/

/-- Lets a task go on until it waits. -/
def pollWhile (poll : Serving ρ σ → Polled ρ σ) : Nat → Serving ρ σ → Polled ρ σ
  | 0, s => (s, false)
  | n + 1, s =>
    match poll s with
    | (s, true) => ((pollWhile poll n s).1, true)
    | (s, false) => (s, false)

/-- Lets each task in turn go on until it waits. -/
def pollAll (patience : Nat) (s : Serving ρ σ) : Polled ρ σ :=
  [pollSender, pollReceiver, pollSession, pollJoiner, pollPeer].foldl
    (fun (s, moved) poll =>
      let (s, movedNow) := pollWhile poll patience s
      (s, moved || movedNow)) (s, false)

/-- Lets the tasks go on until all of them wait. -/
def settle (patience : Nat) (s : Serving ρ σ) : Serving ρ σ :=
  (pollWhile (pollAll patience) patience s).1

/-- The times that the tasks wait for. -/
def timers (c : Connection σ) : List Moment :=
  (match c.sender with
    | .idle => [c.nextPing]
    | sender => sender.deadline?.toList) ++
  (if c.receiving then [c.deadline] else []) ++
  (match c.session with
    | .sleeping wake _ => [wake]
    | _ => [])

/-- The next time that a task waits for. -/
def nextTimer? (s : Serving ρ σ) : Option Moment :=
  ((timers s.connection).filter (s.connection.now < ·)).min?

/-- Moves the clock forward to a time. -/
def elapseTo (s : Serving ρ σ) (time : Moment) : Serving ρ σ :=
  { s with connection := { s.connection with now := time } }

/-- Lets the clock run up to a time. -/
def runTo (patience : Nat) (target : Moment) : Nat → Serving ρ σ → Serving ρ σ
  | 0, s => s
  | n + 1, s =>
    match s.nextTimer? with
    | some time =>
      if time ≤ target then runTo patience target n ((s.elapseTo time).settle patience)
      else (s.elapseTo target).settle patience
    | none => (s.elapseTo target).settle patience

/-- Lets some time pass. -/
def advance (patience : Nat) (time : Duration) (s : Serving ρ σ) : Serving ρ σ :=
  runTo patience (s.connection.now.after time) patience s

/-- Lets the clock run until the connection is served no longer, or all wait for good. -/
def runToEnd (patience : Nat) : Nat → Serving ρ σ → Serving ρ σ
  | 0, s => s
  | n + 1, s =>
    let s := s.settle patience
    if s.connection.isDone then s
    else
      match s.nextTimer? with
      | some time => runToEnd patience n (s.elapseTo time)
      | none => s

/-- Serves a connection to its end. -/
def finish (patience : Nat) (s : Serving ρ σ) : Serving ρ σ :=
  runToEnd patience patience s

end Serving

end KeyDirectory.Connection
