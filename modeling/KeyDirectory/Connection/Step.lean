import KeyDirectory.Connection.Session

/-!
# Connections: how they move

A connection is served by four tasks.  The sender writes the messages of the session and pings;
the receiver reads messages for the session and watches over the deadline of the peer; the
session does the work; the joiner waits for the others.  Whichever ends first cancels the
connection, which ends the others.  The tasks share a cancellation flag and two queues with room
for one message each.

A move is the smallest part of a task's work that no other task can come between, or something
that happens from outside.  Nothing is said about the order of moves: a run of a connection is
any list of them, and a move that is not possible is passed over.
-/

namespace KeyDirectory.Connection

/-! ## State -/

/-- What the sender writes. -/
inductive Outgoing where
  | text (content : String)
  | ping
  | close
  deriving DecidableEq, Repr

/-- The message that is written. -/
def Outgoing.message : Outgoing → WebSocket.Message
  | text content => .text content
  | ping => .ping []
  | close => .close none

/-- What the sender is doing. -/
inductive Sender where
  /-- It cannot even start, since there is no time between pings. -/
  | unstartable
  /-- It waits for a message, the time of the next ping, or the end. -/
  | idle
  /-- It writes; when it is leaving, it only writes what was queued before. -/
  | writing (out : Outgoing) (leaving : Bool) (deadline : Moment)
  /-- It writes the closing message. -/
  | closing (deadline : Moment)
  /-- It writes out what is left. -/
  | flushing (deadline : Moment)
  | ended
  deriving DecidableEq, Repr

/-- What the joiner is doing. -/
inductive Joiner where
  /-- No task has ended yet, as far as it knows. -/
  | watching
  /-- It waits for the other tasks. -/
  | closing
  | done
  deriving DecidableEq, Repr

end Connection

/-- A connection that is served. -/
structure Connection (σ : Type) where
  liveness : Connection.Liveness
  id : Connection.Identifier
  link : Connection.Link
  now : Moment
  nextPing : Moment
  /-- When the peer is presumed gone, unless a pong comes. -/
  deadline : Moment
  /-- The message of the session that was not written yet. -/
  outbox : Option String
  /-- The message of the peer that the session has not read yet. -/
  inbox : Option String
  sender : Connection.Sender
  /-- Whether the receiver runs. -/
  receiving : Bool
  session : Connection.Standing σ
  joiner : Connection.Joiner
  deriving DecidableEq, Repr

namespace Connection

/-- Why the receiver ended. -/
inductive Ending where
  | cancelled
  /-- The peer sent no pong in time. -/
  | silent
  /-- The peer closed. -/
  | closed
  /-- The connection is at its end. -/
  | ended
  /-- The peer broke the protocol, or the connection broke. -/
  | failed
  /-- A binary message is no text. -/
  | notText
  | tooLong
  deriving DecidableEq, Repr

/-- What shows of a move. -/
inductive Event where
  | published (phase : Phase)
  /-- The session queued a message. -/
  | accepted (message : String)
  /-- A message of the session was refused. -/
  | refused (message : String)
  /-- The session read. -/
  | took (message : Option String)
  /-- The receiver queued a message. -/
  | queued (message : String)
  /-- The receiver dropped a message that nobody was ready to read. -/
  | dropped (message : String)
  /-- The sender handed a message to the socket. -/
  | began (out : Outgoing)
  | wrote (out : Outgoing)
  | senderEnded
  | receiverEnded (why : Ending)
  | sessionEnded
  deriving DecidableEq, Repr

/-- What reaches the receiver from the socket. -/
inductive Inbound where
  | message (m : WebSocket.Message)
  | failed
  | ended
  deriving DecidableEq, Repr

/-- The moves. -/
inductive Move where
  /-- The sender stops, since the connection is cancelled. -/
  | stop
  /-- The sender takes a message, or stops since no more can come. -/
  | take
  /-- The sender pings. -/
  | ping
  /-- What the sender writes was written. -/
  | written
  | failed
  /-- The sender gives up on what it writes, since it took too long. -/
  | giveUp
  /-- The receiver stops, since the connection is cancelled. -/
  | halt
  /-- The receiver stops, since the deadline has passed. -/
  | expire
  | receive (inbound : Inbound)
  /-- The session makes its next call, or goes on with it. -/
  | work
  /-- The joiner looks for tasks that ended. -/
  | join
  /-- Somebody cancels the connection. -/
  | cancel
  | elapse (time : Duration)
  deriving DecidableEq, Repr

/-- A connection and what showed of its last move. -/
abbrev Moved (σ : Type) := Connection σ × List Event

variable {ρ σ : Type}

/-- The connection, cancelled. -/
def cancel (c : Connection σ) : Connection σ :=
  { c with link.cancelled := true }

/-- The connection with a phase shown. -/
def publish (c : Connection σ) (phase : Phase) : Connection σ :=
  { c with link.phase := phase }

/-! ## The sender -/

/-- Hands a message to the socket. -/
def beginWriting (c : Connection σ) (out : Outgoing) (leaving : Bool) : Moved σ :=
  ({ c with sender := .writing out leaving (c.now.after c.liveness.writeWithin) }, [.began out])

/-- Leaves the loop: what is queued is still written, then the closing message. -/
def leave (c : Connection σ) : Moved σ :=
  match c.outbox with
  | some text => { c with outbox := none }.beginWriting (.text text) true
  | none =>
    ({ c with sender := .closing (c.now.after c.liveness.writeWithin) }, [.began .close])

/-- Writes out what is left. -/
def beginFlushing (c : Connection σ) : Connection σ :=
  { c with sender := .flushing (c.now.after c.liveness.writeWithin) }

/-- Ends the sender. -/
def endSender (c : Connection σ) : Moved σ :=
  ({ c with sender := .ended }.cancel, [.senderEnded])

/-- The sender stops. -/
def stop? (c : Connection σ) : Option (Moved σ) :=
  match c.sender with
  | .unstartable => some c.endSender
  | .idle => if c.link.cancelled then some c.leave else none
  | _ => none

/-- The sender takes a message. -/
def take? (c : Connection σ) : Option (Moved σ) :=
  match c.sender, c.outbox with
  | .idle, some text => some ({ c with outbox := none }.beginWriting (.text text) false)
  | .idle, none => if c.session.isEnded then some c.leave else none
  | _, _ => none

/-- The sender pings.  The times of pings are fixed from the start, however late one is. -/
def ping? (c : Connection σ) : Option (Moved σ) :=
  match c.sender with
  | .idle =>
    if c.nextPing ≤ c.now then
      some ({ c with nextPing := c.nextPing.after c.liveness.pingEvery }.beginWriting .ping false)
    else none
  | _ => none

/-- What the sender writes was written. -/
def written? (c : Connection σ) : Option (Moved σ) :=
  match c.sender with
  | .writing out leaving _ =>
    let (c, events) := if leaving then c.leave else ({ c with sender := .idle }, [])
    some (c, .wrote out :: events)
  | .closing _ => some (c.beginFlushing, [.wrote .close])
  | .flushing _ => some c.endSender
  | _ => none

/-- What the sender writes cannot be written.  Only the closing message is no loss. -/
def failed? (c : Connection σ) : Option (Moved σ) :=
  match c.sender with
  | .writing _ _ _ | .flushing _ => some c.endSender
  | .closing _ => some (c.beginFlushing, [])
  | _ => none

/-- By when what the sender writes must be written. -/
def Sender.deadline? : Sender → Option Moment
  | writing _ _ deadline | closing deadline | flushing deadline => some deadline
  | unstartable | idle | ended => none

/-- The sender gives up. -/
def giveUp? (c : Connection σ) : Option (Moved σ) :=
  match c.sender.deadline? with
  | some deadline => if deadline ≤ c.now then c.failed? else none
  | none => none

/-! ## The receiver -/

/-- Ends the receiver. -/
def endReceiver (c : Connection σ) (why : Ending) : Moved σ :=
  ({ c with receiving := false }.cancel, [.receiverEnded why])

/-- Passes a text to the session, when it is not too long and the queue is empty. -/
def deliver (c : Connection σ) (text : String) : Moved σ :=
  if c.liveness.maxMessage < text.utf8ByteSize then c.endReceiver .tooLong
  else if c.session.isEnded || c.inbox.isSome then (c, [.dropped text])
  else ({ c with inbox := some text }, [.queued text])

/-- Takes what comes from the socket.  Only a pong moves the deadline. -/
def takeInbound (c : Connection σ) (inbound : Inbound) : Moved σ :=
  match inbound with
  | .message (.text text) => c.deliver text
  | .message (.binary bytes) =>
    match Text.Utf8.decodeText? bytes with
    | some text => c.deliver text
    | none => c.endReceiver .notText
  | .message (.pong _) => ({ c with deadline := c.now.after c.liveness.pongWithin }, [])
  | .message (.ping _) => (c, [])
  | .message (.close _) => c.endReceiver .closed
  | .failed => c.endReceiver .failed
  | .ended => c.endReceiver .ended

/-- The receiver stops. -/
def halt? (c : Connection σ) : Option (Moved σ) :=
  if c.receiving && c.link.cancelled then some (c.endReceiver .cancelled) else none

/-- The deadline passes. -/
def expire? (c : Connection σ) : Option (Moved σ) :=
  if c.receiving && decide (c.deadline ≤ c.now) then some (c.endReceiver .silent) else none

/-- Something comes from the socket. -/
def receive? (c : Connection σ) (inbound : Inbound) : Option (Moved σ) :=
  if c.receiving then some (c.takeInbound inbound) else none

/-! ## The session -/

/-- Where the session stands next. -/
def resume (c : Connection σ) (state : σ) : Connection σ :=
  { c with session := .running state }

/-- Ends the session. -/
def endSession (c : Connection σ) : Moved σ :=
  ({ c with session := .ended }.cancel, [.sessionEnded])

/-- Makes a call of the session; none when it has to wait. -/
def makeCall (shared : ρ) (c : Connection σ) : Call ρ σ → Option (ρ × Moved σ)
  | .finish | .crash => some (shared, c.endSession)
  | .read next =>
    if c.link.cancelled then some (shared, c.resume (next none), [.took none])
    else c.inbox.map fun text =>
      (shared, { c with inbox := none }.resume (next (some text)), [.took (some text)])
  | .write message next =>
    if c.link.cancelled then some (shared, c.resume (next false), [.refused message])
    else if c.outbox.isNone then
      some (shared, { c with outbox := some message }.resume (next true), [.accepted message])
    else none
  | .wait next => if c.link.cancelled then some (shared, c.resume next, []) else none
  | .sleep time next =>
    some (shared, { c with session := .sleeping (c.now.after time) next }, [])
  | .publish phase next => some (shared, (c.publish phase).resume next, [.published phase])
  | .ask next => some (shared, c.resume (next c.link.cancelled), [])
  | .identify next => some (shared, c.resume (next c.id), [])
  | .act next =>
    let (shared, state) := next shared
    some (shared, c.resume state, [])

/-- The session goes on. -/
def work? (session : Session ρ σ) (shared : ρ) (c : Connection σ) : Option (ρ × Moved σ) :=
  match c.session with
  | .running state => makeCall shared c (session.call state)
  | .sleeping wake state => if wake ≤ c.now then some (shared, c.resume state, []) else none
  | .ended => none

/-! ## The joiner -/

/-- Whether a task has ended. -/
def anyEnded (c : Connection σ) : Bool :=
  c.sender = .ended || !c.receiving || c.session.isEnded

/-- Whether all tasks have ended. -/
def allEnded (c : Connection σ) : Bool :=
  c.sender = .ended && !c.receiving && c.session.isEnded

/-- The joiner looks for tasks that ended. -/
def join? (c : Connection σ) : Option (Moved σ) :=
  match c.joiner with
  | .watching =>
    if c.anyEnded then
      some ({ c with joiner := .closing }.cancel.publish .closing, [.published .closing])
    else none
  | .closing =>
    if c.allEnded then
      some ({ c with joiner := .done }.publish .closed, [.published .closed])
    else none
  | .done => none

/-! ## Runs -/

/-- The connection when it begins, through a link that may be cancelled already.  It shows that
it is open. -/
def start (liveness : Liveness) (id : Identifier) (link : Link) (now : Moment) (state : σ) :
    Connection σ where
  liveness := liveness
  id := id
  link := { link with phase := .opened }
  now := now
  nextPing := now.after liveness.pingEvery
  deadline := now.after liveness.pongWithin
  outbox := none
  inbox := none
  sender := if liveness.pingEvery = 0 then .unstartable else .idle
  receiving := true
  session := .running state
  joiner := .watching

/-- Whether the connection is served no longer. -/
def isDone (c : Connection σ) : Bool :=
  c.joiner = .done

/-- Makes a move, when it is possible. -/
def step? (session : Session ρ σ) (shared : ρ) (c : Connection σ) :
    Move → Option (ρ × Moved σ)
  | .stop => c.stop?.map (shared, ·)
  | .take => c.take?.map (shared, ·)
  | .ping => c.ping?.map (shared, ·)
  | .written => c.written?.map (shared, ·)
  | .failed => c.failed?.map (shared, ·)
  | .giveUp => c.giveUp?.map (shared, ·)
  | .halt => c.halt?.map (shared, ·)
  | .expire => c.expire?.map (shared, ·)
  | .receive inbound => (c.receive? inbound).map (shared, ·)
  | .work => work? session shared c
  | .join => c.join?.map (shared, ·)
  | .cancel => some (shared, c.cancel, [])
  | .elapse time => some (shared, { c with now := c.now.after time }, [])

/-- Makes a move if it is possible. -/
def step (session : Session ρ σ) (shared : ρ) (c : Connection σ) (move : Move) : ρ × Moved σ :=
  (step? session shared c move).getD (shared, c, [])

/-- Makes moves one after the other and gathers what shows of them. -/
def run (session : Session ρ σ) : ρ → Connection σ → List Move → ρ × Moved σ
  | shared, c, [] => (shared, c, [])
  | shared, c, move :: moves =>
    let (shared, c, events) := step session shared c move
    let (shared, c, later) := run session shared c moves
    (shared, c, events ++ later)

end Connection

end KeyDirectory
