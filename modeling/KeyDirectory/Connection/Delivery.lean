import KeyDirectory.Connection.Course

/-!
# What becomes of the messages of a session

The messages that a session queues for the peer, beside the frames that the sender makes of them;
and what is expected of the sender, whatever the order of the moves.
-/

namespace KeyDirectory.Connection

variable {ρ σ : Type}

/-- The message that the session queued, as it was told. -/
def Event.accepted? : Event → Option String
  | .accepted message => some message
  | _ => none

/-- What the sender handed to the socket. -/
def Event.begun? : Event → Option Outgoing
  | .began out => some out
  | _ => none

/-- What was written. -/
def Event.written? : Event → Option Outgoing
  | .wrote out => some out
  | _ => none

/-- The text of a message that the sender writes. -/
def Outgoing.text? : Outgoing → Option String
  | .text content => some content
  | .ping | .close => none

/-- What the sender has handed to the socket and not yet written. -/
def Sender.inHand : Sender → List Outgoing
  | .writing out _ _ => [out]
  | .closing _ => [.close]
  | .unstartable | .idle | .flushing _ | .ended => []

/-- The messages in these frames are those given, in that order, and one closing message comes
after them all. -/
def IsFarewell (frames : List Outgoing) (messages : List String) : Prop :=
  ∃ before, frames = before ++ [.close] ∧ .close ∉ before ∧
    before.filterMap Outgoing.text? = messages

/-- No writing fails, and none takes too long. -/
def IsSmooth (moves : List Move) : Prop :=
  .failed ∉ moves ∧ .giveUp ∉ moves

/-- What the sender of a cancelled connection has still to do, at most, wherever it stands: to
write what it is writing, to stop, to write what is queued, the closing message and the rest. -/
def lastMoves : List Move :=
  [.written, .stop, .written, .written, .written]

/-- What is expected of a connection in some moves: every message that was accepted is written, in
its turn and before the closing message, and none that was refused. -/
structure Delivers (session : Session ρ σ) (shared : ρ) (c : Connection σ) (moves : List Move) :
    Prop where
  /-- What was handed to the socket, and then what waits, are the messages that were accepted. -/
  inOrder : ((showed session shared c moves).filterMap Event.begun?).filterMap Outgoing.text? ++
    (reached session shared c moves).outbox.toList =
      (showed session shared c moves).filterMap Event.accepted?
  /-- What is handed to the socket is written before anything else is. -/
  written : (showed session shared c moves).filterMap Event.written? ++
    (reached session shared c moves).sender.inHand =
      (showed session shared c moves).filterMap Event.begun?
  /-- The closing message comes after all that is ever accepted, and nothing after it. -/
  closing : .close ∈ (showed session shared c moves).filterMap Event.begun? →
    IsFarewell ((showed session shared c moves).filterMap Event.begun?)
      ((showed session shared c moves).filterMap Event.accepted?)
  /-- A sender that has ended has written all that was accepted. -/
  ended : (reached session shared c moves).sender = .ended →
    IsFarewell ((showed session shared c moves).filterMap Event.written?)
      ((showed session shared c moves).filterMap Event.accepted?)
  /-- Nothing is accepted after the connection was cancelled. -/
  cutOff : ∀ earlier later, moves = earlier ++ later →
    (reached session shared c earlier).link.cancelled = true →
      (showed session shared c moves).filterMap Event.accepted? =
        (showed session shared c earlier).filterMap Event.accepted?
  /-- A message that the session would queue then is refused, and it is told so. -/
  refuses : (reached session shared c moves).link.cancelled = true →
    ∀ state message next, (reached session shared c moves).session = .running state →
      session.call state = .write message next → ∀ between,
        step session between (reached session shared c moves) .work =
          (between, (reached session shared c moves).resume (next false), [.refused message])
  /-- The sender of a cancelled connection comes to its end as soon as its writing does. -/
  ends : (reached session shared c moves).link.cancelled = true →
    (reached session shared c (moves ++ lastMoves)).sender = .ended

end KeyDirectory.Connection
