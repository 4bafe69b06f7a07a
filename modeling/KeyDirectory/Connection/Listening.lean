import KeyDirectory.Connection.Course

/-!
# What is expected of the receiver

When the receiver ends and why, as a function of what comes from the socket and of the times at
which it does; which messages it passes to the session; and which of these the session can read.
-/

namespace KeyDirectory.Connection

variable {ρ σ : Type}

/-! ## What comes from the socket -/

/-- The text of a message, if it has one. -/
def Inbound.text? : Inbound → Option String
  | .message (.text text) => some text
  | .message (.binary bytes) => Text.Utf8.decodeText? bytes
  | _ => none

/-- Whether the peer shows by this that it is still there. -/
def Inbound.isPong : Inbound → Bool
  | .message (.pong _) => true
  | _ => false

/-- Why the receiver ends at this, if it does.  Sizes are in bytes. -/
def Inbound.fatal? (largest : Nat) : Inbound → Option Ending
  | .message (.text text) => if largest < text.utf8ByteSize then some .tooLong else none
  | .message (.binary bytes) =>
    if Text.Utf8.decodeText? bytes = none then some .notText
    else if largest < bytes.length then some .tooLong
    else none
  | .message (.ping _) | .message (.pong _) => none
  | .message (.close _) => some .closed
  | .failed => some .failed
  | .ended => some .ended

/-- The message for the session in this, if the receiver passes one on. -/
def Inbound.passed? (largest : Nat) (inbound : Inbound) : Option String :=
  if inbound.fatal? largest = none then inbound.text? else none

/-! ## When the receiver ends -/

/-- The times at which pongs came. -/
def pongs (arrived : List (Moment × Inbound)) : List Moment :=
  arrived.filterMap fun (time, inbound) => if inbound.isPong then some time else none

/-- When the peer is presumed gone that was last heard of at some time and then sent pongs at these
times: a pong that comes too late does not count. -/
def silentAt (pongWithin : Duration) (last : Moment) : List Moment → Moment
  | [] => last.after pongWithin
  | pong :: later =>
    if pong < last.after pongWithin then silentAt pongWithin pong later
    else last.after pongWithin

/-- The first thing that ends the receiver, of what came from the socket. -/
def firstFatal? (largest : Nat) (arrived : List (Moment × Inbound)) : Option (Moment × Ending) :=
  arrived.findSome? fun (time, inbound) => (inbound.fatal? largest).map (time, ·)

/-- When the receiver of a connection that began at some time ends, and why, if nobody cancels the
connection: at the first thing that ends it, unless the peer is presumed gone before. -/
def ending (liveness : Liveness) (begun : Moment) (arrived : List (Moment × Inbound)) :
    Moment × Ending :=
  let silent := silentAt liveness.pongWithin begun (pongs arrived)
  match firstFatal? liveness.maxMessage arrived with
  | some (time, why) => if time < silent then (time, why) else (silent, .silent)
  | none => (silent, .silent)

/-- Nothing comes to the receiver at the very time of its deadline. -/
def ComesApart (_shared : ρ) (c : Connection σ) : Move → Prop
  | .receive _ => c.receiving = true → c.now ≠ c.deadline
  | _ => True

instance ComesApart.decidable (shared : ρ) (c : Connection σ) :
    ∀ move, Decidable (ComesApart shared c move)
  | .receive _ => inferInstanceAs (Decidable (_ → c.now ≠ c.deadline))
  | .stop | .take | .ping | .written | .failed | .giveUp | .halt | .expire | .work | .join
  | .cancel | .elapse _ => .isTrue trivial

/-! ## What shows of it -/

/-- Why the receiver ended, as it was told. -/
def Event.ending? : Event → Option Ending
  | .receiverEnded why => some why
  | _ => none

/-- The message that the receiver passed on, whether there was room for it or not. -/
def Event.passed? : Event → Option String
  | .queued message | .dropped message => some message
  | _ => none

/-- The message that the receiver queued. -/
def Event.queued? : Event → Option String
  | .queued message => some message
  | _ => none

/-- The message that the session read. -/
def Event.taken? : Event → Option String
  | .took message => message
  | _ => none

/-- The message that waits to be read after another event. -/
def waitingAfter (waiting : Option String) : Event → Option String
  | .queued message => some message
  | .took (some _) => none
  | _ => waiting

/-- The message that waits to be read after these events. -/
def waiting (events : List Event) : Option String :=
  events.foldl waitingAfter none

/-- The end of the receiver in these events, which showed at some time. -/
def endedIn (now : Moment) (events : List Event) : List (Moment × Ending) :=
  events.filterMap fun event => event.ending?.map (now, ·)

/-- When the receiver ended, and why. -/
def endings (session : Session ρ σ) (shared : ρ) (c : Connection σ) (moves : List Move) :
    List (Moment × Ending) :=
  (timed session shared c moves).filterMap fun (time, event) => event.ending?.map (time, ·)

/-- What the receiver takes from the socket in a move. -/
def heardIn (c : Connection σ) : Move → List (Moment × Inbound)
  | .receive inbound => if c.receiving then [(c.now, inbound)] else []
  | _ => []

/-- What the receiver took from the socket, with the times at which it did. -/
def heard (session : Session ρ σ) : ρ → Connection σ → List Move → List (Moment × Inbound)
  | _, _, [] => []
  | shared, c, move :: moves =>
    heardIn c move ++
      heard session (step session shared c move).1 (step session shared c move).2.1 moves

/-- The messages for the session in what the receiver took. -/
def passedOn (largest : Nat) (took : List (Moment × Inbound)) : List String :=
  took.filterMap fun (_, inbound) => inbound.passed? largest

/-- What is expected of the receiver of a connection in some moves. -/
structure Listens (session : Session ρ σ) (shared : ρ) (c : Connection σ) (moves : List Move) :
    Prop where
  /-- It ends once at most. -/
  once : (reached session shared c moves).receiving = true ∧ endings session shared c moves = [] ∨
    (reached session shared c moves).receiving = false ∧
      ∃ last, endings session shared c moves = [last]
  /-- When it ends, and why, is known from what came from the socket. -/
  ends : ∀ time why, (time, why) ∈ endings session shared c moves → why ≠ .cancelled →
    (time, why) = ending c.liveness c.now (arrivals c.now moves)
  /-- It runs no longer than that. -/
  inTime : (reached session shared c moves).receiving = true →
    clock c.now moves ≤ (ending c.liveness c.now (arrivals c.now moves)).1 ∧
      (ending c.liveness c.now (arrivals c.now moves)).2 = .silent
  /-- It can end for want of a pong from its deadline on and not before, and then it does end. -/
  expires : (reached session shared c moves).receiving = true →
    ∀ shared', isPossible session shared' (reached session shared c moves) .expire =
        decide ((reached session shared c moves).deadline ≤ clock c.now moves) ∧
      (isPossible session shared' (reached session shared c moves) .expire = true →
        (step session shared' (reached session shared c moves) .expire).2.2 =
            [.receiverEnded .silent] ∧
          (step session shared' (reached session shared c moves) .expire).2.1.receiving = false)
  /-- It ends otherwise only when the connection was cancelled while it still ran. -/
  elsewhere : ∀ time, (time, .cancelled) ∈ endings session shared c moves →
    ∃ before later, moves = before ++ later ∧ (reached session shared c before).receiving = true ∧
      (reached session shared c before).link.cancelled = true
  /-- Nothing but a pong moves the deadline. -/
  deadline : (reached session shared c moves).receiving = true →
    (reached session shared c moves).deadline =
      silentAt c.liveness.pongWithin c.now (pongs (arrivals c.now moves))
  /-- As long as it runs it takes all that comes, whether the session reads or not. -/
  takes : (reached session shared c moves).receiving = true →
    heard session shared c moves = arrivals c.now moves
  /-- What it did not take came when it had ended. -/
  misses : ∃ missed, arrivals c.now moves = heard session shared c moves ++ missed ∧
    ∀ last ∈ endings session shared c moves, ∀ late ∈ missed, last.1 ≤ late.1
  /-- It passes on every message but one that ends it, in order and once. -/
  passes : (showed session shared c moves).filterMap Event.passed? =
    passedOn c.liveness.maxMessage (heard session shared c moves)
  /-- A message is dropped only when another one waits to be read, as long as the session runs. -/
  drops : ∀ before message later,
    showed session shared c moves = before ++ .dropped message :: later →
      .sessionEnded ∈ before ∨ (waiting before).isSome = true
  /-- A message is queued only when none waits to be read, while the session runs. -/
  queues : ∀ before message later,
    showed session shared c moves = before ++ .queued message :: later →
      .sessionEnded ∉ before ∧ waiting before = none
  /-- The session reads what was queued, in order and once. -/
  reads : (showed session shared c moves).filterMap Event.taken? ++
    (reached session shared c moves).inbox.toList =
      (showed session shared c moves).filterMap Event.queued?
  /-- The first message is not dropped. -/
  first : ∀ before message later,
    showed session shared c moves = before ++ .dropped message :: later →
      .sessionEnded ∈ before ∨ ∃ earlier, .queued earlier ∈ before
  /-- No message is queued that is too long. -/
  fits : ∀ message, .queued message ∈ showed session shared c moves →
    message.utf8ByteSize ≤ c.liveness.maxMessage

end KeyDirectory.Connection
