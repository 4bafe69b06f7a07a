import KeyDirectory.Connection.Step
import KeyDirectory.Upload.Session

/-!
# The hall of the upload point

All connections at the upload point, with the desk that their sessions share.  A turn is a move
of one connection or something that happens beside them, and a run of the hall is any list of
turns: nothing is said about the order in which connections move.
-/

namespace KeyDirectory.Upload

open Connection

/-! ## What a connection submitted -/

/-- Whether a message can be a submission. -/
def isContent : WebSocket.Message → Bool
  | .text _ | .binary _ => true
  | .ping _ | .pong _ | .close _ => false

/-- The text of a message that can be a submission, if its bytes are text. -/
def contentText? : WebSocket.Message → Option String
  | .text text => some text
  | .binary bytes => Text.Utf8.decodeText? bytes
  | .ping _ | .pong _ | .close _ => none

/-- The line that a connection submitted: its first text or binary message, if that is text and not
too long. -/
def submittedLine? (maxMessage : Nat) (heard : List WebSocket.Message) : Option String :=
  ((heard.find? isContent).bind contentText?).filter fun text =>
    decide (text.utf8ByteSize ≤ maxMessage)

/-- The lease that a session holds: from when it has registered until it has revoked. -/
def Stage.lease? : Stage → Option Lease
  | registered lease | telling lease | holding lease | revoking lease => some lease
  | arriving | awaitingKey | registering _ | leaving => none

/-- The same, wherever the task of the session stands. -/
def leaseOf : Standing Stage → Option Lease
  | .running stage | .sleeping _ stage => stage.lease?
  | .ended => none

/-! ## Parties -/

/-- A connection with what it has heard from its peer and what it has queued for it. -/
structure Party where
  connection : Connection Stage
  /-- The messages that its receiver took, the first one first. -/
  heard : List WebSocket.Message
  /-- The messages that its session queued. -/
  said : List String

/-- What a connection hears in a move. -/
def hearing (c : Connection Stage) : Move → List WebSocket.Message
  | .receive (.message message) => if c.receiving then [message] else []
  | _ => []

/-- What is queued for the peer, as an event shows. -/
def accepted? : Event → Option String
  | .accepted message => some message
  | _ => none

namespace Party

/-- A connection that begins. -/
def start (liveness : Liveness) (identifier : Identifier) (link : Link) (now : Moment) : Party :=
  ⟨.start liveness identifier link now session.start, [], []⟩

/-- The lease that a connection holds. -/
def lease? (p : Party) : Option Lease :=
  leaseOf p.connection.session

/-- The line that a connection submitted. -/
def line? (p : Party) : Option String :=
  submittedLine? p.connection.liveness.maxMessage p.heard

/-- The key that a connection submitted. -/
def key? (p : Party) : Option PublicKey :=
  p.line?.bind fun line => (Key.parse line).toOption

/-- Makes a move, if it is possible. -/
def move (desk : Desk) (p : Party) (m : Move) : Desk × Party :=
  let (desk, connection, events) := p.connection.step session desk m
  (desk, ⟨connection, p.heard ++ hearing p.connection m, p.said ++ events.filterMap accepted?⟩)

end Party

/-! ## The hall -/

/-- All connections and the desk that they share. -/
structure Hall where
  desk : Desk
  parties : List Party

/-- What can happen next. -/
inductive Turn where
  /-- A connection begins. -/
  | enter (liveness : Liveness) (identifier : Identifier) (link : Link) (now : Moment)
  /-- A connection makes a move. -/
  | move (i : Nat) (m : Move)
  /-- An identity is looked up. -/
  | lookup (identity : String)
  /-- The day and the random generator change. -/
  | supply (today : Timestamp) (randomness : List (List UInt8))

namespace Hall

/-- The hall without connections. -/
def opened (beginning : String) (today : Timestamp) (randomness : List (List UInt8)) : Hall :=
  ⟨⟨.empty beginning, randomness, today⟩, []⟩

/-- The keys that a lookup finds. -/
def lookup (h : Hall) (identity : String) : Answer :=
  h.desk.roster.get identity

/-- A connection makes a move. -/
def move (h : Hall) (i : Nat) (m : Move) : Hall :=
  match h.parties[i]? with
  | some p =>
    let (desk, p) := p.move h.desk m
    ⟨desk, h.parties.set i p⟩
  | none => h

/-- One turn.  Looking up changes nothing. -/
def step (h : Hall) : Turn → Hall
  | .enter liveness identifier link now =>
    { h with parties := h.parties ++ [.start liveness identifier link now] }
  | .move i m => h.move i m
  | .lookup _ => h
  | .supply today randomness => { h with desk.today := today, desk.randomness := randomness }

/-- Turns one after the other. -/
def run (h : Hall) (turns : List Turn) : Hall :=
  turns.foldl step h

/-! ## What is expected of the hall -/

/-- The roster and the connections agree: there is one entry for each connection that has
registered and not yet revoked, with the one key that it submitted, and no other entry.  What a
connection has queued is at most one message, nothing unless it submitted a key, and no
connection holds an entry once it is served no longer. -/
structure IsExact (h : Hall) : Prop where
  once : (h.desk.roster.entries.map Prod.fst).Nodup
  held : ∀ identity entry, h.desk.roster.entry? identity = some entry →
    ∃ (i : Nat) (p : Party) (lease : Lease),
      h.parties[i]? = some p ∧ p.lease? = some lease ∧ lease.identity = identity
  listed : ∀ p ∈ h.parties, ∀ lease, p.lease? = some lease → ∃ key entry,
    p.key? = some key ∧ h.desk.roster.entry? lease.identity = some entry ∧ entry.keys = [key]
  apart : ∀ (i j : Nat) (p q : Party) (l m : Lease),
    h.parties[i]? = some p → h.parties[j]? = some q → p.lease? = some l → q.lease? = some m →
    l.identity = m.identity → i = j
  toldOnce : ∀ p ∈ h.parties, p.said.length ≤ 1
  unlisted : ∀ p ∈ h.parties, p.key? = none → p.lease? = none ∧ p.said = []
  served : ∀ p ∈ h.parties, p.connection.isDone = true → p.lease? = none

/-- What a move of a connection may do: it leaves the other connections and their entries alone,
it queues nothing but the identity that it holds, which can then be looked up, and it leaves the
roster alone as long as the connection has not submitted a key. -/
structure MoveIsFair (h : Hall) (i : Nat) (p : Party) (m : Move) : Prop where
  others : ∀ j q, j ≠ i → h.parties[j]? = some q → (h.move i m).parties[j]? = some q ∧
    ∀ lease, q.lease? = some lease →
      Roster.entry? (h.move i m).desk.roster lease.identity = h.desk.roster.entry? lease.identity
  told : (p.move h.desk m).2.said = p.said ∨ ∃ lease key, p.said = [] ∧
    (p.move h.desk m).2.said = [lease.identity] ∧ p.lease? = some lease ∧ p.key? = some key ∧
    h.lookup lease.identity = .ok ⟨.upload, [key]⟩
  unlisted : (p.move h.desk m).2.key? = none → (h.move i m).desk.roster = h.desk.roster

end Hall

end KeyDirectory.Upload
