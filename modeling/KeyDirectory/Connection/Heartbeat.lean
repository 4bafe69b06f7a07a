import KeyDirectory.Connection.Listening

/-!
# What is expected of pings and pongs

The sender pings at fixed times and the receiver waits for pongs, and neither knows of the other.
A peer that answers in time is to be kept, and one that never answers is not.
-/

namespace KeyDirectory.Connection

variable {ρ σ : Type}

/-- The moves that no task puts off: the receiver ends when it can, the sender pings when it can,
and what was handed to the socket is written at once. -/
def unhesitating : List Move :=
  [.halt, .expire, .ping, .written]

/-- The pings in these events, which showed at some time. -/
def pingedIn (now : Moment) (events : List Event) : List Moment :=
  events.filterMap fun event => if event = .wrote .ping then some now else none

/-- When the peer was pinged. -/
def pings (session : Session ρ σ) (shared : ρ) (c : Connection σ) (moves : List Move) :
    List Moment :=
  (timed session shared c moves).filterMap fun (time, event) =>
    if event = .wrote .ping then some time else none

/-- How long the peer may take for its answer to a ping: so much is left of the time for a pong when
the next ping is due. -/
def Liveness.answerWithin (liveness : Liveness) : Duration :=
  liveness.pongWithin - liveness.pingEvery

/-- The peer answers every ping in less than that time, as long as anyone listens: whenever so much
time has passed since a ping, a pong came in between. -/
def IsResponsive (session : Session ρ σ) (shared : ρ) (c : Connection σ) (moves : List Move) :
    Prop :=
  ∀ before later, moves = before ++ later → (reached session shared c before).receiving = true →
    ∀ ping ∈ pings session shared c before,
      ping.after c.liveness.answerWithin ≤ clock c.now before →
        ∃ pong ∈ pongs (arrivals c.now before),
          ping ≤ pong ∧ pong < ping.after c.liveness.answerWithin

/-- What is expected of the watch over the peer in some moves. -/
structure Minds (session : Session ρ σ) (shared : ρ) (c : Connection σ) (moves : List Move) :
    Prop where
  /-- A peer that answers every ping in time is not presumed gone, and its deadline never comes. -/
  kept : IsResponsive session shared c moves →
    (∀ before later, moves = before ++ later →
      (reached session shared c before).receiving = true →
        clock c.now before < (reached session shared c before).deadline) ∧
    ∀ time, (time, .silent) ∉ endings session shared c moves
  /-- A peer that sends no pong is presumed gone at the time that is set and at no other. -/
  silent : pongs (arrivals c.now moves) = [] →
    ∀ time, (time, .silent) ∈ endings session shared c moves →
      time = c.now.after c.liveness.pongWithin
  /-- Such a connection, unless it ends for another reason, goes on until then and no longer. -/
  gone : pongs (arrivals c.now moves) = [] →
    (∀ last ∈ endings session shared c moves, last.2 = .silent) →
      (clock c.now moves < c.now.after c.liveness.pongWithin →
        endings session shared c moves = [] ∧
          (reached session shared c moves).receiving = true) ∧
      (c.now.after c.liveness.pongWithin < clock c.now moves →
        endings session shared c moves = [(c.now.after c.liveness.pongWithin, .silent)] ∧
          (reached session shared c moves).link.cancelled = true)

end KeyDirectory.Connection
