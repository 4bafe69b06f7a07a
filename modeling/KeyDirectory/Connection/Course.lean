import KeyDirectory.Connection.Step

/-!
# The course of a connection

What a list of moves leads to and what shows of it on the way, with the clock beside it: when
something showed, and when something came from the socket.  Whoever is to be prompt is so at each of
the moves: no time passes while the connection as it then is lets a move be made.
-/

namespace KeyDirectory.Connection

variable {ρ σ : Type}

/-- The connection after some moves. -/
def reached (session : Session ρ σ) (shared : ρ) (c : Connection σ) (moves : List Move) :
    Connection σ :=
  (run session shared c moves).2.1

/-- What showed of some moves. -/
def showed (session : Session ρ σ) (shared : ρ) (c : Connection σ) (moves : List Move) :
    List Event :=
  (run session shared c moves).2.2

/-- What showed of some moves, with the times at which it did. -/
def timed (session : Session ρ σ) : ρ → Connection σ → List Move → List (Moment × Event)
  | _, _, [] => []
  | shared, c, move :: moves =>
    let (shared, c', events) := step session shared c move
    events.map (c.now, ·) ++ timed session shared c' moves

/-- The time that a move takes. -/
def Move.time : Move → Duration
  | .elapse time => time
  | _ => 0

/-- The time after some moves. -/
def clock : Moment → List Move → Moment
  | now, [] => now
  | now, move :: moves => clock (now.after move.time) moves

/-- What comes from the socket, with the times at which it does. -/
def arrivals : Moment → List Move → List (Moment × Inbound)
  | _, [] => []
  | now, .receive inbound :: moves => (now, inbound) :: arrivals now moves
  | now, move :: moves => arrivals (now.after move.time) moves

/-- Something holds at each of some moves, of the connection as it then is and of what its session
shares. -/
def AllAlong (P : ρ → Connection σ → Move → Prop) (session : Session ρ σ) :
    ρ → Connection σ → List Move → Prop
  | _, _, [] => True
  | shared, c, move :: moves =>
    P shared c move ∧
      AllAlong P session (step session shared c move).1 (step session shared c move).2.1 moves

instance AllAlong.decidable {P : ρ → Connection σ → Move → Prop}
    [∀ shared c move, Decidable (P shared c move)] (session : Session ρ σ) :
    ∀ (shared : ρ) (c : Connection σ) (moves : List Move),
      Decidable (AllAlong P session shared c moves)
  | _, _, [] => inferInstanceAs (Decidable True)
  | shared, c, move :: moves =>
    have : Decidable (AllAlong P session (step session shared c move).1
        (step session shared c move).2.1 moves) :=
      AllAlong.decidable session _ _ moves
    inferInstanceAs (Decidable (_ ∧ _))

/-! ## Promptness -/

/-- Whether a move is possible. -/
def isPossible (session : Session ρ σ) (shared : ρ) (c : Connection σ) (move : Move) : Bool :=
  (step? session shared c move).isSome

/-- The connection when nothing has moved for some time. -/
def idleFor (c : Connection σ) (time : Duration) : Connection σ :=
  { c with now := c.now.after time }

/-- No time passes while one of these moves is possible, so that whoever can make one of them does
not wait.  When they are possible is for the connection to say. -/
def IsPrompt (urgent : List Move) (session : Session ρ σ) (shared : ρ) (c : Connection σ) :
    Move → Prop
  | .elapse time =>
    ∀ passed < time, ∀ move ∈ urgent, isPossible session shared (c.idleFor passed) move = false
  | _ => True

instance IsPrompt.decidable (urgent : List Move) (session : Session ρ σ) (shared : ρ)
    (c : Connection σ) : ∀ move, Decidable (IsPrompt urgent session shared c move)
  | .elapse time => inferInstanceAs (Decidable (∀ passed < time, ∀ move ∈ urgent,
      isPossible session shared (c.idleFor passed) move = false))
  | .stop | .take | .ping | .written | .failed | .giveUp | .halt | .expire | .receive _ | .work
  | .join | .cancel => .isTrue trivial

end KeyDirectory.Connection
