import KeyDirectory.Connection.Step
import KeyDirectory.Failure

/-!
# The pool of handlers

Connections are served by handlers, which are used again.  Before each use a handler is reset:
it gets a link of its own, so that nobody who kept the link of an earlier use can cancel or
watch the later one.  A handler that waits for its next use holds no session.
-/

namespace KeyDirectory.Connection

/-- A handler: the session that it is to serve, of type `α`, and the number of its link. -/
structure Handler (α : Type) where
  session : Option α
  link : Nat
  deriving DecidableEq, Repr

/-- A pool of handlers. -/
structure Pool (α : Type) where
  liveness : Liveness
  /-- How many handlers are kept for their next use. -/
  maxIdle : Nat
  /-- The handlers kept, the one kept last first. -/
  idle : List (Handler α)
  /-- How many handlers were ever made. -/
  created : Nat
  /-- All links that were ever made, by their numbers. -/
  links : List Link
  deriving DecidableEq, Repr

namespace Pool

variable {α : Type}

/-- How many handlers are kept unless it is said otherwise. -/
def standardMaxIdle : Nat := 64

/-- A pool without handlers. -/
def empty (liveness : Liveness) (maxIdle : Nat) : Pool α :=
  ⟨liveness, maxIdle, [], 0, []⟩

/-- The link of a number. -/
def link (p : Pool α) (number : Nat) : Link :=
  p.links.getD number .fresh

/-- Changes a link. -/
def setLink (p : Pool α) (number : Nat) (link : Link) : Pool α :=
  { p with links := p.links.set number link }

/-- Makes a handler. -/
def make (p : Pool α) : Pool α × Handler α :=
  ({ p with created := p.created + 1, links := p.links ++ [.fresh] }, ⟨none, p.links.length⟩)

/-- Gives a handler a session, or none, and a link of its own. -/
def reset (p : Pool α) (h : Handler α) (session : Option α) : Pool α × Handler α :=
  ({ p with links := p.links ++ [.fresh] },
    { h with session := session, link := p.links.length })

/-- Takes a handler out for a session; one is made when none is kept. -/
def acquire (p : Pool α) (session : α) : Pool α × Handler α :=
  let (p, h) := match p.idle with
    | h :: rest => ({ p with idle := rest }, h)
    | [] => p.make
  p.reset h (some session)

/-- Puts a handler back.  It is kept if there is room. -/
def release (p : Pool α) (h : Handler α) : Pool α :=
  let (p, h) := p.reset h none
  if p.idle.length < p.maxIdle then { p with idle := h :: p.idle } else p

/-- Cancels the use that a link belongs to. -/
def cancel (p : Pool α) (number : Nat) : Pool α :=
  p.setLink number { p.link number with cancelled := true }

/-- Shows a phase on a link. -/
def publish (p : Pool α) (number : Nat) (phase : Phase) : Pool α :=
  p.setLink number { p.link number with phase := phase }

/-- The failure of a handler that has no session. -/
def notReset : Failure := .internal "connection handler was not reset"

/-- Begins to serve a connection with a handler. -/
def begin {ρ σ : Type} (p : Pool (Session ρ σ)) (h : Handler (Session ρ σ)) (id : Identifier)
    (now : Moment) : Pool (Session ρ σ) × Except Failure (Session ρ σ × Connection σ) :=
  match h.session with
  | none => (p.publish h.link .closed, .error notReset)
  | some session =>
    let c := Connection.start p.liveness id (p.link h.link) now session.start
    (p.setLink h.link c.link, .ok (session, c))

end Pool

end KeyDirectory.Connection
