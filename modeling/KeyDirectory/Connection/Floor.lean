import KeyDirectory.Connection.Pool

/-!
# Everything that is done with a pool

A pool with all handlers that were taken out of it, and the connections that were served with them.
Handlers are taken out, put back, reset and used in any order, any number of them at once.  Who was
given a link keeps it, and may cancel it or show a phase on it at any time, also when the handler
has long been put back; a connection moves on its link for as long as it likes.
-/

namespace KeyDirectory.Connection

/-- What shows of a handler: its session, its link, and the times and sizes of its pool. -/
def Pool.view {α : Type} (p : Pool α) (h : Handler α) : Option α × Link × Liveness :=
  (h.session, p.link h.link, p.liveness)

/-- A connection that is served with a handler. -/
structure Service (ρ σ : Type) where
  /-- The number of the link that the handler had when the connection began. -/
  link : Nat
  session : Session ρ σ
  connection : Connection σ

/-- A pool with all that came of it. -/
structure Floor (ρ σ : Type) where
  pool : Pool (Session ρ σ)
  /-- The handlers that were taken out, by number; none where one was put back. -/
  out : List (Option (Handler (Session ρ σ)))
  /-- How many handlers were put back and not kept. -/
  discarded : Nat
  services : List (Service ρ σ)

/-- What is done with a pool, its handlers and their links. -/
inductive Use (ρ σ : Type) where
  | acquire (session : Session ρ σ)
  /-- A handler that was taken out is put back. -/
  | release (n : Nat)
  /-- A handler that was taken out is reset by whoever has it. -/
  | reset (n : Nat) (session : Option (Session ρ σ))
  /-- A link is cancelled. -/
  | cancel (link : Nat)
  /-- A phase is shown on a link. -/
  | publish (link : Nat) (phase : Phase)
  /-- A connection begins to be served with a handler that was taken out. -/
  | serve (n : Nat) (id : Identifier) (now : Moment)
  /-- A connection moves; what its session shares with others is as they have left it. -/
  | move (i : Nat) (shared : ρ) (m : Move)

namespace Floor

variable {ρ σ : Type}

/-- A new pool. -/
def opened (liveness : Liveness) (maxIdle : Nat) : Floor ρ σ :=
  ⟨.empty liveness maxIdle, [], 0, []⟩

/-- The handler that was taken out under a number, if it was not put back. -/
def handler? (f : Floor ρ σ) (n : Nat) : Option (Handler (Session ρ σ)) :=
  f.out[n]?.join

/-- A handler is taken out. -/
def acquire (f : Floor ρ σ) (session : Session ρ σ) : Floor ρ σ :=
  let (pool, h) := f.pool.acquire session
  { f with pool := pool, out := f.out ++ [some h] }

/-- A handler is put back.  It was not kept if there are no more handlers idle than before. -/
def release (f : Floor ρ σ) (n : Nat) : Floor ρ σ :=
  match f.handler? n with
  | some h =>
    let pool := f.pool.release h
    { f with
      pool := pool
      out := f.out.set n none
      discarded := f.discarded + if pool.idle.length = f.pool.idle.length then 1 else 0 }
  | none => f

/-- A handler is reset. -/
def reset (f : Floor ρ σ) (n : Nat) (session : Option (Session ρ σ)) : Floor ρ σ :=
  match f.handler? n with
  | some h =>
    let (pool, h) := f.pool.reset h session
    { f with pool := pool, out := f.out.set n (some h) }
  | none => f

/-- A connection begins to be served. -/
def serve (f : Floor ρ σ) (n : Nat) (id : Identifier) (now : Moment) : Floor ρ σ :=
  match f.handler? n with
  | some h =>
    match f.pool.begin h id now with
    | (pool, .ok (session, c)) =>
      { f with pool := pool, services := f.services ++ [⟨h.link, session, c⟩] }
    | (pool, .error _) => { f with pool := pool }
  | none => f

/-- A connection moves, on the link that others may have changed meanwhile. -/
def move (f : Floor ρ σ) (i : Nat) (shared : ρ) (m : Move) : Floor ρ σ :=
  match f.services[i]? with
  | some s =>
    let c := (step s.session shared { s.connection with link := f.pool.link s.link } m).2.1
    { f with
      pool := f.pool.setLink s.link c.link
      services := f.services.set i { s with connection := c } }
  | none => f

/-- One use. -/
def step (f : Floor ρ σ) : Use ρ σ → Floor ρ σ
  | .acquire session => f.acquire session
  | .release n => f.release n
  | .reset n session => f.reset n session
  | .cancel link => { f with pool := f.pool.cancel link }
  | .publish link phase => { f with pool := f.pool.publish link phase }
  | .serve n id now => f.serve n id now
  | .move i shared m => f.move i shared m

/-- Uses one after the other. -/
def run (f : Floor ρ σ) (uses : List (Use ρ σ)) : Floor ρ σ :=
  uses.foldl step f

end Floor

/-- What shows of a connection to those who watch the links from a number on: where it runs on an
earlier link, only that it does. -/
def Service.seenFrom {ρ σ : Type} (old : Nat) (s : Service ρ σ) :
    Nat × Session ρ σ × Option (Connection σ) :=
  (s.link, s.session, if s.link < old then none else some s.connection)

/-- Two floors are the same but for the links below a number and for the connections on them. -/
structure Floor.AgreesFrom {ρ σ : Type} (old : Nat) (f g : Floor ρ σ) : Prop where
  liveness : f.pool.liveness = g.pool.liveness
  maxIdle : f.pool.maxIdle = g.pool.maxIdle
  idle : f.pool.idle = g.pool.idle
  created : f.pool.created = g.pool.created
  linkCount : f.pool.links.length = g.pool.links.length
  link : ∀ k, old ≤ k → f.pool.link k = g.pool.link k
  out : f.out = g.out
  discarded : f.discarded = g.discarded
  services : f.services.map (·.seenFrom old) = g.services.map (·.seenFrom old)

end KeyDirectory.Connection
