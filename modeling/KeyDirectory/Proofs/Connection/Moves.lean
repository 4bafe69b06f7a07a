import KeyDirectory.Proofs.Connection.Steps

/-!
# What a move leaves alone

A session shares its connection with a sender, a receiver and a joiner.  Here stands once what
their moves can do to what the session sees: nothing but cancel the connection, stop the receiver
and fill the queue of messages from the peer.

* `Aside`, `Quiet`: what a move keeps that is none of the session.
* `quiet_goes`, `quiet_step`: all moves but those of the session and of incoming messages are quiet.
* `deliver_cases`, `aside_takeInbound`: what comes of a text, and of anything from the socket.
-/

namespace KeyDirectory.Connection

variable {ρ σ : Type} {c : Connection σ}

/-- A connection moved on without its session: nothing is queued for the peer, and the joiner is
done only when the session is over. -/
structure Aside (c : Connection σ) (moved : Moved σ) : Prop where
  liveness : moved.1.liveness = c.liveness
  session : moved.1.session = c.session
  joiner : moved.1.isDone = true → c.isDone = true ∨ c.session.isEnded = true
  accepted : ∀ message, Event.accepted message ∉ moved.2

/-- Moreover nothing came from the peer. -/
structure Quiet (c : Connection σ) (moved : Moved σ) : Prop extends Aside c moved where
  inbox : moved.1.inbox = c.inbox
  receiving : moved.1.receiving = true → c.receiving = true

/-- A move that leaves the session and the joiner as they are moves the connection on without
them. -/
lemma Aside.of_same {moved : Moved σ} (hliveness : moved.1.liveness = c.liveness)
    (hsession : moved.1.session = c.session) (hjoiner : moved.1.joiner = c.joiner)
    (haccepted : ∀ message, Event.accepted message ∉ moved.2) : Aside c moved where
  liveness := hliveness
  session := hsession
  joiner := fun h => .inl (by unfold isDone at *; rwa [hjoiner] at h)
  accepted := haccepted

/-- A move that changes only what the sender works with. -/
lemma Quiet.of_same {moved : Moved σ} (hliveness : moved.1.liveness = c.liveness)
    (hsession : moved.1.session = c.session) (hinbox : moved.1.inbox = c.inbox)
    (hreceiving : moved.1.receiving = c.receiving) (hjoiner : moved.1.joiner = c.joiner)
    (haccepted : ∀ message, Event.accepted message ∉ moved.2) : Quiet c moved where
  toAside := .of_same hliveness hsession hjoiner haccepted
  inbox := hinbox
  receiving := fun h => hreceiving ▸ h

/-- The sender moves on without the session. -/
lemma Apart.quiet {moved : Moved σ} (h : Apart c moved) : Quiet c moved :=
  .of_same h.liveness h.session h.inbox h.receiving h.joiner fun _ hmem => h.events _ hmem

/-- The end of the receiver is no move of the session. -/
lemma quiet_endReceiver (c : Connection σ) (why : Ending) : Quiet c (c.endReceiver why) :=
  ⟨.of_same rfl rfl rfl (by simp [endReceiver]), rfl, fun h => (nomatch h)⟩

/-- Every move is quiet but those of the session and those by which something comes from the
socket. -/
lemma quiet_goes {m : Move} {moved : Moved σ} (hwork : m ≠ .work)
    (hreceive : ∀ inbound, m ≠ .receive inbound) (hgoes : Goes c m moved) : Quiet c moved := by
  cases hgoes with
  | sender is sends => exact sends.apart.quiet
  | loss is loses => exact loses.apart.quiet
  | halts running cancelled => exact quiet_endReceiver c .cancelled
  | expires running due => exact quiet_endReceiver c .silent
  | hears inbound running hears => exact absurd rfl (hreceive inbound)
  | session running works => exact absurd rfl hwork
  | closing watching some =>
      exact ⟨⟨rfl, rfl, fun hdone => (nomatch hdone), by simp⟩, rfl, fun h => h⟩
  | closed closing all =>
      -- The joiner is done only when the session is over.
      unfold allEnded at all
      simp only [Bool.and_eq_true] at all
      exact ⟨⟨rfl, rfl, fun _ => .inr all.2, by simp⟩, rfl, fun h => h⟩
  | nowhere | cancels | elapses => exact .of_same rfl rfl rfl rfl rfl (by simp)

/-- Only the session uses what all sessions share. -/
lemma step_fst {session : Session ρ σ} {m : Move} (hwork : m ≠ .work) (shared : ρ)
    (c : Connection σ) : (step session shared c m).1 = shared := by
  have hmap : ∀ result : Option (Moved σ),
      ((result.map (shared, ·)).getD (shared, c, [])).1 = shared := by
    intro result
    rcases result with _ | moved <;> rfl
  cases m with
  | work => exact absurd rfl hwork
  | cancel | elapse => rfl
  | stop | take | ping | written | failed | giveUp | halt | expire | receive | join =>
      exact hmap _

/-- Neither is any move but the work of the session and what comes from the peer. -/
lemma quiet_step {session : Session ρ σ} {move : Move} (hwork : move ≠ .work)
    (hreceive : ∀ inbound, move ≠ .receive inbound) (shared : ρ) (c : Connection σ) :
    (step session shared c move).1 = shared ∧ Quiet c (step session shared c move).2 :=
  ⟨step_fst hwork shared c, quiet_goes hwork hreceive (goes_step session shared c move)⟩

/-! ## What comes from the socket -/

/-- What comes of a text: the receiver ends since it is too long, or the text is dropped since the
session is over or another one waits, or it is queued. -/
lemma deliver_cases (c : Connection σ) (text : String) :
    (c.liveness.maxMessage < text.utf8ByteSize ∧ c.deliver text = c.endReceiver .tooLong) ∨
    (text.utf8ByteSize ≤ c.liveness.maxMessage ∧
      (c.session.isEnded = true ∨ c.inbox.isSome = true) ∧
      c.deliver text = (c, [.dropped text])) ∨
    (text.utf8ByteSize ≤ c.liveness.maxMessage ∧ c.inbox = none ∧
      c.deliver text = ({ c with inbox := some text }, [.queued text])) := by
  unfold deliver
  split_ifs with hlong hbusy
  · exact .inl ⟨hlong, rfl⟩
  · exact .inr (.inl ⟨Nat.not_lt.mp hlong, by simpa using hbusy, rfl⟩)
  · simp only [Bool.or_eq_true, not_or, Bool.not_eq_true, Option.isSome_eq_false_iff,
      Option.isNone_iff_eq_none] at hbusy
    exact .inr (.inr ⟨Nat.not_lt.mp hlong, hbusy.2, rfl⟩)

/-- Delivering a message moves the connection on without its session. -/
lemma aside_deliver (c : Connection σ) (text : String) : Aside c (c.deliver text) := by
  rcases deliver_cases c text with ⟨-, heq⟩ | ⟨-, -, heq⟩ | ⟨-, -, heq⟩
  · rw [heq]
    exact (quiet_endReceiver c .tooLong).toAside
  · rw [heq]
    exact .of_same rfl rfl rfl (by simp)
  · rw [heq]
    exact .of_same rfl rfl rfl (by simp)

/-- Whatever comes from the socket, the session takes no part in it. -/
lemma aside_takeInbound (c : Connection σ) (inbound : Inbound) :
    Aside c (c.takeInbound inbound) := by
  have haside : ∀ {moved}, Hears c inbound moved → Aside c moved := by
    intro moved hhears
    cases hhears with
    | ends _ why fatal => exact (quiet_endReceiver c why).toAside
    | pong | ping | drops | queues => exact .of_same rfl rfl rfl (by simp)
  exact haside (hears_takeInbound c inbound)

end KeyDirectory.Connection
