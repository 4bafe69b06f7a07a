import KeyDirectory.Connection.Delivery
import KeyDirectory.Proofs.Connection.Steps

/-!
# Every message that was accepted is written

A message waits in the queue or has been handed to the socket, and the order of the two is the
order in which the messages were accepted.  The sender leaves its loop only when the connection is
cancelled, and nothing is accepted from then on, so what it empties the queue of is the last.

* `Flows`: the invariant, by where the sender stands.
* `flows_leave`, `flows_sends`, `flows_works`: what the moves of the sender and of the session keep.
* `flows_run`: the invariant of every run in which no writing fails.
* `accepted_delivered`: the result, `accepted_lost_without_pings` why pings are asked for.
-/

namespace KeyDirectory.Connection

variable {ρ σ : Type} {c : Connection σ} {accepted : List String} {begun written : List Outgoing}

/-! ## The invariant -/

/-- How far the sender has come with the frames that it has handed to the socket. -/
def IsAtStage (c : Connection σ) (begun : List Outgoing) : Prop :=
  match c.sender with
  | .unstartable => False
  | .idle => .close ∉ begun
  | .writing _ leaving _ => .close ∉ begun ∧ (leaving = true → c.link.cancelled = true)
  | .closing _ | .flushing _ | .ended => c.link.cancelled = true ∧ c.outbox = none ∧
      ∃ before, begun = before ++ [.close] ∧ .close ∉ before

/-- What was accepted, what was handed to the socket and what was written agree. -/
structure Flows (c : Connection σ) (accepted : List String) (begun written : List Outgoing) :
    Prop where
  inOrder : begun.filterMap Outgoing.text? ++ c.outbox.toList = accepted
  written : written ++ c.sender.inHand = begun
  stage : IsAtStage c begun
  ended : c.session.isEnded = true → c.link.cancelled = true

/-- A move after which the connection is as it was, as far as its sender can see. -/
lemma Flows.of_same (h : Flows c accepted begun written) {moved : Moved σ}
    (hsender : moved.1.sender = c.sender) (houtbox : moved.1.outbox = c.outbox)
    (hcancelled : c.link.cancelled = true → moved.1.link.cancelled = true)
    (hended : moved.1.session.isEnded = true → moved.1.link.cancelled = true)
    (haccepted : moved.2.filterMap Event.accepted? = [])
    (hbegun : moved.2.filterMap Event.begun? = [])
    (hwritten : moved.2.filterMap Event.written? = []) :
    Flows moved.1 (accepted ++ moved.2.filterMap Event.accepted?)
      (begun ++ moved.2.filterMap Event.begun?)
      (written ++ moved.2.filterMap Event.written?) := by
  rw [haccepted, hbegun, hwritten, List.append_nil, List.append_nil, List.append_nil]
  refine ⟨by rw [houtbox, h.inOrder], by rw [hsender, h.written], ?_, hended⟩
  have hstage := h.stage
  unfold IsAtStage at hstage ⊢
  rw [hsender, houtbox]
  split at hstage
  · exact hstage
  · exact hstage
  · exact ⟨hstage.1, fun hleaving => hcancelled (hstage.2 hleaving)⟩
  · exact ⟨hcancelled hstage.1, hstage.2⟩
  · exact ⟨hcancelled hstage.1, hstage.2⟩
  · exact ⟨hcancelled hstage.1, hstage.2⟩

/-- A sender that leaves its loop with nothing in hand hands over what is queued, or else the
closing message, since then nothing will be queued any more. -/
lemma flows_leave (horder : begun.filterMap Outgoing.text? ++ c.outbox.toList = accepted)
    (hclose : .close ∉ begun) (hcancelled : c.link.cancelled = true) :
    c.leave.2.filterMap Event.accepted? = [] ∧ c.leave.2.filterMap Event.written? = [] ∧
      Flows c.leave.1 accepted (begun ++ c.leave.2.filterMap Event.begun?) begun := by
  rcases houtbox : c.outbox with _ | text
  · have hleave : c.leave = ({ c with sender := .closing (c.now.after c.liveness.writeWithin) },
        [.began .close]) := by
      rw [leave, houtbox]
    rw [houtbox, Option.toList_none, List.append_nil] at horder
    rw [hleave]
    refine ⟨rfl, rfl, ?_, rfl, ⟨hcancelled, houtbox, begun, rfl, hclose⟩, fun _ => hcancelled⟩
    show (begun ++ [Outgoing.close]).filterMap Outgoing.text? ++ c.outbox.toList = accepted
    rw [List.filterMap_append, houtbox, horder]
    exact (List.append_nil _).trans (List.append_nil _)
  · have hleave : c.leave = { c with outbox := none }.beginWriting (.text text) true := by
      rw [leave, houtbox]
    rw [houtbox] at horder
    rw [hleave]
    refine ⟨rfl, rfl, ?_, rfl, ⟨?_, fun _ => hcancelled⟩, fun _ => hcancelled⟩
    · show (begun ++ [Outgoing.text text]).filterMap Outgoing.text? ++ [] = accepted
      rw [List.filterMap_append, List.append_nil]
      exact horder
    · show Outgoing.close ∉ begun ++ [Outgoing.text text]
      simpa using hclose

/-! ## What one move keeps -/

/-- A sender that takes up a frame other than the closing message. -/
lemma flows_beginWriting {out : Outgoing} (hout : out ≠ .close)
    (horder : begun.filterMap Outgoing.text? ++ out.text?.toList ++ c.outbox.toList = accepted)
    (hclose : .close ∉ begun) (hended : c.session.isEnded = true → c.link.cancelled = true) :
    Flows (c.beginWriting out false).1 accepted (begun ++ [out]) begun where
  inOrder := by
    rw [List.filterMap_append]
    exact horder
  written := rfl
  stage := ⟨by simpa using ⟨hclose, hout.symm⟩, fun h => (nomatch h)⟩
  ended := hended

/-- The sender hands on what was accepted, in order, and writes what it has in hand. -/
lemma flows_sends {moved : Moved σ} (h : Flows c accepted begun written) (hsends : Sends c moved) :
    Flows moved.1 (accepted ++ moved.2.filterMap Event.accepted?)
      (begun ++ moved.2.filterMap Event.begun?) (written ++ moved.2.filterMap Event.written?) := by
  obtain ⟨horder, hwritten, hstage, hended⟩ := h
  unfold IsAtStage at hstage
  cases hsends with
  | cannotStart is =>
      rw [is] at hstage
      exact hstage.elim
  | leaves is why =>
      rw [is] at hstage hwritten
      rw [Sender.inHand, List.append_nil] at hwritten
      have hcancelled : c.link.cancelled = true := by
        rcases why with hcancelled | ⟨-, hover⟩
        · exact hcancelled
        · exact hended hover
      obtain ⟨hno, hnone, hflows⟩ := flows_leave horder hstage hcancelled
      rwa [hno, hnone, List.append_nil, List.append_nil, hwritten]
  | takes is text queued =>
      rw [is] at hstage hwritten
      rw [Sender.inHand, List.append_nil] at hwritten
      rw [queued] at horder
      show Flows _ (accepted ++ []) (begun ++ [.text text]) (written ++ [])
      rw [List.append_nil, List.append_nil, hwritten]
      exact flows_beginWriting (by simp) (by simpa [Outgoing.text?] using horder) hstage hended
  | pings is due =>
      rw [is] at hstage hwritten
      rw [Sender.inHand, List.append_nil] at hwritten
      show Flows _ (accepted ++ []) (begun ++ [.ping]) (written ++ [])
      rw [List.append_nil, List.append_nil, hwritten]
      exact flows_beginWriting (by simp) (by simpa [Outgoing.text?] using horder) hstage hended
  | wrote out deadline is =>
      rw [is] at hstage hwritten
      show Flows _ (accepted ++ []) (begun ++ []) (written ++ [out])
      rw [List.append_nil, List.append_nil]
      exact ⟨horder, (List.append_nil _).trans hwritten, hstage.1, hended⟩
  | wroteLeaving out deadline is =>
      rw [is] at hstage hwritten
      obtain ⟨hno, hnone, hflows⟩ := flows_leave horder hstage.1 (hstage.2 rfl)
      show Flows _ (accepted ++ c.leave.2.filterMap Event.accepted?) _
        (written ++ out :: c.leave.2.filterMap Event.written?)
      rw [hno, hnone, List.append_nil]
      rw [Sender.inHand] at hwritten
      rw [hwritten]
      exact hflows
  | wroteClose deadline is =>
      rw [is] at hstage hwritten
      show Flows _ (accepted ++ []) (begun ++ []) (written ++ [.close])
      rw [List.append_nil, List.append_nil]
      exact ⟨horder, (List.append_nil _).trans hwritten, hstage, hended⟩
  | flushed deadline is =>
      rw [is] at hstage hwritten
      show Flows _ (accepted ++ []) (begun ++ []) (written ++ [])
      rw [List.append_nil, List.append_nil, List.append_nil]
      exact ⟨horder, hwritten, ⟨rfl, hstage.2⟩, fun _ => rfl⟩

/-- A session queues something only while the connection is not cancelled, when the sender has not
left its loop. -/
lemma flows_accepted {c' : Connection σ} (h : Flows c accepted begun written)
    (hrunning : c.link.cancelled = false) (hroom : c.outbox = none) (message : String)
    (houtbox : c'.outbox = some message) (hsender : c'.sender = c.sender)
    (hlink : c'.link = c.link) (hended : c'.session.isEnded = false) :
    Flows c' (accepted ++ [message]) begun written where
  inOrder := by
    have horder := h.inOrder
    rw [hroom, Option.toList_none, List.append_nil] at horder
    rw [houtbox, horder]
    rfl
  written := by rw [hsender, h.written]
  stage := by
    have hstage := h.stage
    unfold IsAtStage at hstage ⊢
    rw [hsender, hlink]
    split at hstage
    · exact hstage
    · exact hstage
    · exact hstage
    · exact absurd hstage.1 (by simp [hrunning])
    · exact absurd hstage.1 (by simp [hrunning])
    · exact absurd hstage.1 (by simp [hrunning])
  ended := fun hover => absurd hover (by simp [hended])

/-- The session adds to what was accepted only by what it puts into the queue. -/
lemma flows_works {moved : Moved σ} (h : Flows c accepted begun written) (hworks : Works c moved) :
    Flows moved.1 (accepted ++ moved.2.filterMap Event.accepted?)
      (begun ++ moved.2.filterMap Event.begun?) (written ++ moved.2.filterMap Event.written?) := by
  cases hworks with
  | ends => exact h.of_same rfl rfl (fun _ => rfl) (fun _ => rfl) rfl rfl rfl
  | isAccepted running room message state =>
      show Flows _ (accepted ++ [message]) (begun ++ []) (written ++ [])
      rw [List.append_nil, List.append_nil]
      exact flows_accepted h running room message rfl rfl rfl rfl
  | readsNothing | reads | isRefused | shows | sleeps | goesOn =>
      exact h.of_same rfl rfl (fun h => h) (fun h => (nomatch h)) rfl rfl rfl

/-- The moves of the other tasks are nothing to the sender. -/
lemma flows_goes {m : Move} {moved : Moved σ} (h : Flows c accepted begun written)
    (hfailed : m ≠ .failed) (hgiveUp : m ≠ .giveUp) (hgoes : Goes c m moved) :
    Flows moved.1 (accepted ++ moved.2.filterMap Event.accepted?)
      (begun ++ moved.2.filterMap Event.begun?) (written ++ moved.2.filterMap Event.written?) := by
  cases hgoes with
  | sender is sends => exact flows_sends h sends
  | loss is loses => exact (is.elim hfailed hgiveUp).elim
  | session running works => exact flows_works h works
  | hears inbound running hears =>
      cases hears with
      | ends => exact h.of_same rfl rfl (fun _ => rfl) (fun _ => rfl) rfl rfl rfl
      | pong | ping | drops | queues =>
          exact h.of_same rfl rfl (fun h => h) h.ended rfl rfl rfl
  | halts | expires | closing | cancels =>
      exact h.of_same rfl rfl (fun _ => rfl) (fun _ => rfl) rfl rfl rfl
  | nowhere | closed | elapses =>
      exact h.of_same rfl rfl (fun h => h) h.ended rfl rfl rfl

/-! ## Runs -/

section runs

variable {session : Session ρ σ} {liveness : Liveness}

/-- At first nothing was accepted and nothing is in hand. -/
lemma flows_start (hping : 0 < liveness.pingEvery) (identifier : Identifier) (link : Link)
    (now : Moment) (state : σ) : Flows (start liveness identifier link now state) [] [] [] := by
  have hsender : (start liveness identifier link now state).sender = .idle :=
    if_neg (Nat.ne_of_gt hping)
  refine ⟨rfl, ?_, ?_, fun h => (nomatch h)⟩
  · rw [hsender]
    rfl
  · unfold IsAtStage
    rw [hsender]
    exact List.not_mem_nil

/-- As long as no writing fails, what was accepted, handed on and written agree. -/
lemma flows_run (hflows : Flows c [] [] []) (session : Session ρ σ) (shared : ρ)
    (moves : List Move) (hsmooth : IsSmooth moves) :
    Flows (reached session shared c moves)
      ((showed session shared c moves).filterMap Event.accepted?)
      ((showed session shared c moves).filterMap Event.begun?)
      ((showed session shared c moves).filterMap Event.written?) := by
  induction moves using List.reverseRecOn with
  | nil => exact hflows
  | append_singleton moves m ih =>
      obtain ⟨hfailed, hgiveUp⟩ := hsmooth
      rw [List.mem_append, not_or, List.mem_singleton] at hfailed hgiveUp
      have hbefore := ih ⟨hfailed.1, hgiveUp.1⟩
      rw [reached_concat, showed_concat, List.filterMap_append, List.filterMap_append,
        List.filterMap_append]
      exact flows_goes hbefore (Ne.symm hfailed.2) (Ne.symm hgiveUp.2) (goes_step session _ _ m)

/-- Nothing is accepted once the connection is cancelled. -/
lemma accepted_of_cancelled (hcancelled : c.link.cancelled = true) (shared : ρ)
    (moves : List Move) : (showed session shared c moves).filterMap Event.accepted? = [] := by
  have hstep : ∀ {c : Connection σ} {m : Move} {moved : Moved σ}, c.link.cancelled = true →
      Goes c m moved → moved.2.filterMap Event.accepted? = [] := by
    intro c m moved hcancelled hgoes
    cases hgoes with
    | sender is sends =>
        exact sends.apart.filterMap_eq_nil fun event hsender => by cases event <;> trivial
    | loss is loses =>
        exact loses.apart.filterMap_eq_nil fun event hsender => by cases event <;> trivial
    | hears inbound running hears => cases hears <;> rfl
    | session running works =>
        cases works with
        | isAccepted running => exact absurd hcancelled (by simp [running])
        | ends | readsNothing | reads | isRefused | shows | sleeps | goesOn => rfl
    | nowhere | halts | expires | closing | closed | cancels | elapses => rfl
  induction moves using List.reverseRecOn with
  | nil => rfl
  | append_singleton moves m ih =>
      rw [showed_concat, List.filterMap_append, ih, List.nil_append]
      refine hstep ?_ (goes_step session _ _ m)
      exact cancelled_reached hcancelled shared moves

/-- A message that the session would queue then is refused. -/
lemma work_refused (hcancelled : c.link.cancelled = true) {state : σ} {message : String}
    {next : Bool → σ} (hstate : c.session = .running state)
    (hcall : session.call state = .write message next) (shared : ρ) :
    step session shared c .work = (shared, c.resume (next false), [.refused message]) := by
  have hwork : work? session shared c =
      some (shared, c.resume (next false), [.refused message]) := by
    rw [work?, hstate]
    dsimp only
    rw [hcall]
    exact if_pos hcancelled
  rw [step, step?, hwork]
  rfl

/-- Whatever the sender is doing, these moves end it. -/
lemma ended_lastMoves (hcancelled : c.link.cancelled = true) (shared : ρ) :
    (reached session shared c lastMoves).sender = .ended := by
  obtain ⟨liveness, identifier, ⟨cancelled, phase⟩, now, nextPing, deadline, outbox, inbox, sender,
    receiving, standing, joiner⟩ := c
  cases hcancelled
  rcases outbox with _ | text
  · rcases sender with _ | _ | ⟨out, leaving, limit⟩ | limit | limit | _
    · rfl
    · rfl
    · cases leaving <;> rfl
    · rfl
    · rfl
    · rfl
  · rcases sender with _ | _ | ⟨out, leaving, limit⟩ | limit | limit | _
    · rfl
    · rfl
    · cases leaving <;> rfl
    · rfl
    · rfl
    · rfl

/-! ## What is expected -/

/-- Once the closing message was handed on, the queue is empty and stays so. -/
lemma Flows.farewell (h : Flows c accepted begun written) (hclose : .close ∈ begun) :
    IsFarewell begun accepted := by
  have hclosing : c.outbox = none ∧ ∃ before, begun = before ++ [.close] ∧ .close ∉ before := by
    have hstage := h.stage
    unfold IsAtStage at hstage
    split at hstage
    · exact hstage.elim
    · exact absurd hclose hstage
    · exact absurd hclose hstage.1
    · exact hstage.2
    · exact hstage.2
    · exact hstage.2
  obtain ⟨houtbox, before, rfl, hbefore⟩ := hclosing
  refine ⟨before, rfl, hbefore, ?_⟩
  have horder := h.inOrder
  rw [houtbox, Option.toList_none, List.append_nil, List.filterMap_append] at horder
  exact (List.append_nil _).symm.trans horder

/-- Every message that the session was told is accepted is written, once and in its turn, before
the one closing message, whatever the order in which the tasks move and whenever the connection is
cancelled; and a message that is refused is not. -/
theorem accepted_delivered (hping : 0 < liveness.pingEvery) (session : Session ρ σ) (shared : ρ)
    (identifier : Identifier) (link : Link) (now : Moment) (state : σ) {moves : List Move}
    (hsmooth : IsSmooth moves) :
    Delivers session shared (start liveness identifier link now state) moves := by
  have hflows := flows_run (flows_start hping identifier link now state) session shared moves
    hsmooth
  refine ⟨hflows.inOrder, hflows.written, hflows.farewell, ?_, ?_, ?_, ?_⟩
  · intro hended
    have hwritten := hflows.written
    have hstage := hflows.stage
    unfold IsAtStage at hstage
    rw [hended] at hwritten hstage
    rw [Sender.inHand, List.append_nil] at hwritten
    rw [hwritten]
    refine hflows.farewell ?_
    obtain ⟨-, -, before, hbegun, -⟩ := hstage
    rw [hbegun]
    exact List.mem_append_right _ (List.mem_singleton_self _)
  · rintro earlier later rfl hcancelled
    rw [showed_append, List.filterMap_append, accepted_of_cancelled hcancelled, List.append_nil]
  · intro hcancelled state message next hstate hcall between
    exact work_refused hcancelled hstate hcall between
  · intro hcancelled
    rw [reached_append]
    exact ended_lastMoves hcancelled _

/-- A session that queues one message and ends. -/
def greeting : Session Unit Bool where
  start := true
  call unsaid := if unsaid then .write "hello" fun _ => false else .finish

/-- The message is still in the queue when the session ends. -/
theorem accepted_delivered_greeting :
    let moves := [.work, .work, .join, .stop, .written, .halt, .written, .written, .join]
    0 < Liveness.standard.pingEvery ∧ IsSmooth moves ∧
      Delivers greeting () (start .standard ⟨[]⟩ .fresh 0 true) moves ∧
      (showed greeting () (start .standard ⟨[]⟩ .fresh 0 true) moves).filterMap Event.written? =
        [.text "hello", .close] := by
  intro moves
  have hping : 0 < Liveness.standard.pingEvery := by decide
  have hsmooth : IsSmooth moves := ⟨by decide, by decide⟩
  exact ⟨hping, hsmooth, accepted_delivered hping greeting () ⟨[]⟩ .fresh 0 true hsmooth, rfl⟩

/-- Pings are asked for since a sender that has none to send cannot start: it ends without a word,
and loses what the session had queued. -/
theorem accepted_lost_without_pings :
    let begun := start ⟨0, Duration.ofSeconds 60, Duration.ofSeconds 10, 2048⟩ ⟨[]⟩ .fresh 0 true
    let moves := [.work, .stop]
    IsSmooth moves ∧
      (showed greeting () begun moves).filterMap Event.accepted? = ["hello"] ∧
      (reached greeting () begun moves).sender = .ended ∧
      (showed greeting () begun moves).filterMap Event.written? = [] ∧
      ¬ Delivers greeting () begun moves := by
  intro begun moves
  refine ⟨⟨by decide, by decide⟩, rfl, rfl, rfl, fun hdelivers => ?_⟩
  obtain ⟨before, hwritten, -⟩ := hdelivers.ended rfl
  have hnothing : ([] : List Outgoing) = before ++ [.close] := hwritten
  exact absurd hnothing.symm (List.append_ne_nil_of_right_ne_nil before (by simp))

end runs

end KeyDirectory.Connection
