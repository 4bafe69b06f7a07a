import KeyDirectory.Connection.Listening
import KeyDirectory.Proofs.Text.Utf8
import Mathlib.Data.List.Induction
import Mathlib.Tactic.Lemma
import Mathlib.Tactic.SplitIfs

/-!
# What a move can do

For each task of a connection all that one of its moves can do, so that nothing else need open a
move again.

* `Sends`, `Loses`: the moves of the sender, when writing goes well and when it fails.
* `Apart`: what all of these leave alone.
* `Hears`: what comes of anything from the socket.
* `Works`: the moves of the session.
* `Goes`, `goes_step`: all moves, possible or not.
* `isPossible_expire`, `isPossible_ping`, `IsPrompt.after_le`: when moves are possible, and what
  promptness makes of it.
* `reached_concat`, `showed_concat`, `timed_concat`, `heard_concat`, `arrivals_concat`,
  `allAlong_concat`: the course of a connection, one move at a time.
-/

namespace KeyDirectory

namespace Connection

variable {ρ σ : Type} {c : Connection σ}

/-! ## The sender -/

/-- What the sender can do when no writing fails. -/
inductive Sends (c : Connection σ) : Moved σ → Prop
  | cannotStart (is : c.sender = .unstartable) : Sends c c.endSender
  | leaves (is : c.sender = .idle)
      (why : c.link.cancelled = true ∨ c.outbox = none ∧ c.session.isEnded = true) :
      Sends c c.leave
  | takes (is : c.sender = .idle) (text : String) (queued : c.outbox = some text) :
      Sends c ({ c with outbox := none }.beginWriting (.text text) false)
  | pings (is : c.sender = .idle) (due : c.nextPing ≤ c.now) :
      Sends c ({ c with nextPing := c.nextPing.after c.liveness.pingEvery }.beginWriting
        .ping false)
  | wrote (out : Outgoing) (deadline : Moment) (is : c.sender = .writing out false deadline) :
      Sends c ({ c with sender := .idle }, [.wrote out])
  | wroteLeaving (out : Outgoing) (deadline : Moment)
      (is : c.sender = .writing out true deadline) :
      Sends c (c.leave.1, .wrote out :: c.leave.2)
  | wroteClose (deadline : Moment) (is : c.sender = .closing deadline) :
      Sends c (c.beginFlushing, [.wrote .close])
  | flushed (deadline : Moment) (is : c.sender = .flushing deadline) : Sends c c.endSender

/-- What the sender does when writing fails. -/
inductive Loses (c : Connection σ) : Moved σ → Prop
  | message (out : Outgoing) (leaving : Bool) (deadline : Moment)
      (is : c.sender = .writing out leaving deadline) : Loses c c.endSender
  | close (deadline : Moment) (is : c.sender = .closing deadline) : Loses c (c.beginFlushing, [])
  | rest (deadline : Moment) (is : c.sender = .flushing deadline) : Loses c c.endSender

/-- When the sender stops, it takes leave. -/
lemma sends_of_stop? {moved : Moved σ} (h : c.stop? = some moved) : Sends c moved := by
  unfold stop? at h
  split at h
  · next is =>
    cases h
    exact .cannotStart is
  · next is =>
    split_ifs at h with hcancelled
    cases h
    exact .leaves is (.inl hcancelled)
  · cases h

/-- When the sender takes a message, it begins to write it. -/
lemma sends_of_take? {moved : Moved σ} (h : c.take? = some moved) : Sends c moved := by
  unfold take? at h
  split at h
  · next text is queued =>
    cases h
    exact .takes is text queued
  · next is hnone =>
    split_ifs at h with hended
    cases h
    exact .leaves is (.inr ⟨hnone, hended⟩)
  · cases h

/-- When the sender pings, a ping is due. -/
lemma sends_of_ping? {moved : Moved σ} (h : c.ping? = some moved) : Sends c moved := by
  unfold ping? at h
  split at h
  · next is =>
    split_ifs at h with hdue
    cases h
    exact .pings is hdue
  · cases h

/-- When a writing is done, the sender goes on to what comes after it. -/
lemma sends_of_written? {moved : Moved σ} (h : c.written? = some moved) : Sends c moved := by
  unfold written? at h
  split at h
  · next out leaving deadline is =>
    cases leaving with
    | false =>
        cases h
        exact .wrote out deadline is
    | true =>
        cases h
        exact .wroteLeaving out deadline is
  · next deadline is =>
    cases h
    exact .wroteClose deadline is
  · next deadline is =>
    cases h
    exact .flushed deadline is
  · cases h

/-- When a writing fails, the sender ends, or goes on to flush. -/
lemma loses_of_failed? {moved : Moved σ} (h : c.failed? = some moved) : Loses c moved := by
  unfold failed? at h
  split at h
  · next out leaving deadline is =>
    cases h
    exact .message out leaving deadline is
  · next deadline is =>
    cases h
    exact .rest deadline is
  · next deadline is =>
    cases h
    exact .close deadline is
  · cases h

/-- When a writing takes too long, it has failed. -/
lemma loses_of_giveUp? {moved : Moved σ} (h : c.giveUp? = some moved) : Loses c moved := by
  unfold giveUp? at h
  split at h
  · split_ifs at h
    exact loses_of_failed? h
  · cases h

/-- What a task tells that is the sender. -/
def Event.IsOfSender : Event → Prop
  | .began _ | .wrote _ | .senderEnded => True
  | _ => False

/-- A move of the sender: it may cancel the connection, and uses the queue of what is to be
written. -/
structure Apart (c : Connection σ) (moved : Moved σ) : Prop where
  liveness : moved.1.liveness = c.liveness
  now : moved.1.now = c.now
  deadline : moved.1.deadline = c.deadline
  inbox : moved.1.inbox = c.inbox
  receiving : moved.1.receiving = c.receiving
  session : moved.1.session = c.session
  joiner : moved.1.joiner = c.joiner
  cancelled : c.link.cancelled = true → moved.1.link.cancelled = true
  events : ∀ event ∈ moved.2, event.IsOfSender

/-- What is told of such a move and looked for elsewhere. -/
lemma Apart.filterMap_eq_nil {α : Type} {moved : Moved σ} (h : Apart c moved)
    {look : Event → Option α} (hlook : ∀ event, Event.IsOfSender event → look event = none) :
    moved.2.filterMap look = [] := by
  rw [List.filterMap_eq_nil_iff]
  exact fun event hmem => hlook event (h.events event hmem)

/-- The end of the sender is a move of the sender. -/
lemma apart_endSender (c : Connection σ) : Apart c c.endSender :=
  ⟨rfl, rfl, rfl, rfl, rfl, rfl, rfl, fun _ => rfl,
    fun event hmem => by cases List.mem_singleton.mp hmem; trivial⟩

/-- So is its leave. -/
lemma apart_leave (c : Connection σ) : Apart c c.leave := by
  unfold leave
  rcases c.outbox with _ | text <;>
    exact ⟨rfl, rfl, rfl, rfl, rfl, rfl, rfl, fun h => h,
      fun event hmem => by cases List.mem_singleton.mp hmem; trivial⟩

/-- Whatever the sender does when no writing fails is a move of its own. -/
lemma Sends.apart {moved : Moved σ} (h : Sends c moved) : Apart c moved := by
  cases h with
  | cannotStart | flushed => exact apart_endSender c
  | leaves => exact apart_leave c
  | takes | pings | wrote | wroteClose =>
      refine ⟨rfl, rfl, rfl, rfl, rfl, rfl, rfl, fun h => h, ?_⟩
      intro event hmem
      cases List.mem_singleton.mp hmem
      trivial
  | wroteLeaving =>
      have hleave := apart_leave c
      refine ⟨hleave.liveness, hleave.now, hleave.deadline, hleave.inbox, hleave.receiving,
        hleave.session, hleave.joiner, hleave.cancelled, ?_⟩
      intro event hmem
      rcases List.mem_cons.mp hmem with heq | hlater
      · cases heq
        trivial
      · exact hleave.events event hlater

/-- So is what it does when one fails. -/
lemma Loses.apart {moved : Moved σ} (h : Loses c moved) : Apart c moved := by
  cases h with
  | message | rest => exact apart_endSender c
  | close =>
      exact ⟨rfl, rfl, rfl, rfl, rfl, rfl, rfl, fun h => h, fun _ hmem => (nomatch hmem)⟩

/-! ## The receiver -/

/-- What comes of what reaches the receiver from the socket. -/
inductive Hears (c : Connection σ) : Inbound → Moved σ → Prop
  | ends (inbound : Inbound) (why : Ending)
      (fatal : inbound.fatal? c.liveness.maxMessage = some why) :
      Hears c inbound (c.endReceiver why)
  | pong (content : List UInt8) :
      Hears c (.message (.pong content))
        ({ c with deadline := c.now.after c.liveness.pongWithin }, [])
  | ping (content : List UInt8) : Hears c (.message (.ping content)) (c, [])
  | drops (inbound : Inbound) (text : String)
      (passed : inbound.passed? c.liveness.maxMessage = some text)
      (busy : c.session.isEnded = true ∨ c.inbox.isSome = true) :
      Hears c inbound (c, [.dropped text])
  | queues (inbound : Inbound) (text : String)
      (passed : inbound.passed? c.liveness.maxMessage = some text)
      (running : c.session.isEnded = false) (room : c.inbox = none) :
      Hears c inbound ({ c with inbox := some text }, [.queued text])

/-- A binary message that is text is as long as the text is. -/
lemma Inbound.fatal?_binary {bytes : List UInt8} {text : String}
    (h : Text.Utf8.decodeText? bytes = some text) (largest : Nat) :
    (Inbound.message (.binary bytes)).fatal? largest =
      if largest < text.utf8ByteSize then some .tooLong else none := by
  have hbytes := Text.Utf8.decodeText?_eq_some_iff.mp h
  unfold fatal?
  dsimp only
  rw [h, if_neg (by simp), hbytes, Text.Utf8.length_encodeText]

/-- Nothing that comes from the socket cancels the connection or lets the deadline pass. -/
lemma Inbound.ne_of_fatal? {largest : Nat} {inbound : Inbound} {why : Ending}
    (hfatal : inbound.fatal? largest = some why) : why ≠ .cancelled ∧ why ≠ .silent := by
  unfold fatal? at hfatal
  split at hfatal
  · split_ifs at hfatal
    cases hfatal
    simp
  · split_ifs at hfatal
    · cases hfatal
      simp
    · cases hfatal
      simp
  · cases hfatal
  · cases hfatal
  · cases hfatal
    simp
  · cases hfatal
    simp
  · cases hfatal
    simp

/-- What ends the receiver is not passed on. -/
lemma Inbound.passed?_eq_none {largest : Nat} {inbound : Inbound} {why : Ending}
    (hfatal : inbound.fatal? largest = some why) : inbound.passed? largest = none := by
  rw [passed?, hfatal, if_neg (by simp)]

/-- A text that is not too long is passed on. -/
lemma Inbound.passed?_eq_text {largest : Nat} {inbound : Inbound} {text : String}
    (htext : inbound.text? = some text) (hsize : text.utf8ByteSize ≤ largest) :
    inbound.passed? largest = some text := by
  have hharmless : inbound.fatal? largest = none := by
    cases inbound with
    | message m =>
        cases m with
        | text content =>
            cases htext
            exact if_neg (Nat.not_lt.mpr hsize)
        | binary bytes => rw [fatal?_binary htext, if_neg (Nat.not_lt.mpr hsize)]
        | ping content => cases htext
        | pong content => cases htext
        | close reason => cases htext
    | failed => cases htext
    | ended => cases htext
  rw [passed?, if_pos hharmless, htext]

/-- Nothing that is too long is passed on. -/
lemma Inbound.size_le_of_passed? {largest : Nat} {inbound : Inbound} {text : String}
    (h : inbound.passed? largest = some text) : text.utf8ByteSize ≤ largest := by
  unfold passed? at h
  split_ifs at h with hharmless
  refine Nat.not_lt.mp fun hlong => ?_
  unfold text? at h
  split at h
  · cases h
    rw [fatal?, if_pos hlong] at hharmless
    cases hharmless
  · rw [fatal?_binary h, if_pos hlong] at hharmless
    cases hharmless
  · cases h

/-- A text ends the receiver if it is too long, and else is queued or dropped. -/
lemma hears_deliver {inbound : Inbound} {text : String} (htext : inbound.text? = some text)
    (hlong : c.liveness.maxMessage < text.utf8ByteSize →
      inbound.fatal? c.liveness.maxMessage = some .tooLong) :
    Hears c inbound (c.deliver text) := by
  unfold deliver
  split_ifs with hsize hbusy
  · exact .ends inbound .tooLong (hlong hsize)
  · rw [Bool.or_eq_true] at hbusy
    exact .drops inbound text (Inbound.passed?_eq_text htext (Nat.not_lt.mp hsize)) hbusy
  · simp only [Bool.or_eq_true, not_or, Bool.not_eq_true, Option.isSome_eq_false_iff,
      Option.isNone_iff_eq_none] at hbusy
    exact .queues inbound text (Inbound.passed?_eq_text htext (Nat.not_lt.mp hsize)) hbusy.1
      hbusy.2

/-- Whatever comes, one thing comes of it. -/
lemma hears_takeInbound (c : Connection σ) (inbound : Inbound) :
    Hears c inbound (c.takeInbound inbound) := by
  cases inbound with
  | message m =>
      cases m with
      | text content => exact hears_deliver rfl fun hlong => if_pos hlong
      | binary bytes =>
          unfold takeInbound
          dsimp only
          rcases hdecoded : Text.Utf8.decodeText? bytes with _ | text
          · exact .ends _ .notText (if_pos hdecoded)
          · exact hears_deliver hdecoded fun hlong => by
              rw [Inbound.fatal?_binary hdecoded, if_pos hlong]
      | ping content => exact .ping content
      | pong content => exact .pong content
      | close reason => exact .ends _ .closed rfl
  | failed => exact .ends _ .failed rfl
  | ended => exact .ends _ .ended rfl

/-! ## The session -/

/-- What the session can do. -/
inductive Works (c : Connection σ) : Moved σ → Prop
  | ends : Works c c.endSession
  | readsNothing (cancelled : c.link.cancelled = true) (state : σ) :
      Works c (c.resume state, [.took none])
  | reads (running : c.link.cancelled = false) (text : String) (waiting : c.inbox = some text)
      (state : σ) : Works c ({ c with inbox := none }.resume state, [.took (some text)])
  | isRefused (cancelled : c.link.cancelled = true) (message : String) (state : σ) :
      Works c (c.resume state, [.refused message])
  | isAccepted (running : c.link.cancelled = false) (room : c.outbox = none) (message : String)
      (state : σ) : Works c ({ c with outbox := some message }.resume state, [.accepted message])
  | shows (phase : Phase) (state : σ) :
      Works c ((c.publish phase).resume state, [.published phase])
  | sleeps (wake : Moment) (state : σ) :
      Works c ({ c with session := .sleeping wake state }, [])
  | goesOn (state : σ) : Works c (c.resume state, [])

/-- Each call of a session does one of the things that a session can do. -/
lemma works_of_makeCall {shared shared' : ρ} {call : Call ρ σ} {moved : Moved σ}
    (h : makeCall shared c call = some (shared', moved)) : Works c moved := by
  cases call with
  | finish =>
      cases h
      exact .ends
  | crash =>
      cases h
      exact .ends
  | read next =>
      unfold makeCall at h
      dsimp only at h
      split_ifs at h with hcancelled
      · cases h
        exact .readsNothing hcancelled _
      · obtain ⟨text, hwaiting, heq⟩ := Option.map_eq_some_iff.mp h
        cases heq
        exact .reads (Bool.of_not_eq_true hcancelled) text hwaiting _
  | write message next =>
      unfold makeCall at h
      dsimp only at h
      split_ifs at h with hcancelled hroom
      · cases h
        exact .isRefused hcancelled message _
      · cases h
        exact .isAccepted (Bool.of_not_eq_true hcancelled) (Option.isNone_iff_eq_none.mp hroom)
          message _
  | wait next =>
      unfold makeCall at h
      dsimp only at h
      split_ifs at h
      cases h
      exact .goesOn _
  | sleep time next =>
      cases h
      exact .sleeps _ _
  | publish phase next =>
      cases h
      exact .shows phase _
  | ask next =>
      cases h
      exact .goesOn _
  | identify next =>
      cases h
      exact .goesOn _
  | act next =>
      cases h
      exact .goesOn _

/-- The session works only while it is not over. -/
lemma works_of_work? {session : Session ρ σ} {shared shared' : ρ} {moved : Moved σ}
    (h : work? session shared c = some (shared', moved)) :
    Works c moved ∧ c.session.isEnded = false := by
  unfold work? at h
  split at h
  · next state his => exact ⟨works_of_makeCall h, by rw [his]; rfl⟩
  · next wake state his =>
    split_ifs at h
    cases h
    exact ⟨.goesOn state, by rw [his]; rfl⟩
  · cases h

/-! ## All moves -/

/-- The moves of the sender. -/
def Move.IsOfSender : Move → Prop
  | .stop | .take | .ping | .written | .failed | .giveUp => True
  | _ => False

/-- Failing and giving up are moves of the sender. -/
lemma Move.isOfSender_of_fails {m : Move} (h : m = .failed ∨ m = .giveUp) : m.IsOfSender := by
  rcases h with rfl | rfl <;> trivial

/-- A move that is not possible, by what stands in its way. -/
def IsIdle (c : Connection σ) : Move → Prop
  | .elapse _ | .cancel => False
  | .receive _ => c.receiving = false
  | _ => True

/-- What a move can do to a connection. -/
inductive Goes (c : Connection σ) : Move → Moved σ → Prop
  | nowhere {m : Move} (idle : IsIdle c m) : Goes c m (c, [])
  | sender {m : Move} {moved : Moved σ} (is : m.IsOfSender) (sends : Sends c moved) :
      Goes c m moved
  | loss {m : Move} {moved : Moved σ} (is : m = .failed ∨ m = .giveUp) (loses : Loses c moved) :
      Goes c m moved
  | halts (running : c.receiving = true) (cancelled : c.link.cancelled = true) :
      Goes c .halt (c.endReceiver .cancelled)
  | expires (running : c.receiving = true) (due : c.deadline ≤ c.now) :
      Goes c .expire (c.endReceiver .silent)
  | hears (inbound : Inbound) {moved : Moved σ} (running : c.receiving = true)
      (hears : Hears c inbound moved) : Goes c (.receive inbound) moved
  | session {moved : Moved σ} (running : c.session.isEnded = false) (works : Works c moved) :
      Goes c .work moved
  | closing (watching : c.joiner = .watching) (some : c.anyEnded = true) :
      Goes c .join ({ c with joiner := .closing }.cancel.publish .closing, [.published .closing])
  | closed (closing : c.joiner = .closing) (all : c.allEnded = true) :
      Goes c .join ({ c with joiner := .done }.publish .closed, [.published .closed])
  | cancels : Goes c .cancel (c.cancel, [])
  | elapses (time : Duration) : Goes c (.elapse time) ({ c with now := c.now.after time }, [])

/-- A move that leaves alone what is shared, in the general form of a move. -/
lemma goes_of_map {shared : ρ} {m : Move} {result : Option (Moved σ)} (idle : IsIdle c m)
    (hgoes : ∀ {moved}, result = some moved → Goes c m moved) :
    Goes c m ((result.map (shared, ·)).getD (shared, c, [])).2 := by
  rcases hresult : result with _ | moved
  · exact .nowhere idle
  · exact hgoes hresult

/-- Whatever the move, it does one of these. -/
lemma goes_step (session : Session ρ σ) (shared : ρ) (c : Connection σ) (m : Move) :
    Goes c m (step session shared c m).2 := by
  unfold step
  cases m with
  | stop => exact goes_of_map trivial fun h => .sender trivial (sends_of_stop? h)
  | take => exact goes_of_map trivial fun h => .sender trivial (sends_of_take? h)
  | ping => exact goes_of_map trivial fun h => .sender trivial (sends_of_ping? h)
  | written => exact goes_of_map trivial fun h => .sender trivial (sends_of_written? h)
  | failed => exact goes_of_map trivial fun h => .loss (.inl rfl) (loses_of_failed? h)
  | giveUp => exact goes_of_map trivial fun h => .loss (.inr rfl) (loses_of_giveUp? h)
  | halt =>
      refine goes_of_map trivial fun h => ?_
      unfold halt? at h
      split_ifs at h with hhalts
      cases h
      rw [Bool.and_eq_true] at hhalts
      exact .halts hhalts.1 hhalts.2
  | expire =>
      refine goes_of_map trivial fun h => ?_
      unfold expire? at h
      split_ifs at h with hexpires
      cases h
      rw [Bool.and_eq_true, decide_eq_true_iff] at hexpires
      exact .expires hexpires.1 hexpires.2
  | receive inbound =>
      unfold step? receive?
      split_ifs with hrunning
      · exact .hears inbound hrunning (hears_takeInbound c inbound)
      · exact .nowhere (Bool.of_not_eq_true hrunning)
  | work =>
      unfold step?
      rcases hwork : work? session shared c with _ | ⟨shared', moved⟩
      · exact .nowhere trivial
      · obtain ⟨works, running⟩ := works_of_work? hwork
        exact .session running works
  | join =>
      refine goes_of_map trivial fun h => ?_
      unfold join? at h
      split at h
      · next hwatching =>
        split_ifs at h with hsome
        cases h
        exact .closing hwatching hsome
      · next hclosing =>
        split_ifs at h with hall
        cases h
        exact .closed hclosing hall
      · cases h
  | cancel => exact .cancels
  | elapse time => exact .elapses time

/-- The session touches neither the clock nor the receiver nor the sender. -/
lemma Works.frame {moved : Moved σ} (h : Works c moved) :
    moved.1.liveness = c.liveness ∧ moved.1.now = c.now ∧ moved.1.deadline = c.deadline ∧
      moved.1.receiving = c.receiving ∧ moved.1.sender = c.sender := by
  cases h <;> exact ⟨rfl, rfl, rfl, rfl, rfl⟩

/-- Nothing changes what a connection is held to. -/
lemma Goes.liveness {m : Move} {moved : Moved σ} (h : Goes c m moved) :
    moved.1.liveness = c.liveness := by
  cases h with
  | sender is sends => exact sends.apart.liveness
  | loss is loses => exact loses.apart.liveness
  | hears inbound running hears => cases hears <;> rfl
  | session running works => exact works.frame.1
  | nowhere | halts | expires | closing | closed | cancels | elapses => rfl

/-- Time passes only by itself. -/
lemma Goes.now {m : Move} {moved : Moved σ} (h : Goes c m moved) :
    moved.1.now = c.now.after m.time := by
  cases h with
  | nowhere idle =>
      cases m with
      | elapse time => exact idle.elim
      | _ => exact (Moment.after_zero c.now).symm
  | sender is sends =>
      rw [sends.apart.now]
      cases m with
      | stop | take | ping | written | failed | giveUp => exact (Moment.after_zero c.now).symm
      | halt | expire | receive | work | join | cancel | elapse => exact is.elim
  | loss is loses =>
      rw [loses.apart.now]
      rcases is with rfl | rfl
      · exact (Moment.after_zero c.now).symm
      · exact (Moment.after_zero c.now).symm
  | hears inbound running hears => cases hears <;> exact (Moment.after_zero c.now).symm
  | session running works => rw [works.frame.2.1]; exact (Moment.after_zero c.now).symm
  | elapses time => rfl
  | halts | expires | closing | closed | cancels => exact (Moment.after_zero c.now).symm

/-- A connection that was cancelled stays so. -/
lemma Goes.cancelled {m : Move} {moved : Moved σ} (h : Goes c m moved)
    (hcancelled : c.link.cancelled = true) : moved.1.link.cancelled = true := by
  cases h with
  | sender is sends => exact sends.apart.cancelled hcancelled
  | loss is loses => exact loses.apart.cancelled hcancelled
  | hears inbound running hears =>
      cases hears with
      | ends => rfl
      | pong | ping | drops | queues => exact hcancelled
  | session running works =>
      cases works with
      | ends => rfl
      | readsNothing | reads | isRefused | isAccepted | shows | sleeps | goesOn => exact hcancelled
  | halts | expires | closing | cancels => rfl
  | nowhere | closed | elapses => exact hcancelled

/-! ## Moves one after the other -/

/-- A run, its first move first. -/
lemma run_cons (session : Session ρ σ) (shared : ρ) (c : Connection σ) (m : Move)
    (moves : List Move) :
    run session shared c (m :: moves) =
      let first := step session shared c m
      let rest := run session first.1 first.2.1 moves
      (rest.1, rest.2.1, first.2.2 ++ rest.2.2) :=
  rfl

/-- Runs may be put together. -/
lemma run_append (session : Session ρ σ) (shared : ρ) (c : Connection σ)
    (moves later : List Move) :
    run session shared c (moves ++ later) =
      let first := run session shared c moves
      let rest := run session first.1 first.2.1 later
      (rest.1, rest.2.1, first.2.2 ++ rest.2.2) := by
  induction moves generalizing shared c with
  | nil => rfl
  | cons m moves ih =>
      simp only [List.cons_append, run_cons, ih, List.append_assoc]

section concat

variable (session : Session ρ σ) (shared : ρ) (c : Connection σ) (moves : List Move) (m : Move)

/-- A course leads on from where it has led. -/
lemma reached_append (later : List Move) :
    reached session shared c (moves ++ later) =
      reached session (run session shared c moves).1 (reached session shared c moves) later := by
  unfold reached
  rw [run_append]

/-- What shows of two parts of a course shows one after the other. -/
lemma showed_append (later : List Move) :
    showed session shared c (moves ++ later) = showed session shared c moves ++
      showed session (run session shared c moves).1 (reached session shared c moves) later := by
  unfold showed reached
  rw [run_append]

/-- Where a course leads, its last move last. -/
lemma reached_concat :
    reached session shared c (moves ++ [m]) =
      (step session (run session shared c moves).1 (reached session shared c moves) m).2.1 :=
  reached_append session shared c moves [m]

/-- What shows of a course, its last move last. -/
lemma showed_concat :
    showed session shared c (moves ++ [m]) = showed session shared c moves ++
      (step session (run session shared c moves).1 (reached session shared c moves) m).2.2 := by
  rw [showed_append]
  exact congrArg _ (List.append_nil _)

/-- The same with the times. -/
lemma timed_concat :
    timed session shared c (moves ++ [m]) = timed session shared c moves ++
      (step session (run session shared c moves).1 (reached session shared c moves) m).2.2.map
        ((reached session shared c moves).now, ·) := by
  induction moves generalizing shared c with
  | nil => simp [timed, run, reached]
  | cons move moves ih =>
      rw [List.cons_append]
      unfold timed
      dsimp only
      rw [ih, List.append_assoc]
      rfl

/-- The ends of the receiver, the last move last. -/
lemma endings_concat :
    endings session shared c (moves ++ [m]) = endings session shared c moves ++
      endedIn (reached session shared c moves).now
        (step session (run session shared c moves).1 (reached session shared c moves) m).2.2 := by
  unfold endings
  rw [timed_concat, List.filterMap_append, List.filterMap_map]
  rfl

/-- What the receiver took, the last move last. -/
lemma heard_concat :
    heard session shared c (moves ++ [m]) =
      heard session shared c moves ++ heardIn (reached session shared c moves) m := by
  induction moves generalizing shared c with
  | nil => exact List.append_nil _
  | cons move moves ih =>
      rw [List.cons_append]
      unfold heard
      rw [ih, List.append_assoc]
      rfl

/-- No course changes the times and sizes. -/
lemma liveness_reached : (reached session shared c moves).liveness = c.liveness := by
  induction moves using List.reverseRecOn with
  | nil => rfl
  | append_singleton moves m ih =>
      rw [reached_concat, (goes_step session _ _ m).liveness, ih]

/-- What was cancelled stays so. -/
lemma cancelled_reached {session : Session ρ σ} {c : Connection σ}
    (h : c.link.cancelled = true) (shared : ρ) (moves : List Move) :
    (reached session shared c moves).link.cancelled = true := by
  induction moves using List.reverseRecOn with
  | nil => exact h
  | append_singleton moves m ih =>
      rw [reached_concat]
      exact (goes_step session _ _ m).cancelled ih

/-- The clock of a connection is told by the times of its moves. -/
lemma now_reached : (reached session shared c moves).now = clock c.now moves := by
  induction moves generalizing shared c with
  | nil => rfl
  | cons move moves ih =>
      have hfirst := (goes_step session shared c move).now
      show (reached session (step session shared c move).1 (step session shared c move).2.1
        moves).now = clock (c.now.after move.time) moves
      rw [ih, hfirst]

/-- The clock, the last move last. -/
lemma clock_concat (now : Moment) : clock now (moves ++ [m]) = (clock now moves).after m.time := by
  induction moves generalizing now with
  | nil => rfl
  | cons move moves ih => exact ih (now.after move.time)

/-- What holds all along a course holds all along its parts. -/
lemma allAlong_append {P : ρ → Connection σ → Move → Prop} (later : List Move) :
    AllAlong P session shared c (moves ++ later) ↔ AllAlong P session shared c moves ∧
      AllAlong P session (run session shared c moves).1 (reached session shared c moves) later := by
  induction moves generalizing shared c with
  | nil => exact (and_iff_right trivial).symm
  | cons move moves ih =>
      have hrest := ih (step session shared c move).1 (step session shared c move).2.1
      exact (and_congr_right fun _ => hrest).trans and_assoc.symm

/-- What holds all along, the last move last. -/
lemma allAlong_concat {P : ρ → Connection σ → Move → Prop} :
    AllAlong P session shared c (moves ++ [m]) ↔
      AllAlong P session shared c moves ∧
        P (run session shared c moves).1 (reached session shared c moves) m := by
  rw [allAlong_append]
  exact and_congr_right fun _ => and_iff_left trivial

end concat

/-! ## Moves that are possible -/

section prompt

variable (session : Session ρ σ) (shared : ρ)

/-- The receiver can end for want of a pong from its deadline on. -/
lemma isPossible_expire (c : Connection σ) :
    isPossible session shared c .expire = (c.receiving && decide (c.deadline ≤ c.now)) := by
  rw [isPossible, step?, Option.isSome_map, expire?]
  split_ifs with h
  · exact h.symm
  · exact (Bool.eq_false_iff.mpr h).symm

/-- The receiver can stop once the connection is cancelled. -/
lemma isPossible_halt (c : Connection σ) :
    isPossible session shared c .halt = (c.receiving && c.link.cancelled) := by
  rw [isPossible, step?, Option.isSome_map, halt?]
  split_ifs with h
  · exact h.symm
  · exact (Bool.eq_false_iff.mpr h).symm

/-- A sender that waits can ping from the time of the next ping on. -/
lemma isPossible_ping (his : c.sender = .idle) :
    isPossible session shared c .ping = decide (c.nextPing ≤ c.now) := by
  rw [isPossible, step?, Option.isSome_map, ping?, his]
  dsimp only
  split_ifs with h
  · exact (decide_eq_true h).symm
  · exact (decide_eq_false h).symm

/-- A sender that has something in hand can have it written. -/
lemma isPossible_written (hbusy : c.sender.deadline? ≠ none) :
    isPossible session shared c .written = true := by
  rw [isPossible, step?, Option.isSome_map, written?]
  cases hsender : c.sender with
  | writing | closing | flushing => rfl
  | unstartable | idle | ended => exact absurd (congrArg Sender.deadline? hsender) hbusy

variable {session shared} {urgent : List Move} {m : Move} {time : Duration}

/-- Time does not pass beyond the point from which on an urgent move is possible. -/
lemma IsPrompt.after_le (h : IsPrompt urgent session shared c (.elapse time)) (hmem : m ∈ urgent)
    {due : Moment} (hnow : c.now ≤ due)
    (hdue : ∀ passed, due ≤ c.now.after passed →
      isPossible session shared (c.idleFor passed) m = true) : c.now.after time ≤ due := by
  by_contra hlate
  obtain ⟨passed, hpassed⟩ := Int.le.dest hnow
  have hearlier : passed < time := by
    rw [← hpassed] at hlate
    exact Int.ofNat_lt.mp (Int.lt_of_add_lt_add_left (Int.not_le.mp hlate))
  have hpossible := hdue passed (Int.le_of_eq hpassed.symm)
  rw [h passed hearlier m hmem] at hpossible
  cases hpossible

/-- No time passes when an urgent move is possible. -/
lemma IsPrompt.eq_zero (h : IsPrompt urgent session shared c (.elapse time)) (hmem : m ∈ urgent)
    (hpossible : isPossible session shared c m = true) : time = 0 := by
  by_contra hne
  have hnow : c.idleFor 0 = c := congrArg (fun now => { c with now := now }) c.now.after_zero
  have hnone := h 0 (Nat.pos_of_ne_zero hne) m hmem
  rw [hnow, hpossible] at hnone
  cases hnone

/-- A receiver that is prompt lets no time pass beyond its deadline. -/
lemma IsPrompt.after_le_deadline (h : IsPrompt urgent session shared c (.elapse time))
    (hmem : .expire ∈ urgent) (hrunning : c.receiving = true) (hnow : c.now ≤ c.deadline) :
    c.now.after time ≤ c.deadline := by
  refine h.after_le hmem hnow fun passed hdue => ?_
  rw [isPossible_expire, Bool.and_eq_true]
  exact ⟨hrunning, decide_eq_true hdue⟩

end prompt

/-- No course goes back in time. -/
lemma le_clock (now : Moment) (moves : List Move) : now ≤ clock now moves := by
  induction moves generalizing now with
  | nil => exact Int.le_refl now
  | cons move moves ih => exact Int.le_trans (Moment.le_after (Int.le_refl now) _) (ih _)

/-- Arrivals, one part of a course after the other. -/
lemma arrivals_append (now : Moment) (moves later : List Move) :
    arrivals now (moves ++ later) = arrivals now moves ++ arrivals (clock now moves) later := by
  induction moves generalizing now with
  | nil => rfl
  | cons move moves ih =>
      rw [List.cons_append]
      cases move <;> simp [arrivals, clock, ih, Move.time, Moment.after]

/-- Arrivals, the last move last. -/
lemma arrivals_concat (now : Moment) (moves : List Move) (m : Move) :
    arrivals now (moves ++ [m]) = arrivals now moves ++ arrivals (clock now moves) [m] :=
  arrivals_append now moves [m]

/-- Whatever came, came by now. -/
lemma le_clock_of_mem_arrivals {now : Moment} {moves : List Move} {x : Moment × Inbound}
    (hmem : x ∈ arrivals now moves) : x.1 ≤ clock now moves := by
  induction moves using List.reverseRecOn with
  | nil => cases hmem
  | append_singleton moves m ih =>
      rw [arrivals_concat] at hmem
      rw [clock_concat]
      rcases List.mem_append.mp hmem with hearlier | hlast
      · exact Moment.le_after (ih hearlier) m.time
      · cases m with
        | receive inbound =>
            cases List.mem_singleton.mp hlast
            exact Moment.le_after (Int.le_refl _) _
        | _ => cases hlast

end Connection

end KeyDirectory
