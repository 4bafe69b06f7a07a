import KeyDirectory.Proofs.Connection.Moves
import KeyDirectory.Proofs.Upload.Roster
import KeyDirectory.Upload.Hall

/-!
# One connection at the upload point

What a connection is up to at each stage of its session, and what one move makes of that.  The
roster changes only when the session registers and when it revokes, and in between the lease of
the connection says what its entry is.

* `Party.Sound`: the invariant of one connection, by the stage of its session.
* `Changes`: the ways in which a move can change the roster and the lease.
* `Advances`: what a move does to the connection and the desk.
* `advances_of_others`, `advances_of_receive`: the moves of all tasks but the session.
-/

namespace KeyDirectory.Upload

open Connection Roster

/-! ## What was submitted -/

/-- Once there is a submission, it stays the same. -/
lemma submittedLine?_append {heard : List WebSocket.Message}
    (h : (heard.find? isContent).isSome = true) (maxMessage : Nat)
    (more : List WebSocket.Message) :
    submittedLine? maxMessage (heard ++ more) = submittedLine? maxMessage heard := by
  unfold submittedLine?
  rw [List.find?_append, Option.or_of_isSome h]

/-- A line is submitted by a message with content. -/
lemma isSome_of_submittedLine? {heard : List WebSocket.Message} {maxMessage : Nat} {line : String}
    (h : submittedLine? maxMessage heard = some line) :
    (heard.find? isContent).isSome = true := by
  unfold submittedLine? at h
  rcases hfirst : heard.find? isContent with _ | message
  · rw [hfirst] at h
    cases h
  · rfl

/-- The first message that can be a submission is the submission, if it is fit for it. -/
lemma submittedLine?_concat {heard : List WebSocket.Message} (h : heard.find? isContent = none)
    {message : WebSocket.Message} (hcontent : isContent message = true) {line : String}
    (htext : contentText? message = some line) {maxMessage : Nat}
    (hsize : line.utf8ByteSize ≤ maxMessage) :
    submittedLine? maxMessage (heard ++ [message]) = some line := by
  unfold submittedLine?
  rw [List.find?_append, h, Option.none_or, List.find?_cons_of_pos hcontent, Option.bind_some,
    htext]
  simp [hsize]

namespace Party

variable {roster : Roster} {p p' : Party}

/-- A line once submitted stays the line, whatever else is heard. -/
lemma line?_of_heard {line : String} (hliveness : p'.connection.liveness = p.connection.liveness)
    {more : List WebSocket.Message} (hheard : p'.heard = p.heard ++ more)
    (h : p.line? = some line) : p'.line? = some line := by
  unfold line? at *
  rw [hliveness, hheard, submittedLine?_append (isSome_of_submittedLine? h)]
  exact h

/-- A key once submitted stays the key, whatever else is heard. -/
lemma key?_of_heard {key : PublicKey} (hliveness : p'.connection.liveness = p.connection.liveness)
    {more : List WebSocket.Message} (hheard : p'.heard = p.heard ++ more)
    (h : p.key? = some key) : p'.key? = some key := by
  unfold key? at *
  obtain ⟨line, hline, hkey⟩ := Option.bind_eq_some_iff.mp h
  rw [line?_of_heard hliveness hheard hline, Option.bind_some]
  exact hkey

/-! ## The invariant -/

/-- A lease is live, and its entry has the one key that was submitted. -/
def Listed (roster : Roster) (p : Party) (lease : Lease) : Prop :=
  lease.revoked = false ∧ ∃ key entry, p.key? = some key ∧
    roster.entry? lease.identity = some entry ∧ entry.keys = [key]

/-- Nothing came but what waits to be read. -/
def IsWaiting (p : Party) : Prop :=
  (∀ line, p.connection.inbox = some line → p.line? = some line) ∧
    (p.connection.receiving = true → p.connection.inbox = none →
      p.heard.find? isContent = none)

/-- At most one message was queued, and none without a key. -/
def HasToldOnce (p : Party) : Prop :=
  p.said = [] ∨ ∃ identity key, p.said = [identity] ∧ p.key? = some key

/-- What is true of a connection while its session is at a stage. -/
def StandsAt (p : Party) : Stage → Prop
  | .arriving | .awaitingKey => p.said = [] ∧ p.IsWaiting
  | .registering key => p.said = [] ∧ p.key? = some key
  | .registered _ | .telling _ => p.said = []
  | .holding lease => p.said = [lease.identity]
  | .revoking lease => p.said = [] ∨ p.said = [lease.identity]
  | .leaving => p.HasToldOnce

/-- The same, wherever the session stands; upload sessions never sleep. -/
def Stands (p : Party) : Standing Stage → Prop
  | .running stage => p.StandsAt stage
  | .sleeping _ _ => False
  | .ended => p.HasToldOnce

/-- The invariant of one connection. -/
structure Sound (roster : Roster) (p : Party) : Prop where
  stands : p.Stands p.connection.session
  listed : ∀ lease, p.lease? = some lease → p.Listed roster lease
  joined : p.connection.isDone = true → p.connection.session.isEnded = true

/-- A party stays listed as long as its key stays. -/
lemma Listed.mono {lease : Lease} (h : p.Listed roster lease)
    (hkey : ∀ key, p.key? = some key → p'.key? = some key) : p'.Listed roster lease := by
  obtain ⟨hlive, key, entry, hsubmitted, hentry⟩ := h
  exact ⟨hlive, key, entry, hkey key hsubmitted, hentry⟩

/-- A party that says nothing more has still told its identity once. -/
lemma HasToldOnce.mono (h : p.HasToldOnce) (hsaid : p'.said = p.said)
    (hkey : ∀ key, p.key? = some key → p'.key? = some key) : p'.HasToldOnce := by
  rcases h with hnone | ⟨identity, key, hone, hsubmitted⟩
  · exact .inl (hsaid.trans hnone)
  · exact .inr ⟨identity, key, hsaid.trans hone, hkey key hsubmitted⟩

/-- A connection goes on waiting when its queue stays as it is, and nothing came as long as its
receiver runs. -/
lemma IsWaiting.mono (h : p.IsWaiting) {more : List WebSocket.Message}
    (hliveness : p'.connection.liveness = p.connection.liveness)
    (hheard : p'.heard = p.heard ++ more) (hinbox : p'.connection.inbox = p.connection.inbox)
    (hreceiving : p'.connection.receiving = true →
      p.connection.receiving = true ∧ more.find? isContent = none) : p'.IsWaiting := by
  constructor
  · intro line hline
    rw [hinbox] at hline
    exact line?_of_heard hliveness hheard (h.1 line hline)
  · intro hrunning hempty
    rw [hinbox] at hempty
    obtain ⟨hbefore, hmore⟩ := hreceiving hrunning
    rw [hheard, List.find?_append, h.2 hbefore hempty, Option.none_or]
    exact hmore

/-- A connection that says nothing and keeps its submission stands where it stood, if it still
waits in case it waited. -/
lemma Stands.mono {standing : Standing Stage} (h : p.Stands standing)
    (hsaid : p'.said = p.said) (hkey : ∀ key, p.key? = some key → p'.key? = some key)
    (hwaiting : standing.isEnded = false → p.IsWaiting → p'.IsWaiting) :
    p'.Stands standing := by
  cases standing with
  | sleeping wake stage => exact h
  | ended => exact HasToldOnce.mono h hsaid hkey
  | running stage =>
      cases stage with
      | arriving => exact ⟨hsaid.trans h.1, hwaiting rfl h.2⟩
      | awaitingKey => exact ⟨hsaid.trans h.1, hwaiting rfl h.2⟩
      | registering key => exact ⟨hsaid.trans h.1, hkey key h.2⟩
      | registered lease => exact hsaid.trans h
      | telling lease => exact hsaid.trans h
      | holding lease => exact hsaid.trans h
      | revoking lease => exact Or.imp hsaid.trans hsaid.trans h
      | leaving => exact HasToldOnce.mono h hsaid hkey

end Party

/-! ## What a move does -/

/-- The ways in which a move can change the roster and the lease of the connection: not at all,
by an entry under an identity that was vacant, and by taking the entry of the lease away. -/
inductive Changes : Roster → Option Lease → Roster → Option Lease → Prop
  | same (roster : Roster) (lease : Option Lease) : Changes roster lease roster lease
  | entered {roster : Roster} {identity : String} (counted : Nat) (entry : Entry)
      (hvacant : roster.entry? identity = none) :
      Changes roster none (roster.enlist counted identity entry) (some ⟨identity, false⟩)
  | left (roster : Roster) (lease : Lease) :
      Changes roster (some lease) (roster.erase lease.identity) none

/-- A move keeps the invariant and the submission, changes the roster in one of those ways, and
queues nothing but the identity of the lease. -/
structure Advances (desk : Desk) (p : Party) (desk' : Desk) (p' : Party) : Prop where
  sound : p'.Sound desk'.roster
  changes : Changes desk.roster p.lease? desk'.roster p'.lease?
  key : ∀ key, p.key? = some key → p'.key? = some key
  told : p'.said = p.said ∨ ∃ lease, p.said = [] ∧ p'.said = [lease.identity] ∧
    p.lease? = some lease

namespace Party

variable {desk : Desk} {p p' : Party}

/-- Without an accepted message nothing is said. -/
lemma accepted_eq_nil {events : List Event} (h : ∀ message, Event.accepted message ∉ events) :
    events.filterMap accepted? = [] := by
  rw [List.filterMap_eq_nil_iff]
  intro event hevent
  cases event with
  | accepted message => exact absurd hevent (h message)
  | _ => rfl

/-- A connection whose session stays where it is advances, if it goes on waiting. -/
lemma advances_of_aside (h : p.Sound desk.roster) {events : List Event}
    (haside : Aside p.connection (p'.connection, events))
    (more : List WebSocket.Message) (hheard : p'.heard = p.heard ++ more)
    (hsaid : p'.said = p.said ++ events.filterMap accepted?)
    (hwaiting : p.connection.session.isEnded = false → p.IsWaiting → p'.IsWaiting) :
    Advances desk p desk p' := by
  have hsession : p'.connection.session = p.connection.session := haside.session
  have hlease : p'.lease? = p.lease? := congrArg leaseOf hsession
  have hkey : ∀ key, p.key? = some key → p'.key? = some key :=
    fun key => key?_of_heard haside.liveness hheard
  rw [accepted_eq_nil haside.accepted, List.append_nil] at hsaid
  refine ⟨⟨?_, fun lease hl => ?_, fun hdone => ?_⟩, ?_, hkey, .inl hsaid⟩
  · rw [hsession]
    exact h.stands.mono hsaid hkey hwaiting
  · rw [hlease] at hl
    exact (h.listed lease hl).mono hkey
  · rw [hsession]
    exact (haside.joiner hdone).elim h.joined fun hended => hended
  · rw [hlease]
    exact .same _ _

/-- A move of the connection is a move of the party, with what it hears and says. -/
lemma move_of_step {m : Move} {desk' : Desk} {moved : Moved Stage}
    (h : step session desk p.connection m = (desk', moved)) :
    p.move desk m = (desk', ⟨moved.1, p.heard ++ hearing p.connection m,
      p.said ++ moved.2.filterMap accepted?⟩) := by
  unfold move
  rw [h]

/-- A move that leaves alone all that the session knows of. -/
lemma advances_of_quiet (h : p.Sound desk.roster) {m : Move} {moved : Moved Stage}
    (hstep : step session desk p.connection m = (desk, moved)) (hquiet : Quiet p.connection moved)
    (hhearing : hearing p.connection m = []) :
    Advances desk p (p.move desk m).1 (p.move desk m).2 := by
  rw [move_of_step hstep, hhearing]
  exact advances_of_aside h hquiet.toAside [] rfl rfl
    fun _ hwaiting => hwaiting.mono hquiet.liveness rfl hquiet.inbox
      fun hrunning => ⟨hquiet.receiving hrunning, rfl⟩

/-- The moves of the other tasks, and what happens from outside. -/
lemma advances_of_others (h : p.Sound desk.roster) {m : Move} (hwork : m ≠ .work)
    (hreceive : ∀ inbound, m ≠ .receive inbound) :
    Advances desk p (p.move desk m).1 (p.move desk m).2 := by
  obtain ⟨hdesk, hquiet⟩ := quiet_step hwork hreceive desk p.connection
  refine advances_of_quiet h (Prod.ext hdesk rfl) hquiet ?_
  unfold hearing
  split
  · next message => exact absurd rfl (hreceive (.message message))
  · rfl

/-- A connection whose receiver ends goes on waiting. -/
lemma IsWaiting.of_endReceiver (h : p.IsWaiting) {why : Ending}
    (hconnection : p'.connection = (p.connection.endReceiver why).1)
    {more : List WebSocket.Message} (hheard : p'.heard = p.heard ++ more) : p'.IsWaiting := by
  refine h.mono (by rw [hconnection]; rfl) hheard (by rw [hconnection]; rfl) fun hrunning => ?_
  rw [hconnection] at hrunning
  cases hrunning

/-- A text that comes while nothing waits is the submission; while something waits it is
dropped. -/
lemma IsWaiting.of_deliver (h : p.IsWaiting) (hrunning : p.connection.receiving = true)
    (hended : p.connection.session.isEnded = false) {message : WebSocket.Message}
    (hcontent : isContent message = true) {line : String}
    (htext : contentText? message = some line)
    (hconnection : p'.connection = (p.connection.deliver line).1)
    (hheard : p'.heard = p.heard ++ [message]) : p'.IsWaiting := by
  have hliveness : p'.connection.liveness = p.connection.liveness := by
    rw [hconnection]
    exact (aside_deliver p.connection line).liveness
  rcases deliver_cases p.connection line with
    ⟨-, hend⟩ | ⟨-, hbusy, hdrop⟩ | ⟨hsize, hempty, hqueue⟩
  · rw [hend] at hconnection
    exact h.of_endReceiver hconnection hheard
  · rw [hdrop] at hconnection
    rw [hended] at hbusy
    have hsome := hbusy.resolve_left Bool.false_ne_true
    refine ⟨fun waiting hinbox => ?_, fun _ hnone => ?_⟩
    · rw [hconnection] at hinbox
      exact line?_of_heard hliveness hheard (h.1 waiting hinbox)
    · rw [hconnection] at hnone
      rw [hnone] at hsome
      cases hsome
  · rw [hqueue] at hconnection
    refine ⟨fun waiting hinbox => ?_, fun _ hnone => ?_⟩
    · rw [hconnection] at hinbox
      cases hinbox
      unfold line?
      rw [hliveness, hheard]
      exact submittedLine?_concat (h.2 hrunning hempty) hcontent htext hsize
    · rw [hconnection] at hnone
      cases hnone

/-- Whatever comes from the socket, a connection that waits goes on waiting. -/
lemma IsWaiting.of_takeInbound (h : p.IsWaiting) (hrunning : p.connection.receiving = true)
    (hended : p.connection.session.isEnded = false) {inbound : Inbound}
    (hconnection : p'.connection = (p.connection.takeInbound inbound).1)
    (hheard : p'.heard = p.heard ++ hearing p.connection (.receive inbound)) :
    p'.IsWaiting := by
  cases inbound with
  | failed => exact h.of_endReceiver hconnection hheard
  | ended => exact h.of_endReceiver hconnection hheard
  | message message =>
      have hone : p'.heard = p.heard ++ [message] := by
        rw [hheard]
        simp [hearing, hrunning]
      cases message with
      | text line => exact h.of_deliver hrunning hended rfl rfl hconnection hone
      | binary bytes =>
          rcases hdecoded : Text.Utf8.decodeText? bytes with _ | line
          · unfold takeInbound at hconnection
            simp only [hdecoded] at hconnection
            exact h.of_endReceiver hconnection hone
          · unfold takeInbound at hconnection
            simp only [hdecoded] at hconnection
            have htext : contentText? (.binary bytes) = some line := hdecoded
            exact h.of_deliver hrunning hended rfl htext hconnection hone
      | ping payload =>
          exact h.mono (by rw [hconnection]; rfl) hone (by rw [hconnection]; rfl)
            fun _ => ⟨hrunning, rfl⟩
      | pong payload =>
          exact h.mono (by rw [hconnection]; rfl) hone (by rw [hconnection]; rfl)
            fun _ => ⟨hrunning, rfl⟩
      | close reason => exact h.of_endReceiver hconnection hone

/-- What comes from the socket may be a submission, which then waits for the session. -/
lemma advances_of_receive (h : p.Sound desk.roster) (inbound : Inbound) :
    Advances desk p (p.move desk (.receive inbound)).1 (p.move desk (.receive inbound)).2 := by
  rcases hrunning : p.connection.receiving with _ | _
  · have hstill : step session desk p.connection (.receive inbound) =
        (desk, p.connection, []) := by
      simp [step, step?, receive?, hrunning]
    refine advances_of_quiet h hstill (.of_same rfl rfl rfl rfl rfl (by simp)) ?_
    unfold hearing
    split
    · simp [hrunning]
    · rfl
  · have hmoved : step session desk p.connection (.receive inbound) =
        (desk, p.connection.takeInbound inbound) := by
      simp [step, step?, receive?, hrunning]
    rw [move_of_step hmoved]
    exact advances_of_aside h (aside_takeInbound p.connection inbound) _ rfl rfl
      fun hended hwaiting => hwaiting.of_takeInbound hrunning hended rfl rfl

end Party

end KeyDirectory.Upload
