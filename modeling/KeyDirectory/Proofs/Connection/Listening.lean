import KeyDirectory.Proofs.Connection.Steps

/-!
# When the receiver ends, and what it passes on

Only a pong moves the deadline, so that the deadline is known from the times at which pongs came;
and the receiver is never held up, so that it takes all that comes until it ends.  What it passes
on goes through a queue with room for one message.

* `silentAt_concat`, `ending_concat`: what one more arrival changes.
* `HasEnded`, `hasEnded_run`: the receiver ends once, however late it is.
* `Watches`, `watches_goes`: the receiver and its deadline along a run.
* `Keeps`, `keeps_goes`: the queue along a run.
* `receiver_listens`: all of it, for every run in which the receiver is prompt.
-/

namespace KeyDirectory.Connection

variable {ρ σ : Type} {c : Connection σ}

/-! ## Arrivals -/

/-- The pongs of what came, one arrival at a time. -/
lemma pongs_concat (arrived : List (Moment × Inbound)) (time : Moment) (inbound : Inbound) :
    pongs (arrived ++ [(time, inbound)]) =
      pongs arrived ++ if inbound.isPong then [time] else [] := by
  unfold pongs
  rw [List.filterMap_append]
  split_ifs with hpong
  · simp [hpong]
  · simp [hpong]

/-- What came so far came no later than now. -/
lemma le_of_mem_pongs {arrived : List (Moment × Inbound)} {now pong : Moment}
    (hpast : ∀ x ∈ arrived, x.1 ≤ now) (hmem : pong ∈ pongs arrived) : pong ≤ now := by
  obtain ⟨⟨time, inbound⟩, hin, hpong⟩ := List.mem_filterMap.mp hmem
  dsimp only at hpong
  split_ifs at hpong
  cases hpong
  exact hpast _ hin

section silentAt

variable {pongWithin : Duration} {last pong : Moment} {pongs : List Moment}

/-- Whoever was last heard of by some time is presumed gone in time from then on. -/
lemma silentAt_le {bound : Moment} (hlast : last ≤ bound) (hpongs : ∀ pong ∈ pongs, pong ≤ bound) :
    silentAt pongWithin last pongs ≤ bound.after pongWithin := by
  induction pongs generalizing last with
  | nil => exact Int.add_le_add_right hlast _
  | cons pong later ih =>
      unfold silentAt
      split_ifs
      · exact ih (hpongs pong List.mem_cons_self) fun p hp => hpongs p (List.mem_cons_of_mem _ hp)
      · exact Int.add_le_add_right hlast _

/-- A pong counts if the peer was not presumed gone when it came. -/
lemma silentAt_concat (hpongs : ∀ earlier ∈ pongs, earlier ≤ pong) :
    silentAt pongWithin last (pongs ++ [pong]) =
      if pong < silentAt pongWithin last pongs then pong.after pongWithin
      else silentAt pongWithin last pongs := by
  induction pongs generalizing last with
  | nil => rfl
  | cons first later ih =>
      rw [List.cons_append]
      unfold silentAt
      split_ifs with hfirst hpong hpong
      · rw [ih fun p hp => hpongs p (List.mem_cons_of_mem _ hp), if_pos hpong]
      · rw [ih fun p hp => hpongs p (List.mem_cons_of_mem _ hp), if_neg hpong]
      · -- The first of them came too late, and this one after it.
        have hle := hpongs first List.mem_cons_self
        exact absurd (Int.lt_of_le_of_lt hle hpong) hfirst
      · rfl

/-- One more pong does not bring the deadline forward. -/
lemma silentAt_le_concat (hpongs : ∀ earlier ∈ pongs, earlier ≤ pong) (hlast : last ≤ pong) :
    silentAt pongWithin last pongs ≤ silentAt pongWithin last (pongs ++ [pong]) := by
  rw [silentAt_concat hpongs]
  split_ifs
  · exact silentAt_le hlast hpongs
  · exact Int.le_refl _

end silentAt

section ending

variable {liveness : Liveness} {begun time : Moment} {arrived : List (Moment × Inbound)}
  {inbound : Inbound}

/-- The first thing that ends the receiver stays the first. -/
lemma firstFatal?_concat (largest : Nat) :
    firstFatal? largest (arrived ++ [(time, inbound)]) =
      (firstFatal? largest arrived).or ((inbound.fatal? largest).map (time, ·)) := by
  unfold firstFatal?
  rw [List.findSome?_append, List.findSome?_singleton]

/-- What ends the receiver is no pong. -/
lemma isPong_of_fatal? {largest : Nat} {why : Ending} (h : inbound.fatal? largest = some why) :
    inbound.isPong = false := by
  cases inbound with
  | message m =>
      cases m with
      | pong content => cases h
      | text | binary | ping | close => rfl
  | failed => rfl
  | ended => rfl

/-- What is passed on neither ends the receiver nor moves the deadline. -/
lemma harmless_of_passed? {largest : Nat} {text : String}
    (hpassed : inbound.passed? largest = some text) :
    inbound.fatal? largest = none ∧ inbound.isPong = false := by
  unfold Inbound.passed? at hpassed
  split_ifs at hpassed with hfatal
  refine ⟨hfatal, ?_⟩
  unfold Inbound.text? at hpassed
  split at hpassed
  · rfl
  · rfl
  · cases hpassed

/-- What comes when the receiver is to have ended changes nothing. -/
lemma ending_concat (hpast : ∀ x ∈ arrived, x.1 ≤ time) (hbegun : begun ≤ time)
    (hover : (ending liveness begun arrived).1 ≤ time) :
    ending liveness begun (arrived ++ [(time, inbound)]) = ending liveness begun arrived := by
  have hpongs : ∀ pong ∈ pongs arrived, pong ≤ time := fun pong => le_of_mem_pongs hpast
  -- Presumed gone by then, the peer stays so.
  have hsame : silentAt liveness.pongWithin begun (pongs arrived) ≤ time →
      silentAt liveness.pongWithin begun (pongs (arrived ++ [(time, inbound)])) =
        silentAt liveness.pongWithin begun (pongs arrived) := by
    intro hsilent
    rw [pongs_concat]
    split_ifs
    · rw [silentAt_concat hpongs, if_neg (Int.not_lt.mpr hsilent)]
    · rw [List.append_nil]
  have hlater : silentAt liveness.pongWithin begun (pongs arrived) ≤
      silentAt liveness.pongWithin begun (pongs (arrived ++ [(time, inbound)])) := by
    rw [pongs_concat]
    split_ifs
    · exact silentAt_le_concat hpongs hbegun
    · exact Int.le_of_eq (by rw [List.append_nil])
  unfold ending at hover ⊢
  dsimp only at hover ⊢
  rw [firstFatal?_concat]
  rcases hfirst : firstFatal? liveness.maxMessage arrived with _ | ⟨earlier, why⟩
  · rw [hfirst] at hover
    rw [Option.none_or, hsame hover]
    rcases inbound.fatal? liveness.maxMessage with _ | why
    · rfl
    · exact if_neg (Int.not_lt.mpr hover)
  · rw [hfirst] at hover
    rw [Option.some_or]
    dsimp only at hover ⊢
    split_ifs at hover with hsooner
    · rw [if_pos hsooner, if_pos (Int.lt_of_lt_of_le hsooner hlater)]
    · rw [if_neg hsooner, hsame hover, if_neg hsooner]

/-- As long as nothing that came ends the receiver, its deadline does. -/
lemma ending_of_firstFatal?_eq_none (h : firstFatal? liveness.maxMessage arrived = none) :
    ending liveness begun arrived =
      (silentAt liveness.pongWithin begun (pongs arrived), .silent) := by
  rw [ending, h]

/-- The first thing that ends the receiver does so if it comes before the peer is presumed gone. -/
lemma ending_concat_fatal {why : Ending} (h : firstFatal? liveness.maxMessage arrived = none)
    (hfatal : inbound.fatal? liveness.maxMessage = some why)
    (hsooner : time < silentAt liveness.pongWithin begun (pongs arrived)) :
    ending liveness begun (arrived ++ [(time, inbound)]) = (time, why) := by
  unfold ending
  dsimp only
  rw [firstFatal?_concat, h, hfatal, pongs_concat, isPong_of_fatal? hfatal, if_neg (by simp),
    List.append_nil]
  exact if_pos hsooner

end ending

/-! ## The end of the receiver -/

/-- Nothing comes from the socket in a move of the sender. -/
lemma arrivals_of_isOfSender {m : Move} (h : m.IsOfSender) (now : Moment) :
    arrivals now [m] = [] := by
  cases m with
  | receive inbound => exact h.elim
  | _ => rfl

/-- So the receiver takes nothing then. -/
lemma heardIn_of_isOfSender {m : Move} (h : m.IsOfSender) (c : Connection σ) :
    heardIn c m = [] := by
  cases m with
  | receive inbound => exact h.elim
  | _ => rfl

/-- The sender does not end the receiver. -/
lemma Apart.endedIn_eq_nil {moved : Moved σ} (h : Apart c moved) (now : Moment) :
    endedIn now moved.2 = [] := by
  refine h.filterMap_eq_nil fun event hsender => ?_
  cases event <;> trivial

/-- Nor does the session. -/
lemma Works.endedIn_eq_nil {moved : Moved σ} (h : Works c moved) (now : Moment) :
    endedIn now moved.2 = [] := by
  cases h <;> rfl

/-- A receiver that has ended has done so once, and the connection is cancelled from then on. -/
structure HasEnded (ended : List (Moment × Ending)) (c : Connection σ) : Prop where
  running : c.receiving = true → ended = []
  stopped : c.receiving = false →
    c.link.cancelled = true ∧ ∃ last, ended = [last] ∧ last.1 ≤ c.now

variable {ended : List (Moment × Ending)}

/-- A move ends the receiver at most once, and cancels the connection when it does. -/
lemma hasEnded_goes {m : Move} {moved : Moved σ} (h : HasEnded ended c) (hgoes : Goes c m moved) :
    HasEnded (ended ++ endedIn c.now moved.2) moved.1 := by
  have hnow : c.now ≤ moved.1.now := by
    rw [hgoes.now]
    exact Moment.le_after (Int.le_refl _) m.time
  have hsame : moved.1.receiving = c.receiving → endedIn c.now moved.2 = [] →
      HasEnded (ended ++ endedIn c.now moved.2) moved.1 := by
    intro hreceiving hends
    rw [hends, List.append_nil]
    refine ⟨fun hrunning => h.running (hreceiving ▸ hrunning), fun hover => ?_⟩
    obtain ⟨hcancelled, last, hended, hlast⟩ := h.stopped (hreceiving ▸ hover)
    exact ⟨hgoes.cancelled hcancelled, last, hended, Int.le_trans hlast hnow⟩
  have hends : c.receiving = true → ∀ why, HasEnded (ended ++ [(c.now, why)])
      (c.endReceiver why).1 := by
    intro hreceiving why
    refine ⟨fun hrunning => (nomatch hrunning), fun _ => ⟨rfl, (c.now, why), ?_, Int.le_refl _⟩⟩
    rw [h.running hreceiving]
    rfl
  cases hgoes with
  | sender is sends => exact hsame sends.apart.receiving (sends.apart.endedIn_eq_nil c.now)
  | loss is loses => exact hsame loses.apart.receiving (loses.apart.endedIn_eq_nil c.now)
  | halts running cancelled => exact hends running .cancelled
  | expires running due => exact hends running .silent
  | hears inbound running hears =>
      cases hears with
      | ends _ why fatal => exact hends running why
      | pong | ping | drops | queues => exact hsame rfl rfl
  | session running works => exact hsame works.frame.2.2.2.1 (works.endedIn_eq_nil c.now)
  | nowhere | closing | closed | cancels | elapses => exact hsame rfl rfl

/-- Throughout a course the receiver ends at most once. -/
lemma hasEnded_run (h : HasEnded [] c) (session : Session ρ σ) (shared : ρ)
    (moves : List Move) :
    HasEnded (endings session shared c moves) (reached session shared c moves) := by
  induction moves using List.reverseRecOn with
  | nil => exact h
  | append_singleton moves m ih =>
      rw [endings_concat, reached_concat]
      exact hasEnded_goes ih (goes_step session _ _ m)

/-- Either it runs still, or it has ended once. -/
lemma HasEnded.once (h : HasEnded ended c) :
    c.receiving = true ∧ ended = [] ∨ c.receiving = false ∧ ∃ last, ended = [last] := by
  rcases hreceiving : c.receiving with _ | _
  · obtain ⟨-, last, hended, -⟩ := h.stopped hreceiving
    exact .inr ⟨rfl, last, hended⟩
  · exact .inl ⟨rfl, h.running hreceiving⟩

/-- At first the receiver runs. -/
lemma hasEnded_start (liveness : Liveness) (identifier : Identifier) (link : Link) (now : Moment)
    (state : σ) : HasEnded [] (start liveness identifier link now state) :=
  ⟨fun _ => rfl, fun hover => (nomatch hover)⟩

/-! ## The deadline -/

/-- The receiver of a connection that began at some time, after some arrivals of which it took
some. -/
structure Watches (liveness : Liveness) (begun : Moment) (arrived took : List (Moment × Inbound))
    (ended : List (Moment × Ending)) (c : Connection σ) : Prop where
  running : c.receiving = true → took = arrived ∧
    firstFatal? liveness.maxMessage arrived = none ∧
    c.deadline = silentAt liveness.pongWithin begun (pongs arrived) ∧ c.now ≤ c.deadline
  ends : ∀ last ∈ ended, last.2 ≠ .cancelled → last = ending liveness begun arrived
  missed : ∃ missed, arrived = took ++ missed ∧ ∀ last ∈ ended, ∀ late ∈ missed, last.1 ≤ late.1

variable {liveness : Liveness} {begun : Moment} {arrived took : List (Moment × Inbound)}

/-- A move of another task, in which no time passes. -/
lemma Watches.of_same (h : Watches liveness begun arrived took ended c) {m : Move}
    {moved : Moved σ} (hnow : moved.1.now = c.now) (hdeadline : moved.1.deadline = c.deadline)
    (hreceiving : moved.1.receiving = c.receiving) (hends : endedIn c.now moved.2 = [])
    (harrives : arrivals c.now [m] = []) (hhears : heardIn c m = []) :
    Watches liveness begun (arrived ++ arrivals c.now [m]) (took ++ heardIn c m)
      (ended ++ endedIn c.now moved.2) moved.1 := by
  rw [harrives, hhears, hends, List.append_nil, List.append_nil, List.append_nil]
  refine ⟨?_, h.ends, h.missed⟩
  rw [hnow, hdeadline, hreceiving]
  exact h.running

/-- The receiver ends. -/
lemma Watches.endReceiver (h : Watches liveness begun arrived took ended c)
    (hreceiving : c.receiving = true) (hnone : ended = []) (why : Ending)
    (later : List (Moment × Inbound))
    (hending : why ≠ .cancelled → (c.now, why) = ending liveness begun (arrived ++ later)) :
    Watches liveness begun (arrived ++ later) (took ++ later) (ended ++ [(c.now, why)])
      (c.endReceiver why).1 where
  running := fun hrunning => (nomatch hrunning)
  ends := by
    intro last hmem
    rw [hnone, List.nil_append, List.mem_singleton] at hmem
    rw [hmem]
    exact hending
  missed := by
    obtain ⟨htook, -⟩ := h.running hreceiving
    refine ⟨[], ?_, fun last hmem late hlate => (nomatch hlate)⟩
    rw [htook, List.append_nil]

/-- Something comes to a receiver that has ended. -/
lemma Watches.misses (h : Watches liveness begun arrived took ended c)
    (hreceiving : c.receiving = false) (hended : ∀ last ∈ ended, last.1 ≤ c.now)
    (hpast : ∀ x ∈ arrived, x.1 ≤ c.now) (hbegun : begun ≤ c.now) (inbound : Inbound) :
    Watches liveness begun (arrived ++ [(c.now, inbound)]) (took ++ []) (ended ++ []) c := by
  rw [List.append_nil, List.append_nil]
  refine ⟨fun hrunning => absurd hrunning (by simp [hreceiving]), ?_, ?_⟩
  · intro last hmem hwhy
    have hsame := h.ends last hmem hwhy
    rw [ending_concat hpast hbegun (hsame ▸ hended last hmem)]
    exact hsame
  · obtain ⟨missed, harrived, hlate⟩ := h.missed
    refine ⟨missed ++ [(c.now, inbound)], ?_, fun last hmem late hin => ?_⟩
    · rw [harrived, List.append_assoc]
    · rcases List.mem_append.mp hin with hearlier | hnew
      · exact hlate last hmem late hearlier
      · cases List.mem_singleton.mp hnew
        exact hended last hmem

/-- Something comes that does not end the receiver. -/
lemma Watches.takes (h : Watches liveness begun arrived took ended c)
    (hreceiving : c.receiving = true) (hnone : ended = []) {inbound : Inbound} {c' : Connection σ}
    (hharmless : inbound.fatal? liveness.maxMessage = none) (hnow : c'.now = c.now)
    (hdeadline : c'.deadline =
      if inbound.isPong then c.now.after liveness.pongWithin else c.deadline)
    (htime : c.now ≠ c.deadline) (hpast : ∀ x ∈ arrived, x.1 ≤ c.now) :
    Watches liveness begun (arrived ++ [(c.now, inbound)]) (took ++ [(c.now, inbound)])
      (ended ++ []) c' := by
  obtain ⟨htook, hfirst, hsilent, hbefore⟩ := h.running hreceiving
  rw [hnone]
  refine ⟨fun _ => ⟨?_, ?_, ?_, ?_⟩, fun last hmem => (nomatch hmem), [], ?_,
    fun last hmem => (nomatch hmem)⟩
  · rw [htook]
  · rw [firstFatal?_concat, hfirst, hharmless]
    rfl
  · rw [hdeadline, pongs_concat]
    split_ifs
    · rw [silentAt_concat fun pong => le_of_mem_pongs hpast, if_pos]
      rw [← hsilent]
      exact Int.lt_iff_le_and_ne.mpr ⟨hbefore, htime⟩
    · rw [hsilent, List.append_nil]
  · rw [hnow, hdeadline]
    split_ifs
    · exact Moment.le_after (Int.le_refl _) _
    · exact hbefore
  · rw [htook, List.append_nil]

/-- What comes before the deadline is taken, and ends the receiver exactly when it is to. -/
lemma watches_hears {inbound : Inbound} {moved : Moved σ}
    (h : Watches liveness begun arrived took ended c) (hheld : c.liveness = liveness)
    (hreceiving : c.receiving = true) (hnone : ended = []) (hhears : Hears c inbound moved)
    (htime : c.now ≠ c.deadline) (hpast : ∀ x ∈ arrived, x.1 ≤ c.now) :
    Watches liveness begun (arrived ++ [(c.now, inbound)]) (took ++ [(c.now, inbound)])
      (ended ++ endedIn c.now moved.2) moved.1 := by
  cases hhears with
  | ends _ why fatal =>
      obtain ⟨-, hfirst, hsilent, hbefore⟩ := h.running hreceiving
      refine h.endReceiver hreceiving hnone why [(c.now, inbound)] fun _ => ?_
      rw [hheld] at fatal
      refine (ending_concat_fatal hfirst fatal ?_).symm
      rw [← hsilent]
      exact Int.lt_iff_le_and_ne.mpr ⟨hbefore, htime⟩
  | pong content =>
      refine h.takes hreceiving hnone rfl rfl ?_ htime hpast
      rw [hheld]
      rfl
  | ping content => exact h.takes hreceiving hnone rfl rfl rfl htime hpast
  | drops _ text passed =>
      obtain ⟨hfatal, hpong⟩ := harmless_of_passed? (hheld ▸ passed)
      exact h.takes hreceiving hnone hfatal rfl (by rw [hpong]; rfl) htime hpast
  | queues _ text passed =>
      obtain ⟨hfatal, hpong⟩ := harmless_of_passed? (hheld ▸ passed)
      exact h.takes hreceiving hnone hfatal rfl (by rw [hpong]; rfl) htime hpast

/-- Whatever moves, the receiver ends when it is to, as long as it is prompt. -/
lemma watches_goes {session : Session ρ σ} {shared : ρ} {m : Move} {moved : Moved σ}
    (h : Watches liveness begun arrived took ended c) (hended : HasEnded ended c)
    (hheld : c.liveness = liveness) (hpast : ∀ x ∈ arrived, x.1 ≤ c.now) (hbegun : begun ≤ c.now)
    (hgoes : Goes c m moved) (hprompt : IsPrompt [.expire] session shared c m)
    (hapart : ComesApart shared c m) :
    Watches liveness begun (arrived ++ arrivals c.now [m]) (took ++ heardIn c m)
      (ended ++ endedIn c.now moved.2) moved.1 := by
  have happart : ∀ {moved}, m.IsOfSender → Apart c moved →
      Watches liveness begun (arrived ++ arrivals c.now [m]) (took ++ heardIn c m)
        (ended ++ endedIn c.now moved.2) moved.1 := by
    intro moved his hapart
    exact h.of_same hapart.now hapart.deadline hapart.receiving (hapart.endedIn_eq_nil c.now)
      (arrivals_of_isOfSender his c.now) (heardIn_of_isOfSender his c)
  cases hgoes with
  | nowhere idle =>
      cases m with
      | receive inbound =>
          have hhears : heardIn c (.receive inbound) = [] := if_neg (Bool.not_eq_true _ ▸ idle)
          rw [hhears]
          obtain ⟨-, only, hlast, hle⟩ := hended.stopped idle
          refine h.misses idle (fun last hmem => ?_) hpast hbegun inbound
          rw [hlast, List.mem_singleton] at hmem
          rwa [hmem]
      | elapse | cancel => exact idle.elim
      | stop | take | ping | written | failed | giveUp | halt | expire | work | join =>
          exact h.of_same rfl rfl rfl rfl rfl rfl
  | sender is sends => exact happart is sends.apart
  | loss is loses => exact happart (Move.isOfSender_of_fails is) loses.apart
  | halts running cancelled =>
      exact h.endReceiver running (hended.running running) .cancelled [] fun hwhy =>
        absurd rfl hwhy
  | expires running due =>
      obtain ⟨-, hfirst, hsilent, hbefore⟩ := h.running running
      refine h.endReceiver running (hended.running running) .silent [] fun _ => ?_
      rw [List.append_nil, ending_of_firstFatal?_eq_none hfirst, ← hsilent,
        Int.le_antisymm hbefore due]
  | hears inbound running hears =>
      have hhears : heardIn c (.receive inbound) = [(c.now, inbound)] := if_pos running
      rw [hhears]
      exact watches_hears h hheld running (hended.running running) hears (hapart running) hpast
  | session running works =>
      obtain ⟨-, hnow, hdeadline, hreceiving, -⟩ := works.frame
      exact h.of_same hnow hdeadline hreceiving (works.endedIn_eq_nil c.now) rfl rfl
  | closing | closed | cancels => exact h.of_same rfl rfl rfl rfl rfl rfl
  | elapses time =>
      -- No time passes beyond the deadline of a receiver that runs.
      have hwatches : Watches liveness begun arrived took ended
          { c with now := c.now.after time } := by
        refine ⟨fun hrunning => ?_, h.ends, h.missed⟩
        obtain ⟨htook, hfirst, hsilent, hbefore⟩ := h.running hrunning
        exact ⟨htook, hfirst, hsilent,
          hprompt.after_le_deadline (List.mem_singleton_self _) hrunning hbefore⟩
      rw [← List.append_nil arrived, ← List.append_nil took, ← List.append_nil ended] at hwatches
      exact hwatches

/-- Throughout a course in which the receiver does not put off its end, it ends as it is to. -/
lemma watches_run {session : Session ρ σ} (h : Watches c.liveness c.now [] [] [] c)
    (hended : HasEnded [] c) (shared : ρ) (moves : List Move)
    (hprompt : AllAlong (IsPrompt [.expire] session) session shared c moves)
    (hapart : AllAlong ComesApart session shared c moves) :
    Watches c.liveness c.now (arrivals c.now moves) (heard session shared c moves)
      (endings session shared c moves) (reached session shared c moves) := by
  induction moves using List.reverseRecOn with
  | nil => exact h
  | append_singleton moves m ih =>
      rw [allAlong_concat] at hprompt hapart
      rw [arrivals_concat, heard_concat, endings_concat, reached_concat, ← now_reached]
      refine watches_goes (ih hprompt.1 hapart.1) (hasEnded_run hended session shared moves)
        ?_ ?_ ?_ (goes_step session _ _ m) hprompt.2 hapart.2
      · exact liveness_reached session shared c moves
      · intro x hmem
        rw [now_reached]
        exact le_clock_of_mem_arrivals hmem
      · rw [now_reached]
        exact le_clock c.now moves

/-- At first nothing has come. -/
lemma watches_start (liveness : Liveness) (identifier : Identifier) (link : Link) (now : Moment)
    (state : σ) : Watches liveness now [] [] [] (start liveness identifier link now state) where
  running := fun _ =>
    ⟨rfl, rfl, rfl, Moment.le_after (Int.le_refl now) liveness.pongWithin⟩
  ends := fun _ hmem => (nomatch hmem)
  missed := ⟨[], rfl, fun _ hmem => (nomatch hmem)⟩

/-- As long as the receiver runs, it is not late. -/
lemma Watches.inTime (h : Watches liveness begun arrived took ended c)
    (hreceiving : c.receiving = true) :
    c.now ≤ (ending liveness begun arrived).1 ∧ (ending liveness begun arrived).2 = .silent := by
  obtain ⟨-, hfirst, hsilent, hbefore⟩ := h.running hreceiving
  rw [ending_of_firstFatal?_eq_none hfirst]
  exact ⟨hsilent ▸ hbefore, rfl⟩

/-! ## The queue -/

/-- Events that are nothing to the queue of messages from the peer. -/
def IsForeign : Event → Prop
  | .queued _ | .dropped _ | .took (some _) | .sessionEnded => False
  | _ => True

/-- What the sender tells is nothing to the queue. -/
lemma isForeign_of_isOfSender {event : Event} (h : event.IsOfSender) : IsForeign event := by
  cases event <;> trivial

/-- The message that waits, one event at a time. -/
lemma waiting_concat (events : List Event) (event : Event) :
    waiting (events ++ [event]) = waitingAfter (waiting events) event := by
  rw [waiting, List.foldl_append]
  rfl

/-- What waits to be read was queued. -/
lemma queued_mem_of_waiting {events : List Event} {message : String}
    (h : waiting events = some message) : .queued message ∈ events := by
  induction events using List.reverseRecOn with
  | nil => cases h
  | append_singleton events event ih =>
      rw [waiting_concat] at h
      unfold waitingAfter at h
      split at h
      · cases h
        exact List.mem_append_right _ (List.mem_singleton_self _)
      · cases h
      · exact List.mem_append_left _ (ih h)

/-- What holds of all events with those before them, and of the next ones. -/
lemma forall_split_append {Q : List Event → Event → Prop} {events later : List Event}
    (hevents : ∀ before event after, events = before ++ event :: after → Q before event)
    (hlater : ∀ before event after, later = before ++ event :: after → Q (events ++ before) event) :
    ∀ before event after, events ++ later = before ++ event :: after → Q before event := by
  intro before event after hsplit
  rcases List.append_eq_append_iff.mp hsplit with ⟨between, rfl, hrest⟩ | ⟨between, hfirst, hrest⟩
  · exact hlater between event after hrest
  · cases between with
    | nil =>
        rw [List.append_nil] at hfirst
        rw [← hfirst]
        have hnext := hlater [] event after hrest.symm
        rwa [List.append_nil] at hnext
    | cons first between =>
        rw [List.cons_append, List.cons.injEq] at hrest
        rw [← hrest.1] at hfirst
        exact hevents before event between hfirst

/-- What is asked of an event by those before it, as far as the queue is concerned. -/
def FitsQueue (before : List Event) : Event → Prop
  | .dropped _ => .sessionEnded ∈ before ∨ (waiting before).isSome = true
  | .queued _ => .sessionEnded ∉ before ∧ waiting before = none
  | _ => True

/-- The queue after some events, of the connection whose receiver took this from the socket. -/
structure Keeps (largest : Nat) (took : List (Moment × Inbound)) (events : List Event)
    (c : Connection σ) : Prop where
  waits : waiting events = c.inbox
  ended : .sessionEnded ∈ events ↔ c.session.isEnded = true
  fits : ∀ before event after, events = before ++ event :: after → FitsQueue before event
  reads : events.filterMap Event.taken? ++ c.inbox.toList = events.filterMap Event.queued?
  passes : events.filterMap Event.passed? = passedOn largest took

variable {largest : Nat} {events : List Event}

/-- What is passed on of what was taken, one part after the other. -/
lemma passedOn_append (more : List (Moment × Inbound)) :
    passedOn largest (took ++ more) = passedOn largest took ++ passedOn largest more :=
  List.filterMap_append

/-- What is passed on of one arrival. -/
lemma passedOn_singleton (time : Moment) (inbound : Inbound) :
    passedOn largest [(time, inbound)] = (inbound.passed? largest).toList := by
  unfold passedOn
  rcases hpassed : inbound.passed? largest with _ | text
  · exact List.filterMap_cons_none hpassed
  · exact List.filterMap_cons_some hpassed

/-- What is asked of the events of one move. -/
lemma Keeps.append (h : Keeps largest took events c) {moved : Moved σ}
    {more : List (Moment × Inbound)}
    (hwaits : moved.2.foldl waitingAfter c.inbox = moved.1.inbox)
    (hover : .sessionEnded ∈ moved.2 ∨ c.session.isEnded = true ↔ moved.1.session.isEnded = true)
    (hfits : ∀ before event after, moved.2 = before ++ event :: after →
      FitsQueue (events ++ before) event)
    (hreads : moved.2.filterMap Event.taken? ++ moved.1.inbox.toList =
      c.inbox.toList ++ moved.2.filterMap Event.queued?)
    (hpasses : moved.2.filterMap Event.passed? = passedOn largest more) :
    Keeps largest (took ++ more) (events ++ moved.2) moved.1 where
  waits := by rw [waiting, List.foldl_append, ← waiting, h.waits, hwaits]
  ended := by rw [List.mem_append, h.ended, or_comm, hover]
  fits := forall_split_append h.fits hfits
  reads := by
    rw [List.filterMap_append, List.filterMap_append, List.append_assoc, hreads, ← h.reads,
      List.append_assoc]
  passes := by rw [List.filterMap_append, h.passes, hpasses, passedOn_append]

/-- A foreign event is none of those that the queue is looked at for. -/
lemma looks_of_isForeign {event : Event} (h : IsForeign event) :
    event.taken? = none ∧ event.queued? = none ∧ event.passed? = none ∧
      (∀ waiting, waitingAfter waiting event = waiting) ∧ ∀ before, FitsQueue before event := by
  cases event with
  | queued message => exact h.elim
  | dropped message => exact h.elim
  | sessionEnded => exact h.elim
  | took message =>
      cases message with
      | none => exact ⟨rfl, rfl, rfl, fun _ => rfl, fun _ => trivial⟩
      | some text => exact h.elim
  | published | accepted | refused | began | wrote | senderEnded | receiverEnded =>
      exact ⟨rfl, rfl, rfl, fun _ => rfl, fun _ => trivial⟩

/-- A move that is nothing to the queue. -/
lemma Keeps.of_same (h : Keeps largest took events c) {moved : Moved σ}
    {more : List (Moment × Inbound)} (hinbox : moved.1.inbox = c.inbox)
    (hended : moved.1.session.isEnded = c.session.isEnded)
    (hforeign : ∀ event ∈ moved.2, IsForeign event) (hmore : passedOn largest more = []) :
    Keeps largest (took ++ more) (events ++ moved.2) moved.1 := by
  have hlook : ∀ event ∈ moved.2, _ := fun event hmem => looks_of_isForeign (hforeign event hmem)
  refine h.append ?_ ?_ ?_ ?_ ?_
  · rw [hinbox]
    exact List.foldlRecOn (motive := (· = c.inbox)) moved.2 waitingAfter rfl
      fun waits hwaits event hmem => ((hlook event hmem).2.2.2.1 waits).trans hwaits
  · rw [hended]
    exact ⟨fun hor => hor.resolve_left fun hmem => hforeign _ hmem, .inr⟩
  · intro before event after hsplit
    refine (hlook event ?_).2.2.2.2 _
    rw [hsplit]
    exact List.mem_append_right _ List.mem_cons_self
  · rw [List.filterMap_eq_nil_iff.mpr fun event hmem => (hlook event hmem).1,
      List.filterMap_eq_nil_iff.mpr fun event hmem => (hlook event hmem).2.1, hinbox,
      List.append_nil, List.nil_append]
  · rw [hmore, List.filterMap_eq_nil_iff.mpr fun event hmem => (hlook event hmem).2.2.1]

/-- What was queued was passed on, so that it is not too long. -/
lemma Keeps.size_le (h : Keeps largest took events c) {message : String}
    (hmem : .queued message ∈ events) : message.utf8ByteSize ≤ largest := by
  have hpassed : message ∈ passedOn largest took := by
    rw [← h.passes]
    exact List.mem_filterMap.mpr ⟨_, hmem, rfl⟩
  obtain ⟨⟨time, inbound⟩, -, hinbound⟩ := List.mem_filterMap.mp hpassed
  exact Inbound.size_le_of_passed? hinbound

/-- What is asked of a single event is asked of a list of one. -/
lemma fits_singleton {event : Event} (h : FitsQueue events event) :
    ∀ before other after, [event] = before ++ other :: after →
      FitsQueue (events ++ before) other := by
  intro before other after hsplit
  cases before with
  | nil =>
      cases hsplit
      rwa [List.append_nil]
  | cons first before => simp at hsplit

/-- The session takes from the queue what waits in it, or leaves it alone. -/
lemma keeps_works {moved : Moved σ} (h : Keeps largest took events c) (hworks : Works c moved)
    (hrunning : c.session.isEnded = false) :
    Keeps largest (took ++ []) (events ++ moved.2) moved.1 := by
  cases hworks with
  | ends =>
      exact h.append rfl ⟨fun _ => rfl, fun _ => .inl (List.mem_singleton_self _)⟩
        (fits_singleton trivial) (List.append_nil _).symm rfl
  | reads running text waits state =>
      refine h.append rfl ?_ (fits_singleton trivial) ?_ rfl
      · rw [hrunning]
        exact ⟨fun hor => hor.elim (fun hmem => by simp at hmem) fun h => (nomatch h),
          fun h => (nomatch h)⟩
      · rw [waits]
        rfl
  | readsNothing | isRefused | isAccepted | shows =>
      refine h.of_same rfl hrunning.symm (fun event hmem => ?_) rfl
      cases List.mem_singleton.mp hmem
      trivial
  | sleeps | goesOn => exact h.of_same rfl hrunning.symm (fun event hmem => (nomatch hmem)) rfl

/-- The receiver queues a message when none waits, and drops it otherwise. -/
lemma keeps_hears {inbound : Inbound} {moved : Moved σ} {time : Moment}
    (h : Keeps largest took events c) (hlargest : c.liveness.maxMessage = largest)
    (hhears : Hears c inbound moved) :
    Keeps largest (took ++ [(time, inbound)]) (events ++ moved.2) moved.1 := by
  have hpasses : ∀ text, inbound.passed? c.liveness.maxMessage = some text →
      [text] = passedOn largest [(time, inbound)] := by
    intro text hpassed
    rw [passedOn_singleton, ← hlargest, hpassed]
    rfl
  have hsame : ∀ {event : Event}, event ≠ .sessionEnded →
      (.sessionEnded ∈ [event] ∨ c.session.isEnded = true ↔ c.session.isEnded = true) :=
    fun hevent => ⟨fun hor => hor.resolve_left fun hmem =>
      hevent (List.mem_singleton.mp hmem).symm, .inr⟩
  cases hhears with
  | ends _ why fatal =>
      refine h.of_same rfl rfl (fun event hmem => ?_) ?_
      · cases List.mem_singleton.mp hmem
        trivial
      · rw [passedOn_singleton, ← hlargest, Inbound.passed?_eq_none fatal]
        rfl
  | pong | ping => exact h.of_same rfl rfl (fun event hmem => (nomatch hmem)) rfl
  | drops _ text passed busy =>
      refine h.append rfl (hsame (by simp)) (fits_singleton ?_) (List.append_nil _).symm
        (hpasses text passed)
      rw [FitsQueue, h.ended, h.waits]
      exact busy
  | queues _ text passed running room =>
      refine h.append rfl (hsame (by simp)) (fits_singleton ?_) ?_ (hpasses text passed)
      · rw [FitsQueue, h.ended, h.waits, running]
        exact ⟨by simp, room⟩
      · rw [room]
        rfl

/-- Whatever moves, messages are dropped and queued as they are to be. -/
lemma keeps_goes {m : Move} {moved : Moved σ} (h : Keeps largest took events c)
    (hlargest : c.liveness.maxMessage = largest) (hgoes : Goes c m moved) :
    Keeps largest (took ++ heardIn c m) (events ++ moved.2) moved.1 := by
  have happart : ∀ {moved}, m.IsOfSender → Apart c moved →
      Keeps largest (took ++ heardIn c m) (events ++ moved.2) moved.1 := by
    intro moved his hapart
    rw [heardIn_of_isOfSender his c]
    refine h.of_same hapart.inbox (by rw [hapart.session]) (fun event hmem => ?_) rfl
    exact isForeign_of_isOfSender (hapart.events event hmem)
  cases hgoes with
  | nowhere idle =>
      have hnone : heardIn c m = [] := by
        cases m with
        | receive inbound => exact if_neg (Bool.not_eq_true _ ▸ idle)
        | _ => rfl
      rw [hnone]
      exact h.of_same rfl rfl (fun event hmem => (nomatch hmem)) rfl
  | sender is sends => exact happart is sends.apart
  | loss is loses => exact happart (Move.isOfSender_of_fails is) loses.apart
  | hears inbound running hears =>
      rw [heardIn, if_pos running]
      exact keeps_hears h hlargest hears
  | session running works => exact keeps_works h works running
  | halts | expires | closing | closed =>
      refine h.of_same rfl rfl (fun event hmem => ?_) rfl
      cases List.mem_singleton.mp hmem
      trivial
  | cancels | elapses => exact h.of_same rfl rfl (fun event hmem => (nomatch hmem)) rfl

section runs

variable {session : Session ρ σ}

/-- Throughout a course the queue agrees with what was told of it. -/
lemma keeps_run (h : Keeps c.liveness.maxMessage [] [] c) (session : Session ρ σ) (shared : ρ)
    (moves : List Move) :
    Keeps c.liveness.maxMessage (heard session shared c moves) (showed session shared c moves)
      (reached session shared c moves) := by
  induction moves using List.reverseRecOn with
  | nil => exact h
  | append_singleton moves m ih =>
      rw [heard_concat, showed_concat, reached_concat]
      refine keeps_goes ih ?_ (goes_step session _ _ m)
      rw [liveness_reached]

/-- At first the queue is empty. -/
lemma keeps_start (liveness : Liveness) (identifier : Identifier) (link : Link) (now : Moment)
    (state : σ) :
    Keeps (start liveness identifier link now state).liveness.maxMessage [] []
      (start liveness identifier link now state) where
  waits := rfl
  ended := by simp [start, Standing.isEnded]
  fits := fun before event after hsplit => by simp at hsplit
  reads := rfl
  passes := rfl

/-- The receiver tells that the connection was cancelled, or that its deadline has come, only when
that is so. -/
lemma holds_of_receiverEnded {m : Move} {moved : Moved σ} {why : Ending} (hgoes : Goes c m moved)
    (hmem : .receiverEnded why ∈ moved.2) :
    c.receiving = true ∧ (why = .cancelled → c.link.cancelled = true) ∧
      (why = .silent → c.deadline ≤ c.now) := by
  cases hgoes with
  | halts running cancelled =>
      cases List.mem_singleton.mp hmem
      exact ⟨running, fun _ => cancelled, fun h => (nomatch h)⟩
  | expires running due =>
      cases List.mem_singleton.mp hmem
      exact ⟨running, fun h => (nomatch h), fun _ => due⟩
  | sender is sends => exact (sends.apart.events _ hmem).elim
  | loss is loses => exact (loses.apart.events _ hmem).elim
  | hears inbound running hears =>
      cases hears with
      | ends _ why' fatal =>
          cases List.mem_singleton.mp hmem
          obtain ⟨hcancelled, hsilent⟩ := Inbound.ne_of_fatal? fatal
          exact ⟨running, fun h => absurd h hcancelled, fun h => absurd h hsilent⟩
      | pong | ping => cases hmem
      | drops | queues => cases List.mem_singleton.mp hmem
  | session running works =>
      cases works with
      | sleeps | goesOn => cases hmem
      | ends | readsNothing | reads | isRefused | isAccepted | shows =>
          cases List.mem_singleton.mp hmem
  | closing | closed => cases List.mem_singleton.mp hmem
  | nowhere | cancels | elapses => cases hmem

/-- The receiver ended in one of the moves. -/
lemma exists_of_mem_endings (shared : ρ) {moves : List Move} {last : Moment × Ending}
    (hmem : last ∈ endings session shared c moves) :
    ∃ before m later, moves = before ++ m :: later ∧ last.1 = clock c.now before ∧
      .receiverEnded last.2 ∈
        (step session (run session shared c before).1 (reached session shared c before) m).2.2 := by
  induction moves using List.reverseRecOn with
  | nil => cases hmem
  | append_singleton moves m ih =>
      rw [endings_concat] at hmem
      rcases List.mem_append.mp hmem with hearlier | hlast
      · obtain ⟨before, m', later, rfl, hends⟩ := ih hearlier
        exact ⟨before, m', later ++ [m], List.append_assoc _ _ _, hends⟩
      · obtain ⟨event, hevent, hends⟩ := List.mem_filterMap.mp hlast
        rw [now_reached] at hends
        cases event with
        | receiverEnded why =>
            cases hends
            exact ⟨moves, m, [], rfl, rfl, hevent⟩
        | _ => cases hends

end runs

/-! ## What is expected -/

/-- A receiver that runs can end for want of a pong from its deadline on, and then does. -/
lemma expires_of_receiving (session : Session ρ σ) (shared : ρ) (hrunning : c.receiving = true) :
    isPossible session shared c .expire = decide (c.deadline ≤ c.now) ∧
      (isPossible session shared c .expire = true →
        (step session shared c .expire).2.2 = [.receiverEnded .silent] ∧
          (step session shared c .expire).2.1.receiving = false) := by
  have hpossible := isPossible_expire session shared c
  rw [hrunning, Bool.true_and] at hpossible
  refine ⟨hpossible, fun hexpires => ?_⟩
  rw [hpossible, decide_eq_true_iff] at hexpires
  have hends : c.expire? = some (c.endReceiver .silent) := by
    rw [expire?, hrunning, decide_eq_true hexpires]
    rfl
  rw [step, step?, hends]
  exact ⟨rfl, rfl⟩

/-- **The receiver ends at the first thing that is to end it.**  Let no time pass while it can end
for want of a pong, and nothing come at the very time of its deadline.  Then it ends at the first
thing that is to end it, or at its deadline if that comes before, whatever else comes and whatever
the session does.  Until then it passes on every message, and none is dropped but for want of
room. -/
theorem receiver_listens (session : Session ρ σ) (shared : ρ) (liveness : Liveness)
    (identifier : Identifier) (link : Link) (now : Moment) (state : σ) {moves : List Move}
    (hprompt : AllAlong (IsPrompt [.expire] session) session shared
      (start liveness identifier link now state) moves)
    (hapart : AllAlong ComesApart session shared (start liveness identifier link now state) moves) :
    Listens session shared (start liveness identifier link now state) moves := by
  have hstart := hasEnded_start liveness identifier link now state
  have hended := hasEnded_run hstart session shared moves
  have hwatches := watches_run (watches_start liveness identifier link now state) hstart shared
    moves hprompt hapart
  have hkeeps := keeps_run (keeps_start liveness identifier link now state) session shared moves
  exact
    { once := hended.once
      ends := fun time why hmem hwhy => hwatches.ends (time, why) hmem hwhy
      inTime := by
        rw [← now_reached session shared]
        exact hwatches.inTime
      expires := fun hrunning shared' => by
        rw [← now_reached session shared]
        exact expires_of_receiving session shared' hrunning
      elsewhere := fun time hmem => by
        obtain ⟨before, m, later, hmoves, -, hends⟩ := exists_of_mem_endings shared hmem
        obtain ⟨hrunning, hcancelled, -⟩ := holds_of_receiverEnded (goes_step session _ _ m) hends
        exact ⟨before, m :: later, hmoves, hrunning, hcancelled rfl⟩
      deadline := fun hrunning => (hwatches.running hrunning).2.2.1
      takes := fun hrunning => (hwatches.running hrunning).1
      misses := hwatches.missed
      passes := hkeeps.passes
      drops := fun before message later => hkeeps.fits before (.dropped message) later
      queues := fun before message later => hkeeps.fits before (.queued message) later
      reads := hkeeps.reads
      first := fun before message later hsplit => by
        rcases hkeeps.fits before (.dropped message) later hsplit with hended | hbusy
        · exact .inl hended
        · obtain ⟨earlier, hwaiting⟩ := Option.isSome_iff_exists.mp hbusy
          exact .inr ⟨earlier, queued_mem_of_waiting hwaiting⟩
      fits := fun message hmem => hkeeps.size_le hmem }

/-- A session that reads for ever. -/
def reader : Session Unit Unit where
  start := ()
  call _ := .read fun _ => ()

/-- The second message comes before the first is read, and the last pong after three moments. -/
theorem receiver_listens_reader :
    let begun := start ⟨2, 5, 1, 8⟩ ⟨[]⟩ .fresh 0 ()
    let moves := [.receive (.message (.text "a")), .receive (.message (.text "b")), .work,
      .elapse 3, .receive (.message (.pong [])), .receive (.message (.ping [])), .elapse 5, .expire]
    AllAlong (IsPrompt [.expire] reader) reader () begun moves ∧
      AllAlong ComesApart reader () begun moves ∧ Listens reader () begun moves ∧
      endings reader () begun moves = [(8, .silent)] ∧
      (showed reader () begun moves).filterMap Event.taken? = ["a"] := by
  intro begun moves
  have hprompt : AllAlong (IsPrompt [.expire] reader) reader () begun moves := by decide +kernel
  have hapart : AllAlong ComesApart reader () begun moves := by decide +kernel
  refine ⟨hprompt, hapart, ?_, ?_, ?_⟩
  · exact receiver_listens reader () ⟨2, 5, 1, 8⟩ ⟨[]⟩ .fresh 0 () hprompt hapart
  · decide +kernel
  · decide +kernel

end KeyDirectory.Connection
