import KeyDirectory.Connection.Delivery
import KeyDirectory.Connection.Heartbeat
import KeyDirectory.Proofs.Connection.Listening
import Mathlib.Data.List.Infix

/-!
# A peer that answers is kept, one that is silent is not

Pings come at fixed times, however late the one before was written.  So one of them lies within one
period after the last pong, and its answer comes before the deadline that this pong has set.

* `exists_scheduled`: the ping that follows a pong.
* `HeardOf`, `heardOf_goes`: the deadline belongs to the last pong.
* `Beats`, `beats_goes`: all pings that were due have been written.
* `Beats.before_deadline`: the two together.
* `peer_minded`: the result, for every run in which no task puts off what it can do.
-/

namespace KeyDirectory.Connection

variable {ρ σ : Type} {c : Connection σ} {begun : Moment} {every : Duration}
  {arrived : List (Moment × Inbound)}

/-! ## The schedule -/

/-- When a ping is due before which so many others were. -/
def scheduled (begun : Moment) (every : Duration) (earlier : Nat) : Moment :=
  begun.after ((earlier + 1) * every)

/-- One period after a ping is due the next one is. -/
lemma scheduled_after (n : Nat) :
    (scheduled begun every n).after every = scheduled begun every (n + 1) := by
  unfold scheduled
  rw [Moment.after_after, Nat.add_one_mul (n + 1)]

/-- Pings are due in their order. -/
lemma scheduled_le {m n : Nat} (h : m ≤ n) : scheduled begun every m ≤ scheduled begun every n := by
  have hle : (m + 1) * every ≤ (n + 1) * every :=
    Nat.mul_le_mul_right every (Nat.add_le_add_right h 1)
  exact Moment.after_le_after (Int.le_refl begun) hle

/-- What is due earlier is the earlier ping. -/
lemma lt_of_scheduled_lt {m n : Nat} (h : scheduled begun every m < scheduled begun every n) :
    m < n := by
  by_contra hge
  exact absurd (scheduled_le (Nat.not_lt.mp hge)) (Int.not_le.mpr h)

/-- Within one period after any time there is a ping due. -/
lemma exists_scheduled (hevery : 0 < every) {last : Moment} (h : begun ≤ last) :
    ∃ n, last < scheduled begun every n ∧ scheduled begun every n ≤ last.after every :=
  ⟨begun.since last / every, Moment.lt_after_step hevery h⟩

/-! ## The deadline -/

/-- The deadline of a connection that began at some time belongs to the last pong. -/
structure HeardOf (pongWithin : Duration) (begun : Moment) (arrived : List (Moment × Inbound))
    (c : Connection σ) : Prop where
  inTime : c.receiving = true → c.now ≤ c.deadline
  last : ∃ last, c.deadline = last.after pongWithin ∧ begun ≤ last ∧
    (last = begun ∨ last ∈ pongs arrived) ∧
    (c.receiving = true → ∀ pong ∈ pongs arrived, pong ≤ last)

/-- Pongs are found in what came, one part after the other. -/
lemma pongs_append (more : List (Moment × Inbound)) :
    pongs (arrived ++ more) = pongs arrived ++ pongs more :=
  List.filterMap_append

/-- A move that leaves the deadline as it is. -/
lemma HeardOf.of_same {pongWithin : Duration} (h : HeardOf pongWithin begun arrived c)
    {c' : Connection σ} {more : List (Moment × Inbound)} (hnow : c'.now = c.now)
    (hdeadline : c'.deadline = c.deadline) (hreceiving : c'.receiving = true → c.receiving = true)
    (hmore : c.receiving = true → pongs more = []) :
    HeardOf pongWithin begun (arrived ++ more) c' := by
  obtain ⟨last, hlast, hbegun, hmem, hpongs⟩ := h.last
  refine ⟨fun hrunning => ?_, last, hdeadline.trans hlast, hbegun, ?_, fun hrunning => ?_⟩
  · rw [hnow, hdeadline]
    exact h.inTime (hreceiving hrunning)
  · rw [pongs_append]
    exact hmem.imp_right fun hmem => List.mem_append_left _ hmem
  · rw [pongs_append, hmore (hreceiving hrunning), List.append_nil]
    exact hpongs (hreceiving hrunning)

/-- Every move keeps the deadline at the last pong: only a pong moves it, and no time passes once it
has come. -/
lemma heardOf_goes {session : Session ρ σ} {shared : ρ} {m : Move} {moved : Moved σ}
    (h : HeardOf c.liveness.pongWithin begun arrived c) (hpast : ∀ x ∈ arrived, x.1 ≤ c.now)
    (hbegun : begun ≤ c.now) (hgoes : Goes c m moved)
    (hprompt : IsPrompt unhesitating session shared c m) :
    HeardOf c.liveness.pongWithin begun (arrived ++ arrivals c.now [m]) moved.1 := by
  have happart : ∀ {moved}, m.IsOfSender → Apart c moved →
      HeardOf c.liveness.pongWithin begun (arrived ++ arrivals c.now [m]) moved.1 := by
    intro moved his hapart
    rw [arrivals_of_isOfSender his]
    exact h.of_same hapart.now hapart.deadline (fun hrunning => hapart.receiving ▸ hrunning)
      fun _ => rfl
  cases hgoes with
  | nowhere idle =>
      refine h.of_same rfl rfl (fun hrunning => hrunning) fun hrunning => ?_
      cases m with
      | receive inbound => exact absurd hrunning (Bool.not_eq_true _ ▸ idle)
      | _ => rfl
  | sender is sends => exact happart is sends.apart
  | loss is loses => exact happart (Move.isOfSender_of_fails is) loses.apart
  | hears inbound running hears =>
      cases hears with
      | pong content =>
          refine ⟨fun _ => Moment.le_after (Int.le_refl _) _, c.now, rfl, hbegun, .inr ?_,
            fun _ pong hmem => ?_⟩
          · rw [pongs_append]
            exact List.mem_append_right _ (List.mem_singleton_self _)
          · rw [pongs_append] at hmem
            rcases List.mem_append.mp hmem with hearlier | hlast
            · exact le_of_mem_pongs hpast hearlier
            · cases List.mem_singleton.mp hlast
              exact Int.le_refl _
      | ends _ why fatal =>
          refine h.of_same rfl rfl (fun hrunning => (nomatch hrunning)) fun _ => ?_
          show pongs ([] ++ [(c.now, inbound)]) = []
          rw [pongs_concat, isPong_of_fatal? fatal]
          rfl
      | ping content => exact h.of_same rfl rfl (fun hrunning => hrunning) fun _ => rfl
      | drops _ text passed | queues _ text passed =>
          refine h.of_same rfl rfl (fun hrunning => hrunning) fun _ => ?_
          show pongs ([] ++ [(c.now, inbound)]) = []
          rw [pongs_concat, (harmless_of_passed? passed).2]
          rfl
  | session running works =>
      obtain ⟨-, hnow, hdeadline, hreceiving, -⟩ := works.frame
      exact h.of_same hnow hdeadline (fun hrunning => hreceiving ▸ hrunning) fun _ => rfl
  | halts | expires =>
      exact h.of_same rfl rfl (fun hrunning => (nomatch hrunning)) fun _ => rfl
  | closing | closed | cancels =>
      exact h.of_same rfl rfl (fun hrunning => hrunning) fun _ => rfl
  | elapses time =>
      obtain ⟨last, hlast, hbegun, hmem, hpongs⟩ := h.last
      rw [show arrivals c.now [.elapse time] = [] from rfl, List.append_nil]
      refine ⟨fun hrunning => ?_, last, hlast, hbegun, hmem, hpongs⟩
      exact hprompt.after_le_deadline (by decide) hrunning (h.inTime hrunning)

/-! ## The pings -/

/-- The sender is in its loop, and on time: the pings that were due are written, or the last of
them is being written. -/
structure InStep (begun : Moment) (every : Duration) (pinged : List Moment) (c : Connection σ) :
    Prop where
  looping : c.sender = .idle ∨ ∃ out deadline, c.sender = .writing out false deadline
  schedule : ∃ n, c.nextPing = scheduled begun every n ∧ c.now ≤ c.nextPing ∧
    ∀ k < n, scheduled begun every k ∈ pinged ∨
      .ping ∈ c.sender.inHand ∧ scheduled begun every k = c.now

/-- A sender that is in its loop is in no other place. -/
lemma InStep.sender_ne {begun : Moment} {every : Duration} {pinged : List Moment}
    (h : InStep begun every pinged c) {sender : Sender} (hidle : sender ≠ .idle)
    (hwriting : ∀ out deadline, sender ≠ .writing out false deadline) : c.sender ≠ sender := by
  intro is
  rcases h.looping with his | ⟨out, deadline, his⟩
  · exact hidle (is.symm.trans his)
  · exact hwriting out deadline (is.symm.trans his)

/-- As long as the receiver runs, the pings that were due have been written; and the sender goes on
with them unless the connection is cancelled. -/
structure Beats (begun : Moment) (every : Duration) (pinged : List Moment) (c : Connection σ) :
    Prop where
  written : c.receiving = true →
    ∀ n, scheduled begun every n < c.now → scheduled begun every n ∈ pinged
  stage : c.link.cancelled = true ∨ InStep begun every pinged c
  ended : c.session.isEnded = true → c.link.cancelled = true

variable {pinged : List Moment}

/-- A move of another task. -/
lemma Beats.of_same (h : Beats begun every pinged c) {moved : Moved σ}
    (hsender : moved.1.sender = c.sender) (hnext : moved.1.nextPing = c.nextPing)
    (hnow : moved.1.now = c.now) (hreceiving : moved.1.receiving = true → c.receiving = true)
    (hcancelled : c.link.cancelled = true → moved.1.link.cancelled = true)
    (hover : moved.1.session.isEnded = true → moved.1.link.cancelled = true)
    (hpings : pingedIn c.now moved.2 = []) :
    Beats begun every (pinged ++ pingedIn c.now moved.2) moved.1 := by
  rw [hpings, List.append_nil]
  refine ⟨?_, ?_, hover⟩
  · rw [hnow]
    exact fun hrunning => h.written (hreceiving hrunning)
  · refine h.stage.imp hcancelled fun hstep => ⟨?_, ?_⟩
    · rw [hsender]
      exact hstep.looping
    · rw [hsender, hnext, hnow]
      exact hstep.schedule

/-- A move of the sender, by what becomes of its schedule. -/
lemma Beats.of_apart (h : Beats begun every pinged c) {moved : Moved σ} (hapart : Apart c moved)
    (hstage : moved.1.link.cancelled = true ∨
      InStep begun every (pinged ++ pingedIn c.now moved.2) moved.1) :
    Beats begun every (pinged ++ pingedIn c.now moved.2) moved.1 where
  written := by
    intro hrunning n hdue
    rw [hapart.receiving] at hrunning
    rw [hapart.now] at hdue
    exact List.mem_append_left _ (h.written hrunning n hdue)
  stage := hstage
  ended := fun hover => hapart.cancelled (h.ended (hapart.session ▸ hover))

/-- The sender keeps its schedule: it pings when a ping is due, and is not busy for any time. -/
lemma beats_sends {moved : Moved σ} (h : Beats begun c.liveness.pingEvery pinged c)
    (hsends : Sends c moved) :
    Beats begun c.liveness.pingEvery (pinged ++ pingedIn c.now moved.2) moved.1 := by
  have hapart := hsends.apart
  refine h.of_apart hapart ?_
  rcases h.stage with hcancelled | hstep
  · exact .inl (hapart.cancelled hcancelled)
  obtain ⟨n, hnext, hbefore, hpinged⟩ := hstep.schedule
  cases hsends with
  | cannotStart is => exact .inl rfl
  | flushed deadline is => exact .inl rfl
  | leaves is why =>
      refine .inl (hapart.cancelled ?_)
      rcases why with hcancelled | ⟨-, hover⟩
      · exact hcancelled
      · exact h.ended hover
  | takes is text queued =>
      refine .inr ⟨.inr ⟨_, _, rfl⟩, n, hnext, hbefore, fun k hk => .inl ?_⟩
      rw [is] at hpinged
      refine List.mem_append_left _ ((hpinged k hk).resolve_right ?_)
      exact fun hhand => (nomatch hhand.1)
  | pings is due =>
      have hdue : c.nextPing = c.now := Int.le_antisymm due hbefore
      refine .inr ⟨.inr ⟨_, _, rfl⟩, n + 1, ?_, ?_, fun k hk => ?_⟩
      · show c.nextPing.after c.liveness.pingEvery = _
        rw [hnext, scheduled_after]
      · exact Moment.le_after hbefore c.liveness.pingEvery
      · rw [is] at hpinged
        rcases Nat.lt_succ_iff_lt_or_eq.mp hk with hearlier | rfl
        · refine .inl (List.mem_append_left _ ((hpinged k hearlier).resolve_right ?_))
          exact fun hhand => (nomatch hhand.1)
        · refine .inr ⟨List.mem_singleton_self _, ?_⟩
          rw [← hnext, hdue]
          rfl
  | wrote out deadline is =>
      rw [is] at hpinged
      refine .inr ⟨.inl rfl, n, hnext, hbefore, fun k hk => .inl ?_⟩
      rcases hpinged k hk with hearlier | ⟨hhand, hnow⟩
      · exact List.mem_append_left _ hearlier
      · cases List.mem_singleton.mp hhand
        rw [hnow]
        exact List.mem_append_right _ (List.mem_singleton_self _)
  | wroteLeaving out deadline is | wroteClose deadline is =>
      exact absurd is (hstep.sender_ne (by simp) (by simp))

/-- A writing that fails cancels the connection, and the schedule with it. -/
lemma beats_loses {moved : Moved σ} (h : Beats begun every pinged c) (hloses : Loses c moved) :
    Beats begun every (pinged ++ pingedIn c.now moved.2) moved.1 := by
  refine h.of_apart hloses.apart ?_
  cases hloses with
  | message => exact .inl rfl
  | rest => exact .inl rfl
  | close deadline is =>
      rcases h.stage with hcancelled | hstep
      · exact .inl hcancelled
      · exact absurd is (hstep.sender_ne (by simp) (by simp))

/-- When time passes, the sender waits and its next ping is not due before. -/
lemma InStep.waits {session : Session ρ σ} {shared : ρ} {time : Duration}
    (h : InStep begun every pinged c)
    (hprompt : IsPrompt unhesitating session shared c (.elapse time)) :
    time = 0 ∨ c.sender = .idle ∧ c.now.after time ≤ c.nextPing := by
  rcases h.looping with his | ⟨out, deadline, his⟩
  · obtain ⟨-, -, hbefore, -⟩ := h.schedule
    have hping : .ping ∈ unhesitating := by decide
    refine .inr ⟨his, hprompt.after_le hping hbefore fun passed hdue => ?_⟩
    have his' : (c.idleFor passed).sender = .idle := his
    rw [isPossible_ping session shared his']
    exact decide_eq_true hdue
  · refine .inl (hprompt.eq_zero (m := .written) (by decide) ?_)
    apply isPossible_written
    rw [his]
    exact Option.some_ne_none deadline

/-- Time passes up to the next ping. -/
lemma beats_elapses {session : Session ρ σ} {shared : ρ} (h : Beats begun every pinged c)
    {time : Duration} (hprompt : IsPrompt unhesitating session shared c (.elapse time)) :
    Beats begun every pinged { c with now := c.now.after time } := by
  have hinstant : time = 0 → ({ c with now := c.now.after time } : Connection σ) = c := by
    rintro rfl
    rw [Moment.after_zero]
  refine ⟨fun hrunning n hdue => ?_, ?_, h.ended⟩
  · rcases h.stage with hover | hbeats
    · -- Once the connection is cancelled the receiver can stop.
      have hhalts : isPossible session shared c .halt = true := by
        rw [isPossible_halt, hrunning, hover]
        rfl
      rw [hinstant (hprompt.eq_zero (by decide) hhalts)] at hdue
      exact h.written hrunning n hdue
    · rcases hbeats.waits hprompt with hnone | ⟨his, hbefore⟩
      · rw [hinstant hnone] at hdue
        exact h.written hrunning n hdue
      · obtain ⟨-, next, hnext, -, hpinged⟩ := hbeats
        rw [his] at hpinged
        have hearlier : scheduled begun every n < scheduled begun every next := by
          rw [← hnext]
          exact Int.lt_of_lt_of_le hdue hbefore
        exact (hpinged n (lt_of_scheduled_lt hearlier)).resolve_right fun hhand => (nomatch hhand.1)
  · refine h.stage.imp (fun hover => hover) fun hbeats => ?_
    rcases hbeats.waits hprompt with hnone | ⟨his, hbefore⟩
    · rw [hinstant hnone]
      exact hbeats
    · obtain ⟨hlooping, next, hnext, -, hpinged⟩ := hbeats
      refine ⟨hlooping, next, hnext, hbefore, fun k hk => .inl ?_⟩
      rw [his] at hpinged
      exact (hpinged k hk).resolve_right fun hhand => (nomatch hhand.1)

/-- Whatever moves, the pings that are due are written, as long as no task is late. -/
lemma beats_goes {session : Session ρ σ} {shared : ρ} {m : Move} {moved : Moved σ}
    (h : Beats begun c.liveness.pingEvery pinged c) (hgoes : Goes c m moved)
    (hprompt : IsPrompt unhesitating session shared c m) :
    Beats begun c.liveness.pingEvery (pinged ++ pingedIn c.now moved.2) moved.1 := by
  cases hgoes with
  | sender is sends => exact beats_sends h sends
  | loss is loses => exact beats_loses h loses
  | session running works =>
      cases works with
      | ends => exact h.of_same rfl rfl rfl (fun h => h) (fun _ => rfl) (fun _ => rfl) rfl
      | readsNothing | reads | isRefused | isAccepted | shows | sleeps | goesOn =>
          exact h.of_same rfl rfl rfl (fun h => h) (fun h => h) (fun h => (nomatch h)) rfl
  | hears inbound running hears =>
      cases hears with
      | ends =>
          exact h.of_same rfl rfl rfl (fun h => (nomatch h)) (fun _ => rfl) (fun _ => rfl) rfl
      | pong | ping | drops | queues =>
          exact h.of_same rfl rfl rfl (fun h => h) (fun h => h) h.ended rfl
  | halts | expires =>
      exact h.of_same rfl rfl rfl (fun h => (nomatch h)) (fun _ => rfl) (fun _ => rfl) rfl
  | closing | cancels =>
      exact h.of_same rfl rfl rfl (fun h => h) (fun _ => rfl) (fun _ => rfl) rfl
  | nowhere | closed => exact h.of_same rfl rfl rfl (fun h => h) (fun h => h) h.ended rfl
  | elapses time =>
      have hbeats := beats_elapses h hprompt
      rw [← List.append_nil pinged] at hbeats
      exact hbeats

/-! ## Pings and pongs together -/

/-- The ping that followed the last pong is answered before the deadline that this pong has set. -/
lemma before_deadline {liveness : Liveness} (hping : 0 < liveness.pingEvery)
    (hpong : liveness.pingEvery < liveness.pongWithin)
    (hheard : HeardOf liveness.pongWithin begun arrived c)
    (hbeats : Beats begun liveness.pingEvery pinged c) (hreceiving : c.receiving = true)
    (hanswers : ∀ ping ∈ pinged, ping.after liveness.answerWithin ≤ c.now →
      ∃ pong ∈ pongs arrived, ping ≤ pong ∧ pong < ping.after liveness.answerWithin) :
    c.now < c.deadline := by
  by_contra hlate
  obtain ⟨last, hlast, hbegun, -, hpongs⟩ := hheard.last
  obtain ⟨n, hafter, hsoon⟩ := exists_scheduled hping hbegun
  have hsum : liveness.pingEvery + liveness.answerWithin = liveness.pongWithin :=
    Nat.add_sub_of_le (Nat.le_of_lt hpong)
  have hanswer : (scheduled begun liveness.pingEvery n).after liveness.answerWithin ≤ c.now :=
    calc (scheduled begun liveness.pingEvery n).after liveness.answerWithin
        ≤ (last.after liveness.pingEvery).after liveness.answerWithin :=
          Int.add_le_add_right hsoon _
      _ = last.after liveness.pongWithin := by
          rw [← hsum]
          exact (Int.add_assoc _ _ _).trans (congrArg _ (Int.natCast_add _ _).symm)
      _ = c.deadline := hlast.symm
      _ ≤ c.now := Int.not_lt.mp hlate
  have hdue : scheduled begun liveness.pingEvery n < c.now :=
    Int.lt_of_lt_of_le (Int.lt_add_of_pos_right _ (Int.ofNat_lt.mpr (Nat.sub_pos_of_lt hpong)))
      hanswer
  obtain ⟨pong, hmem, hle, -⟩ := hanswers _ (hbeats.written hreceiving n hdue) hanswer
  exact absurd (hpongs hreceiving pong hmem) (Int.not_le.mpr (Int.lt_of_lt_of_le hafter hle))

section runs

variable {session : Session ρ σ} {liveness : Liveness}

/-- The pings of a course, one move at a time. -/
lemma pings_concat (shared : ρ) (c : Connection σ) (moves : List Move) (m : Move) :
    pings session shared c (moves ++ [m]) = pings session shared c moves ++
      pingedIn (reached session shared c moves).now
        (step session (run session shared c moves).1 (reached session shared c moves) m).2.2 := by
  unfold pings
  rw [timed_concat, List.filterMap_append, List.filterMap_map]
  rfl

/-- Throughout a course without hesitation the deadline belongs to the last pong. -/
lemma heardOf_run (h : HeardOf c.liveness.pongWithin c.now [] c) (shared : ρ) (moves : List Move)
    (hprompt : AllAlong (IsPrompt unhesitating session) session shared c moves) :
    HeardOf c.liveness.pongWithin c.now (arrivals c.now moves)
      (reached session shared c moves) := by
  induction moves using List.reverseRecOn with
  | nil => exact h
  | append_singleton moves m ih =>
      rw [allAlong_concat] at hprompt
      have hbefore := ih hprompt.1
      rw [← liveness_reached session shared c moves] at hbefore ⊢
      rw [arrivals_concat, reached_concat, ← now_reached session shared]
      refine heardOf_goes hbefore (fun x hmem => ?_) ?_ (goes_step session _ _ m) hprompt.2
      · rw [now_reached]
        exact le_clock_of_mem_arrivals hmem
      · rw [now_reached]
        exact le_clock c.now moves

/-- Throughout such a course the pings that were due have been written. -/
lemma beats_run (h : Beats begun c.liveness.pingEvery [] c) (shared : ρ) (moves : List Move)
    (hprompt : AllAlong (IsPrompt unhesitating session) session shared c moves) :
    Beats begun c.liveness.pingEvery (pings session shared c moves)
      (reached session shared c moves) := by
  induction moves using List.reverseRecOn with
  | nil => exact h
  | append_singleton moves m ih =>
      rw [allAlong_concat] at hprompt
      have hbefore := ih hprompt.1
      rw [← liveness_reached session shared c moves] at hbefore ⊢
      rw [pings_concat, reached_concat]
      exact beats_goes hbefore (goes_step session _ _ m) hprompt.2

/-- The deadline of a connection whose peer sent no pong is the one it began with. -/
lemma HeardOf.deadline_of_silent {pongWithin : Duration} (h : HeardOf pongWithin begun arrived c)
    (hsilent : pongs arrived = []) : c.deadline = begun.after pongWithin := by
  obtain ⟨last, hlast, -, hmem, -⟩ := h.last
  rw [hsilent] at hmem
  rw [hlast, hmem.resolve_right List.not_mem_nil]

variable {shared : ρ} {moves : List Move}

/-- When every ping is answered in time, a pong came late enough for the deadline not to have
come. -/
lemma before_deadline_of_isResponsive (hping : 0 < c.liveness.pingEvery)
    (hpong : c.liveness.pingEvery < c.liveness.pongWithin)
    (hheard : HeardOf c.liveness.pongWithin c.now [] c)
    (hbeats : Beats c.now c.liveness.pingEvery [] c)
    (hprompt : AllAlong (IsPrompt unhesitating session) session shared c moves)
    (hresponsive : IsResponsive session shared c moves) {before later : List Move}
    (hmoves : moves = before ++ later)
    (hrunning : (reached session shared c before).receiving = true) :
    clock c.now before < (reached session shared c before).deadline := by
  rw [hmoves, allAlong_append] at hprompt
  have hpongs := heardOf_run hheard shared before hprompt.1
  have hpings := beats_run hbeats shared before hprompt.1
  rw [← now_reached session shared]
  refine before_deadline hping hpong hpongs hpings hrunning fun ping hmem hdue => ?_
  rw [now_reached] at hdue
  exact hresponsive before later hmoves hrunning ping hmem hdue

/-- Whoever is presumed gone has let the deadline come. -/
lemma exists_of_silent_mem_endings {time : Moment}
    (hmem : (time, .silent) ∈ endings session shared c moves) :
    ∃ before later, moves = before ++ later ∧ time = clock c.now before ∧
      (reached session shared c before).receiving = true ∧
      (reached session shared c before).deadline ≤ clock c.now before := by
  obtain ⟨before, m, later, hmoves, hclock, hends⟩ := exists_of_mem_endings shared hmem
  obtain ⟨hrunning, -, hdue⟩ := holds_of_receiverEnded (goes_step session _ _ m) hends
  have hlate := hdue rfl
  rw [now_reached] at hlate
  exact ⟨before, m :: later, hmoves, hclock, hrunning, hlate⟩

/-- Without a pong the deadline stands where it stood at first, and the receiver ends there. -/
lemma eq_of_silent_mem_endings (hheard : HeardOf c.liveness.pongWithin c.now [] c)
    (hprompt : AllAlong (IsPrompt unhesitating session) session shared c moves)
    (hnone : pongs (arrivals c.now moves) = []) {time : Moment}
    (hmem : (time, .silent) ∈ endings session shared c moves) :
    time = c.now.after c.liveness.pongWithin := by
  obtain ⟨before, later, rfl, hclock, hrunning, hdue⟩ := exists_of_silent_mem_endings hmem
  rw [allAlong_append] at hprompt
  rw [arrivals_append, pongs_append, List.append_eq_nil_iff] at hnone
  have hbefore := heardOf_run hheard shared before hprompt.1
  have hinTime := hbefore.inTime hrunning
  rw [now_reached] at hinTime
  rw [hclock, ← hbefore.deadline_of_silent hnone.1]
  exact Int.le_antisymm hinTime hdue

/-- A connection whose peer sends no pong, and whose receiver ends for no other reason. -/
lemma gone_of_silent (hheard : HeardOf c.liveness.pongWithin c.now [] c)
    (hended : HasEnded [] c)
    (hprompt : AllAlong (IsPrompt unhesitating session) session shared c moves)
    (hnone : pongs (arrivals c.now moves) = [])
    (hwhy : ∀ last ∈ endings session shared c moves, last.2 = .silent) :
    (clock c.now moves < c.now.after c.liveness.pongWithin →
      endings session shared c moves = [] ∧
        (reached session shared c moves).receiving = true) ∧
    (c.now.after c.liveness.pongWithin < clock c.now moves →
      endings session shared c moves = [(c.now.after c.liveness.pongWithin, .silent)] ∧
        (reached session shared c moves).link.cancelled = true) := by
  have hrun := heardOf_run hheard shared moves hprompt
  have hends := hasEnded_run hended session shared moves
  rw [← now_reached session shared c moves]
  rcases hrunning : (reached session shared c moves).receiving with _ | _
  · -- The only end there can be, and the time at which it was.
    obtain ⟨hcancelled, ⟨time, why⟩, hlast, hpast⟩ := hends.stopped hrunning
    have hmem : (time, why) ∈ endings session shared c moves := by
      rw [hlast]
      exact List.mem_singleton_self _
    obtain rfl : why = .silent := hwhy _ hmem
    obtain rfl := eq_of_silent_mem_endings hheard hprompt hnone hmem
    exact ⟨fun hsoon => absurd hpast (Int.not_le.mpr hsoon), fun _ => ⟨hlast, hcancelled⟩⟩
  · have hinTime := hrun.inTime hrunning
    rw [hrun.deadline_of_silent hnone] at hinTime
    exact ⟨fun _ => ⟨hends.running hrunning, rfl⟩,
      fun hlate => absurd hinTime (Int.not_le.mpr hlate)⟩

end runs

/-! ## What is expected -/

/-- The first deadline counts from the beginning. -/
lemma heardOf_start (liveness : Liveness) (identifier : Identifier) (link : Link) (now : Moment)
    (state : σ) :
    HeardOf liveness.pongWithin now [] (start liveness identifier link now state) where
  inTime := fun _ => Moment.le_after (Int.le_refl now) liveness.pongWithin
  last := ⟨now, rfl, Int.le_refl now, .inl rfl, fun _ _ hmem => (nomatch hmem)⟩

/-- At the beginning no ping is due. -/
lemma beats_start {liveness : Liveness} (hping : 0 < liveness.pingEvery) (identifier : Identifier)
    (link : Link) (now : Moment) (state : σ) :
    Beats now liveness.pingEvery [] (start liveness identifier link now state) where
  written := by
    intro _ n hdue
    exact absurd hdue (Int.not_lt.mpr (Moment.le_after (Int.le_refl now) _))
  stage := by
    refine .inr ⟨.inl (if_neg (Nat.ne_of_gt hping)), 0, ?_, ?_, fun k hk => (nomatch hk)⟩
    · unfold scheduled
      rw [Nat.zero_add, Nat.one_mul]
      rfl
    · exact Moment.le_after (Int.le_refl now) liveness.pingEvery
  ended := fun hover => (nomatch hover)

/-- **A peer that answers is kept, and one that is silent is not.**  Let pings be more frequent than
the deadline asks for, and no time pass while the receiver can end, a ping can be sent or what is in
hand can be written.  Then a peer that answers each ping in time is kept, whatever else it sends and
whatever the session does; and a peer that sends no pong is presumed gone at the time that is set,
whatever else it sends. -/
theorem peer_minded {liveness : Liveness} (hping : 0 < liveness.pingEvery)
    (hpong : liveness.pingEvery < liveness.pongWithin) (session : Session ρ σ) (shared : ρ)
    (identifier : Identifier) (link : Link) (now : Moment) (state : σ) {moves : List Move}
    (hprompt : AllAlong (IsPrompt unhesitating session) session shared
      (start liveness identifier link now state) moves) :
    Minds session shared (start liveness identifier link now state) moves := by
  have hheard := heardOf_start liveness identifier link now state
  have hbeats := beats_start hping identifier link now state
  have hended := hasEnded_start liveness identifier link now state
  refine ⟨fun hresponsive => ?_, fun hnone time hmem => ?_, fun hnone hwhy => ?_⟩
  · have hkept : ∀ before later, moves = before ++ later →
        (reached session shared (start liveness identifier link now state) before).receiving
          = true →
        clock now before <
          (reached session shared (start liveness identifier link now state) before).deadline :=
      fun before later hmoves hrunning =>
        before_deadline_of_isResponsive hping hpong hheard hbeats hprompt hresponsive hmoves
          hrunning
    refine ⟨hkept, fun time hmem => ?_⟩
    obtain ⟨before, later, hmoves, -, hrunning, hdue⟩ := exists_of_silent_mem_endings hmem
    exact absurd hdue (Int.not_le.mpr (hkept before later hmoves hrunning))
  · exact eq_of_silent_mem_endings hheard hprompt hnone hmem
  · exact gone_of_silent hheard hended hprompt hnone hwhy

instance IsResponsive.decidable (session : Session ρ σ) (shared : ρ) (c : Connection σ)
    (moves : List Move) : Decidable (IsResponsive session shared c moves) :=
  decidable_of_iff
    (∀ before ∈ moves.inits, (reached session shared c before).receiving = true →
      ∀ ping ∈ pings session shared c before,
        ping.after c.liveness.answerWithin ≤ clock c.now before →
          ∃ pong ∈ pongs (arrivals c.now before),
            ping ≤ pong ∧ pong < ping.after c.liveness.answerWithin)
    ⟨fun h before later hmoves => h before ((List.mem_inits _ _).mpr ⟨later, hmoves.symm⟩),
      fun h before hmem =>
        let ⟨later, hmoves⟩ := (List.mem_inits _ _).mp hmem
        h before later hmoves.symm⟩

/-- Pings every two moments and a deadline of five: when each ping is answered after two moments
the connection goes on, and when none is it does not, though the peer says something else. -/
theorem peer_minded_reader :
    let liveness : Liveness := ⟨2, 5, 1, 10⟩
    let begun := start liveness ⟨[]⟩ .fresh 0 ()
    let lively := [.elapse 2, .ping, .written, .receive (.message (.text "still here")), .elapse 2,
      .receive (.message (.pong [])), .ping, .written, .elapse 2, .receive (.message (.pong [])),
      .ping, .written, .elapse 1]
    let quiet := [.elapse 2, .ping, .written, .receive (.message (.text "still here")), .elapse 2,
      .ping, .written, .elapse 1, .expire, .elapse 1]
    0 < liveness.pingEvery ∧ liveness.pingEvery < liveness.pongWithin ∧
      (AllAlong (IsPrompt unhesitating reader) reader () begun lively ∧
        IsResponsive reader () begun lively ∧
        Minds reader () begun lively ∧ endings reader () begun lively = []) ∧
      (AllAlong (IsPrompt unhesitating reader) reader () begun quiet ∧
        pongs (arrivals 0 quiet) = [] ∧
        Minds reader () begun quiet ∧ endings reader () begun quiet = [(5, .silent)]) := by
  intro liveness begun lively quiet
  have hping : 0 < liveness.pingEvery := by decide
  have hpong : liveness.pingEvery < liveness.pongWithin := by decide
  have hlively : AllAlong (IsPrompt unhesitating reader) reader () begun lively := by decide +kernel
  have hquiet : AllAlong (IsPrompt unhesitating reader) reader () begun quiet := by decide +kernel
  have hresponsive : IsResponsive reader () begun lively := by decide +kernel
  refine ⟨hping, hpong, ⟨hlively, hresponsive, ?_, ?_⟩, hquiet, rfl, ?_, ?_⟩
  · exact peer_minded hping hpong reader () ⟨[]⟩ .fresh 0 () hlively
  · decide +kernel
  · exact peer_minded hping hpong reader () ⟨[]⟩ .fresh 0 () hquiet
  · decide +kernel

end KeyDirectory.Connection
