import KeyDirectory.Proofs.Connection.Phases
import KeyDirectory.Proofs.Upload.Hall
import Mathlib.Data.List.Induction
import Mathlib.Data.List.Perm.Subperm

/-!
# The order of the phases

The session and the joiner of a connection show its phases without asking each other.  Each keeps
to its own order, so no phase shows twice and the last one ends the list; together they keep to the
order of all phases exactly as long as the session shows nothing once the joiner has begun.

* `Stage.ahead`, `joinerAhead`: what each of the two has still to show.
* `Shows`, `InLine`: the invariants, of every connection and of one that keeps to the order.
* `Hall.Affects`: what a turn can be to one connection of the hall.
* `phases_inOrder_iff`: the result.
-/

namespace KeyDirectory.Upload

open Connection

/-! ## What is still to be shown -/

/-- The phases that a session has still to show, from a stage on. -/
def Stage.ahead : Stage → List Phase
  | arriving => [.awaitingKey, .registered]
  | awaitingKey | registering _ | registered _ => [.registered]
  | telling _ | holding _ | revoking _ | leaving => []

/-- The same, wherever the task of the session stands. -/
def sessionAhead : Standing Stage → List Phase
  | .running stage | .sleeping _ stage => stage.ahead
  | .ended => []

/-- The phases that the joiner has still to show. -/
def joinerAhead : Joiner → List Phase
  | .watching => [.closing, .closed]
  | .closing => [.closed]
  | .done => []

/-- A call other than to show a phase shows nothing, and leads to no stage with more to show. -/
lemma makeCall_hushed {desk desk' : Desk} {c : Connection Stage} {moved : Moved Stage}
    {stage : Stage} (harriving : stage ≠ .arriving)
    (hregistered : ∀ lease, stage ≠ .registered lease)
    (hcall : makeCall desk c stage.call = some (desk', moved)) :
    moved.1.joiner = c.joiner ∧ moved.2.filterMap shown? = [] ∧
      (sessionAhead moved.1.session).Sublist stage.ahead := by
  cases stage with
  | arriving => exact absurd rfl harriving
  | registered lease => exact absurd rfl (hregistered lease)
  | awaitingKey =>
      unfold Stage.call makeCall at hcall
      dsimp only at hcall
      split_ifs at hcall
      · cases hcall
        exact ⟨rfl, rfl, List.nil_sublist _⟩
      · obtain ⟨line, -, heq⟩ := Option.map_eq_some_iff.mp hcall
        cases heq
        refine ⟨rfl, rfl, ?_⟩
        show (Stage.ofMessage line).ahead.Sublist _
        unfold Stage.ofMessage
        split
        · exact List.Sublist.refl _
        · exact List.nil_sublist _
  | registering key =>
      unfold Stage.call makeCall at hcall
      dsimp only at hcall
      split at hcall
      · cases hcall
        exact ⟨rfl, rfl, List.Sublist.refl _⟩
      · cases hcall
        exact ⟨rfl, rfl, List.nil_sublist _⟩
  | telling lease =>
      unfold Stage.call makeCall at hcall
      dsimp only at hcall
      split_ifs at hcall <;> cases hcall <;> exact ⟨rfl, rfl, List.nil_sublist _⟩
  | holding lease =>
      unfold Stage.call makeCall at hcall
      dsimp only at hcall
      split_ifs at hcall
      cases hcall
      exact ⟨rfl, rfl, List.nil_sublist _⟩
  | revoking lease =>
      cases hcall
      exact ⟨rfl, rfl, List.nil_sublist _⟩
  | leaving =>
      cases hcall
      exact ⟨rfl, rfl, List.nil_sublist _⟩

/-! ## What a move shows -/

/-- The ways in which a move can show something: not at all, and then the session has no more to
show than before; or the session shows one of its phases, or the joiner one of its own. -/
inductive Announces (c : Connection Stage) (m : Move) (c' : Connection Stage) : List Phase → Prop
  | nothing (session : (sessionAhead c'.session).Sublist (sessionAhead c.session))
    (ended : c.session = .ended → c'.session = .ended) (joiner : c'.joiner = c.joiner) :
    Announces c m c' []
  | awaitingKey (is : m = .work) (before : c.session = .running .arriving)
    (after : c'.session = .running .awaitingKey) (joiner : c'.joiner = c.joiner) :
    Announces c m c' [.awaitingKey]
  | registered (is : m = .work) (lease : Lease)
    (before : c.session = .running (.registered lease))
    (after : c'.session = .running (.telling lease)) (joiner : c'.joiner = c.joiner) :
    Announces c m c' [.registered]
  | closing (before : c.joiner = .watching) (after : c'.joiner = .closing)
    (session : c'.session = c.session) : Announces c m c' [.closing]
  | closed (before : c.joiner = .closing) (after : c'.joiner = .done)
    (ended : c.session = .ended) (session : c'.session = c.session) : Announces c m c' [.closed]

/-- A hushed move announces nothing, and what is still ahead stays ahead. -/
lemma Announces.of_hushed {c : Connection Stage} {moved : Moved Stage} (h : Hushed c moved)
    (m : Move) : Announces c m moved.1 (moved.2.filterMap shown?) := by
  rw [h.shown]
  refine .nothing ?_ (fun hended => h.session.trans hended) h.joiner
  rw [h.session]

/-- The session shows that it awaits a key, or that it has registered one, or nothing. -/
lemma announces_work (desk : Desk) (c : Connection Stage) :
    Announces c .work (step session desk c .work).2.1
      ((step session desk c .work).2.2.filterMap shown?) := by
  have hstill : Announces c .work c [] := .nothing (List.Sublist.refl _) id rfl
  unfold step step? work?
  rcases hsession : c.session with stage | ⟨wake, stage⟩ | _
  · by_cases harriving : stage = .arriving
    · subst harriving
      exact .awaitingKey rfl hsession rfl rfl
    by_cases hregistered : ∃ lease, stage = .registered lease
    · obtain ⟨lease, rfl⟩ := hregistered
      exact .registered rfl lease hsession rfl rfl
    · show Announces c .work (Option.getD (makeCall desk c stage.call) (desk, c, [])).2.1
        ((Option.getD (makeCall desk c stage.call) (desk, c, [])).2.2.filterMap shown?)
      rcases hcall : makeCall desk c stage.call with _ | ⟨desk', moved⟩
      · exact hstill
      · obtain ⟨hjoiner, hshown, hahead⟩ :=
          makeCall_hushed harriving (fun lease heq => hregistered ⟨lease, heq⟩) hcall
        rw [Option.getD_some, hshown]
        refine .nothing ?_ ?_ hjoiner <;> rw [hsession]
        · exact hahead
        · intro hended
          cases hended
  · dsimp only
    split_ifs
    · refine .nothing ?_ ?_ rfl <;> rw [hsession]
      · exact List.Sublist.refl _
      · intro hended
        cases hended
    · exact hstill
  · exact hstill

/-- The joiner shows one of its two phases, or nothing. -/
lemma announces_join (desk : Desk) (c : Connection Stage) :
    Announces c .join (step session desk c .join).2.1
      ((step session desk c .join).2.2.filterMap shown?) := by
  rcases join_cases session desk c with hmoved | ⟨hjoiner, hmoved⟩ | ⟨hjoiner, hended, hmoved⟩
  · rw [hmoved]
    exact .nothing (List.Sublist.refl _) id rfl
  · rw [hmoved]
    exact .closing hjoiner rfl rfl
  · rw [hmoved]
    exact .closed hjoiner rfl hended rfl

/-- Whatever the move, it shows something in one of these ways. -/
lemma announces_step (desk : Desk) (c : Connection Stage) (m : Move) :
    Announces c m (step session desk c m).2.1 ((step session desk c m).2.2.filterMap shown?) := by
  by_cases hwork : m = .work
  · subst hwork
    exact announces_work desk c
  by_cases hjoin : m = .join
  · subst hjoin
    exact announces_join desk c
  · exact .of_hushed (hushed_step hwork hjoin desk c) m

/-! ## The invariant of every connection -/

/-- What a connection has shown, and what its session and its joiner have still to show, are phases
each once.  The joiner has shown what it has to; when it is done, so is the session, and the
connection has shown last that it is closed. -/
structure Shows (c : Connection Stage) (shown : List Phase) : Prop where
  once : (shown ++ (sessionAhead c.session ++ joinerAhead c.joiner)).Subperm Phase.inOrder
  closing : c.joiner ≠ .watching → .closing ∈ shown
  closed : c.joiner = .done → c.session = .ended ∧ shown.getLast? = some .closed

/-- What shows was ahead. -/
lemma Announces.subperm {c c' : Connection Stage} {m : Move} {shown : List Phase}
    (h : Announces c m c' shown) :
    (shown ++ (sessionAhead c'.session ++ joinerAhead c'.joiner)).Subperm
      (sessionAhead c.session ++ joinerAhead c.joiner) := by
  cases h with
  | nothing session ended joiner =>
      rw [joiner, List.nil_append]
      exact (session.append_right _).subperm
  | awaitingKey is before after joiner =>
      rw [before, after, joiner]
      exact List.Subperm.refl _
  | registered is lease before after joiner =>
      rw [before, after, joiner]
      exact List.Subperm.refl _
  | closing before after session =>
      have hmiddle : (sessionAhead c.session ++ Phase.closing :: [.closed]).Perm
          (.closing :: (sessionAhead c.session ++ [.closed])) := List.perm_middle
      rw [before, after, session]
      exact hmiddle.symm.subperm
  | closed before after ended session =>
      rw [before, after, session, ended]
      exact List.Subperm.refl _

/-- Whatever the move, the invariant holds of what has shown with what it shows. -/
lemma Shows.of_announces {c c' : Connection Stage} {m : Move} {shown more : List Phase}
    (h : Shows c shown) (hmore : Announces c m c' more) : Shows c' (shown ++ more) := by
  have honce : (shown ++ more ++ (sessionAhead c'.session ++ joinerAhead c'.joiner)).Subperm
      Phase.inOrder := by
    rw [List.append_assoc]
    exact ((List.subperm_append_left shown).mpr hmore.subperm).trans h.once
  -- A session that is over shows nothing more, so what shows last stays the last.
  have hover : ∀ {stage}, c.session = .running stage → c.joiner ≠ .done := by
    intro stage hsession hdone
    have hended := (h.closed hdone).1
    rw [hsession] at hended
    cases hended
  refine ⟨honce, ?_, ?_⟩
  · intro hnot
    cases hmore with
    | closing before after session => exact List.mem_append_right _ List.mem_cons_self
    | nothing session ended joiner => exact List.mem_append_left _ (h.closing (joiner ▸ hnot))
    | awaitingKey is before after joiner => exact List.mem_append_left _ (h.closing (joiner ▸ hnot))
    | registered is lease before after joiner =>
        exact List.mem_append_left _ (h.closing (joiner ▸ hnot))
    | closed before after ended session =>
        exact List.mem_append_left _ (h.closing (by rw [before]; simp))
  · intro hdone
    cases hmore with
    | nothing session ended joiner =>
        rw [joiner] at hdone
        rw [List.append_nil]
        exact ⟨ended (h.closed hdone).1, (h.closed hdone).2⟩
    | awaitingKey is before after joiner => exact absurd (joiner ▸ hdone) (hover before)
    | registered is lease before after joiner => exact absurd (joiner ▸ hdone) (hover before)
    | closing before after session =>
        rw [after] at hdone
        cases hdone
    | closed before after ended session =>
        exact ⟨session.trans ended, List.getLast?_concat⟩

/-- No phase shows twice, and none that has shown is still ahead. -/
lemma Shows.nodup {c : Connection Stage} {shown : List Phase} (h : Shows c shown) :
    (shown ++ (sessionAhead c.session ++ joinerAhead c.joiner)).Nodup := by
  obtain ⟨some, hperm, hsublist⟩ := h.once
  exact hperm.nodup_iff.mp (hsublist.nodup (by decide))

/-- Once it has shown that it is closed, a connection shows nothing more. -/
lemma Shows.getLast?_eq {c : Connection Stage} {shown : List Phase} (h : Shows c shown)
    (hclosed : .closed ∈ shown) : shown.getLast? = some .closed := by
  have hnotAhead : .closed ∉ joinerAhead c.joiner := fun hahead =>
    (List.nodup_append.mp h.nodup).2.2 _ hclosed _ (List.mem_append_right _ hahead) rfl
  rcases hjoiner : c.joiner with _ | _ | _
  · rw [hjoiner] at hnotAhead
    exact absurd (by decide) hnotAhead
  · rw [hjoiner] at hnotAhead
    exact absurd (by decide) hnotAhead
  · exact (h.closed hjoiner).2

/-! ## The order of the phases of one connection -/

/-- What a connection has to show before it is closed, as long as it keeps to the order: nothing
of its session any more, once its joiner has begun. -/
def due (c : Connection Stage) : List Phase :=
  (if c.joiner = .watching then sessionAhead c.session else []) ++ joinerAhead c.joiner

/-- What a move shows that is not late was due. -/
lemma Announces.sublist_due {c c' : Connection Stage} {m : Move} {shown : List Phase}
    (h : Announces c m c' shown) (hprompt : ¬ AnnouncesLate c m) :
    (shown ++ due c').Sublist (due c) := by
  unfold due
  cases h with
  | nothing session ended joiner =>
      rw [joiner, List.nil_append]
      refine List.Sublist.append_right ?_ _
      split_ifs
      · exact session
      · exact List.Sublist.refl _
  | awaitingKey is before after joiner =>
      have hwatching : c.joiner = .watching := by
        by_contra hnot
        exact hprompt ⟨is, hnot, .inl before⟩
      rw [joiner, if_pos hwatching, if_pos hwatching, before, after]
      exact List.Sublist.refl _
  | registered is lease before after joiner =>
      have hwatching : c.joiner = .watching := by
        by_contra hnot
        exact hprompt ⟨is, hnot, .inr ⟨lease, before⟩⟩
      rw [joiner, if_pos hwatching, if_pos hwatching, before, after]
      exact List.Sublist.refl _
  | closing before after session =>
      rw [before, after, if_pos rfl]
      exact List.sublist_append_right _ _
  | closed before after ended session =>
      rw [before, after]
      exact List.Sublist.refl _

/-- A connection that keeps to the order: what it has shown and what is due are in order. -/
def InLine (c : Connection Stage) (shown : List Phase) : Prop :=
  (shown ++ due c).Sublist Phase.inOrder

/-- A move that is late shows a phase of the session. -/
lemma shown_of_late {c : Connection Stage} {m : Move} (h : AnnouncesLate c m) (desk : Desk) :
    ∃ phase, (phase = .awaitingKey ∨ phase = .registered) ∧
      (step session desk c m).2.2.filterMap shown? = [phase] := by
  obtain ⟨rfl, -, hsession | ⟨lease, hsession⟩⟩ := h
  · refine ⟨.awaitingKey, .inl rfl, ?_⟩
    unfold step step? work?
    rw [hsession]
    rfl
  · refine ⟨.registered, .inr rfl, ?_⟩
    unfold step step? work?
    rw [hsession]
    rfl

/-- A phase of the session that shows after the joiner has begun is out of order. -/
lemma Shows.not_sublist_of_late {c : Connection Stage} {m : Move} {shown : List Phase}
    (h : Shows c shown) (hlate : AnnouncesLate c m) (desk : Desk) (rest : List Phase) :
    ¬ (shown ++ ((step session desk c m).2.2.filterMap shown? ++ rest)).Sublist Phase.inOrder := by
  obtain ⟨phase, hphase, hmore⟩ := shown_of_late hlate desk
  rw [hmore]
  intro hsublist
  have hclosing : [.closing].Sublist shown := List.singleton_sublist.mpr (h.closing hlate.2.1)
  have hpair : [.closing, phase].Sublist Phase.inOrder :=
    (hclosing.append ((List.nil_sublist rest).cons_cons phase)).trans hsublist
  rcases hphase with rfl | rfl <;> revert hpair <;> decide

/-! ## The hall -/

namespace Hall

variable {h : Hall} {i : Nat}

/-- What a turn is to one connection: nothing, or the connection begins, or it moves. -/
inductive Affects (h : Hall) (i : Nat) (turn : Turn) : Prop
  | aside (same : (h.step turn).parties[i]? = h.parties[i]?) (shown : h.shownIn i turn = [])
  | begins (liveness : Liveness) (identifier : Identifier) (link : Link) (now : Moment)
    (before : h.parties[i]? = none)
    (after : (h.step turn).parties[i]? = some (.start liveness identifier link now))
    (shown : h.shownIn i turn = [.connecting, .opened])
  | moves (p : Party) (m : Move) (is : turn = .move i m) (before : h.parties[i]? = some p)
    (after : (h.step turn).parties[i]? = some (p.move h.desk m).2)
    (shown : h.shownIn i turn =
      (Connection.step session h.desk p.connection m).2.2.filterMap shown?)

/-- A turn leaves a connection as it is, or begins it, or is a move of it. -/
lemma affects (h : Hall) (i : Nat) (turn : Turn) : h.Affects i turn := by
  cases turn with
  | enter liveness identifier link now =>
      rcases Nat.lt_trichotomy i h.parties.length with hlt | rfl | hgt
      · refine .aside (List.getElem?_append_left hlt) ?_
        exact if_neg (Nat.ne_of_lt hlt)
      · exact .begins liveness identifier link now (List.getElem?_eq_none (Nat.le_refl _))
          List.getElem?_concat_length (if_pos rfl)
      · refine .aside ?_ (if_neg (Nat.ne_of_gt hgt))
        have hend : (h.step (.enter liveness identifier link now)).parties.length ≤ i := by
          simp only [step, List.length_append, List.length_singleton]
          omega
        rw [List.getElem?_eq_none hend, List.getElem?_eq_none (Nat.le_of_lt hgt)]
  | move j m =>
      rcases hp : h.parties[j]? with _ | p
      · have hstill : h.step (.move j m) = h := by
          unfold step move
          simp only [hp]
        refine .aside (by rw [hstill]) ?_
        simp only [shownIn]
        split_ifs with hj
        · rw [← hj, hp]
        · rfl
      · by_cases hj : j = i
        · subst hj
          refine .moves p m rfl hp ?_ ?_
          · exact (getElem?_move hp m j).trans (if_pos rfl)
          · simp only [shownIn, if_true, hp]
        · refine .aside ?_ (if_neg hj)
          exact (getElem?_move hp m i).trans (if_neg (Ne.symm hj))
  | lookup identity => exact .aside rfl rfl
  | supply today randomness => exact .aside rfl rfl

/-- The phases of a run are those of its first part and then those of its second. -/
lemma phases_append (h : Hall) (i : Nat) (before after : List Turn) :
    phases i h (before ++ after) = phases i h before ++ phases i (h.run before) after := by
  induction before generalizing h with
  | nil => rfl
  | cons turn before ih =>
      rw [List.cons_append, phases, phases, ih, List.append_assoc]
      rfl

/-- One more turn adds the phases it shows. -/
lemma phases_concat (h : Hall) (i : Nat) (turns : List Turn) (turn : Turn) :
    phases i h (turns ++ [turn]) = phases i h turns ++ (h.run turns).shownIn i turn := by
  rw [phases_append, phases, phases, List.append_nil]

/-- A run of one more turn is the run and then the turn. -/
lemma run_concat (h : Hall) (turns : List Turn) (turn : Turn) :
    h.run (turns ++ [turn]) = (h.run turns).step turn := by
  unfold run
  rw [List.foldl_append]
  rfl

/-- Of what a connection has shown since the hall was opened: nothing when it has not begun, and
else something of which `P` holds. -/
def Tells (h : Hall) (i : Nat) (P : Connection Stage → List Phase → Prop) (shown : List Phase) :
    Prop :=
  match h.parties[i]? with
  | none => shown = []
  | some p => P p.connection shown

/-- What holds of a connection that begins, and is kept by its moves, holds after every turn. -/
lemma Tells.step {P : Connection Stage → List Phase → Prop} {shown : List Phase}
    (htells : h.Tells i P shown) (turn : Turn)
    (hbegins : ∀ liveness identifier link now,
      P (.start liveness identifier link now session.start) [.connecting, .opened])
    (hmoves : ∀ p m, turn = .move i m → h.parties[i]? = some p → P p.connection shown →
      P (Connection.step session h.desk p.connection m).2.1 (shown ++
        (Connection.step session h.desk p.connection m).2.2.filterMap shown?)) :
    (h.step turn).Tells i P (shown ++ h.shownIn i turn) := by
  unfold Tells at *
  rcases h.affects i turn with ⟨hsame, hshown⟩ |
    ⟨liveness, identifier, link, now, hbefore, hafter, hshown⟩ |
    ⟨p, m, his, hbefore, hafter, hshown⟩
  · rw [hsame, hshown, List.append_nil]
    exact htells
  · rw [hbefore] at htells
    subst htells
    rw [hafter, hshown]
    exact hbegins liveness identifier link now
  · rw [hbefore] at htells
    rw [hafter, hshown]
    exact hmoves p m his hbefore htells

variable {beginning : String} {today : Timestamp} {randomness : List (List UInt8)}

/-- In every run, what each connection has shown is as the invariant says. -/
lemma tells_run (i : Nat) (turns : List Turn) :
    ((opened beginning today randomness).run turns).Tells i Shows
      (phases i (opened beginning today randomness) turns) := by
  induction turns using List.reverseRecOn with
  | nil => rfl
  | append_singleton turns turn ih =>
      rw [run_concat, phases_concat]
      refine ih.step turn (fun liveness identifier link now => ?_) fun p m his hbefore hshows => ?_
      · exact ⟨List.Subperm.refl _, fun h => absurd rfl h, fun h => (nomatch h)⟩
      · exact hshows.of_announces (announces_step _ p.connection m)

/-- A connection of which no move is late has kept to the order. -/
lemma inLine_run (i : Nat) (turns : List Turn)
    (hprompt : ∀ before m after, turns = before ++ .move i m :: after →
      ∀ p, ((opened beginning today randomness).run before).parties[i]? = some p →
        ¬ AnnouncesLate p.connection m) :
    ((opened beginning today randomness).run turns).Tells i InLine
      (phases i (opened beginning today randomness) turns) := by
  induction turns using List.reverseRecOn with
  | nil => rfl
  | append_singleton turns turn ih =>
      rw [run_concat, phases_concat]
      refine (ih fun before m after hsplit => ?_).step turn
        (fun liveness identifier link now => ?_) fun p m his hbefore hline => ?_
      · exact hprompt before m (after ++ [turn]) (by rw [hsplit]; simp)
      · exact List.Sublist.refl _
      · have hannounces := announces_step
          ((opened beginning today randomness).run turns).desk p.connection m
        have hdue := hannounces.sublist_due (hprompt turns m [] (by rw [his]) p hbefore)
        unfold InLine
        rw [List.append_assoc]
        exact (hdue.append_left _).trans hline

/-- **The order of the phases.**  In every run of the upload point, for any number of connections
and in whatever order their tasks move: no connection shows a phase twice, and it shows nothing
after it has shown that it is closed.  It shows its phases in order if and only if its session
shows none once its joiner has shown that it closes. -/
theorem phases_inOrder_iff (beginning : String) (today : Timestamp)
    (randomness : List (List UInt8)) (turns : List Turn) (i : Nat) :
    let opened := opened beginning today randomness
    (phases i opened turns).Nodup ∧
      (.closed ∈ phases i opened turns → (phases i opened turns).getLast? = some .closed) ∧
      ((phases i opened turns).Sublist Phase.inOrder ↔
        ∀ before m after, turns = before ++ .move i m :: after →
          ∀ p, (opened.run before).parties[i]? = some p → ¬ AnnouncesLate p.connection m) := by
  intro opened
  have hshows : ∀ turns, (opened.run turns).Tells i Shows (phases i opened turns) := tells_run i
  have hkept := hshows turns
  unfold Tells at hkept
  refine ⟨?_, ?_, fun horder before m after hsplit p hp hlate => ?_, fun hprompt => ?_⟩
  · split at hkept
    · rw [hkept]
      exact List.nodup_nil
    · exact hkept.nodup.sublist (List.sublist_append_left _ _)
  · split at hkept
    · rw [hkept]
      exact fun h => absurd h List.not_mem_nil
    · exact hkept.getLast?_eq
  · have hbefore := hshows before
    unfold Tells at hbefore
    rw [hp] at hbefore
    have hmoved : (opened.run before).shownIn i (.move i m) = (Connection.step session
        (opened.run before).desk p.connection m).2.2.filterMap shown? := by
      simp only [shownIn, if_true, hp]
    rw [hsplit, phases_append, phases, hmoved] at horder
    exact hbefore.not_sublist_of_late hlate _ _ horder
  · have hline := inLine_run i turns hprompt
    unfold Tells at hline
    split at hline
    · rw [show phases i opened turns = [] from hline]
      exact List.nil_sublist _
    · exact (List.sublist_append_left _ _).trans hline

/-- A peer that leaves before the task of the session begins to run. -/
def earlyLeave : List Turn :=
  [.enter .standard ⟨[]⟩ .fresh 0, .move 0 (.receive .ended), .move 0 .join, .move 0 .work,
    .move 0 .work, .move 0 .work, .move 0 .stop, .move 0 .written, .move 0 .written, .move 0 .join]

/-- Its connection shows that it awaits a key after it has shown that it closes. -/
theorem awaitingKey_after_closing :
    phases 0 (opened "u-" ⟨0, 0⟩ []) earlyLeave =
        [.connecting, .opened, .closing, .awaitingKey, .closed] ∧
      ¬ (phases 0 (opened "u-" ⟨0, 0⟩ []) earlyLeave).Sublist Phase.inOrder := by
  decide +kernel

end Hall

end KeyDirectory.Upload
