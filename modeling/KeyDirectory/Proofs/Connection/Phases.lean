import KeyDirectory.Proofs.Connection.Steps
import KeyDirectory.Upload.Phases

/-!
# Who shows a phase

Only two tasks ever show a phase: the session, by a call, and the joiner, which shows each of its
two phases once.  Whatever the others do, nothing shows.

* `Hushed`: a move by which nothing shows, of a task that is neither.
* `hushed_step`: all moves but those of the session and of the joiner are hushed.
* `join_cases`: what a move of the joiner can be.
-/

namespace KeyDirectory.Connection

variable {ρ σ : Type} {c : Connection σ}

/-- Neither the session nor the joiner moves, and nothing shows. -/
structure Hushed (c : Connection σ) (moved : Moved σ) : Prop where
  session : moved.1.session = c.session
  joiner : moved.1.joiner = c.joiner
  shown : moved.2.filterMap shown? = []

/-- The sender shows nothing. -/
lemma Apart.hushed {moved : Moved σ} (h : Apart c moved) : Hushed c moved where
  session := h.session
  joiner := h.joiner
  shown := by
    refine h.filterMap_eq_nil fun event hsender => ?_
    cases event <;> trivial

/-- Every move is hushed but those of the session and of the joiner. -/
lemma hushed_goes {m : Move} {moved : Moved σ} (hwork : m ≠ .work) (hjoin : m ≠ .join)
    (hgoes : Goes c m moved) : Hushed c moved := by
  cases hgoes with
  | sender is sends => exact sends.apart.hushed
  | loss is loses => exact loses.apart.hushed
  | hears inbound running hears => cases hears <;> exact ⟨rfl, rfl, rfl⟩
  | session running works => exact absurd rfl hwork
  | closing | closed => exact absurd rfl hjoin
  | nowhere | halts | expires | cancels | elapses => exact ⟨rfl, rfl, rfl⟩

/-- Only the session and the joiner show anything. -/
lemma hushed_step {session : Session ρ σ} {move : Move} (hwork : move ≠ .work)
    (hjoin : move ≠ .join) (shared : ρ) (c : Connection σ) :
    Hushed c (step session shared c move).2 :=
  hushed_goes hwork hjoin (goes_step session shared c move)

/-- A session that is over stands at its end. -/
lemma Standing.eq_ended {standing : Standing σ} (h : standing.isEnded = true) :
    standing = .ended := by
  cases standing with
  | running state => cases h
  | sleeping wake state => cases h
  | ended => rfl

/-- The joiner waits, or takes notice of a task that ended and shows that the connection closes,
or finds that all have ended and shows that it is closed. -/
lemma join_cases (session : Session ρ σ) (shared : ρ) (c : Connection σ) :
    (step session shared c .join).2 = (c, []) ∨
    (c.joiner = .watching ∧ (step session shared c .join).2 =
      ({ c with joiner := .closing }.cancel.publish .closing, [.published .closing])) ∨
    (c.joiner = .closing ∧ c.session = .ended ∧ (step session shared c .join).2 =
      ({ c with joiner := .done }.publish .closed, [.published .closed])) := by
  have hcases : ∀ {moved}, Goes c .join moved → moved = (c, []) ∨
      (c.joiner = .watching ∧
        moved = ({ c with joiner := .closing }.cancel.publish .closing, [.published .closing])) ∨
      (c.joiner = .closing ∧ c.session = .ended ∧
        moved = ({ c with joiner := .done }.publish .closed, [.published .closed])) := by
    intro moved hgoes
    cases hgoes with
    | nowhere => exact .inl rfl
    | sender is => exact is.elim
    | loss is => rcases is with h | h <;> cases h
    | closing watching some => exact .inr (.inl ⟨watching, rfl⟩)
    | closed closing all =>
        unfold allEnded at all
        simp only [Bool.and_eq_true] at all
        exact .inr (.inr ⟨closing, Standing.eq_ended all.2, rfl⟩)
  exact hcases (goes_step session shared c .join)

end KeyDirectory.Connection
