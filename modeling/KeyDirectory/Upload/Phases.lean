import KeyDirectory.Upload.Hall

/-!
# The phases that connections show

A connection shows how far it has come on its link.  Two tasks do so without asking each other:
the session says that it awaits a key and that it has registered one, the joiner that the
connection closes and that it is closed.  Here is written down what each connection at the upload
point shows, turn by turn, whatever the order of the turns.
-/

namespace KeyDirectory

namespace Connection

/-- The phases in the order in which a connection is to go through them. -/
def Phase.inOrder : List Phase :=
  [.connecting, .opened, .awaitingKey, .registered, .closing, .closed]

/-- The phase that an event shows. -/
def shown? : Event → Option Phase
  | .published phase => some phase
  | _ => none

end Connection

namespace Upload

open Connection

/-- The session goes on by showing a phase while the joiner has already shown that the connection
closes: its task had not begun to run by then, or was between registering a key and saying so. -/
def AnnouncesLate (c : Connection Stage) (m : Move) : Prop :=
  m = .work ∧ c.joiner ≠ .watching ∧
    (c.session = .running .arriving ∨ ∃ lease, c.session = .running (.registered lease))

namespace Hall

/-- The phases that a connection shows in a turn.  One that begins was connecting, and shows that
it is open. -/
def shownIn (h : Hall) (i : Nat) : Turn → List Phase
  | .enter _ _ _ _ => if i = h.parties.length then [.connecting, .opened] else []
  | .move j m =>
    if j = i then
      match h.parties[i]? with
      | some p => (p.connection.step session h.desk m).2.2.filterMap shown?
      | none => []
    else []
  | .lookup _ | .supply _ _ => []

/-- The phases that a connection shows in turns one after the other. -/
def phases (i : Nat) : Hall → List Turn → List Phase
  | _, [] => []
  | h, turn :: turns => h.shownIn i turn ++ phases i (h.step turn) turns

end Hall

end Upload

end KeyDirectory
