import KeyDirectory.Source.Chain

/-!
# The leaves of a tree of sources

What a tree comes down to for one identity: its sources from left to right, with a refusal in the
place of every subtree whose list bars the identity.  A search asks the leaves in turn.
-/

namespace KeyDirectory.Chain

/-- What stands at the end of a branch, for one identity. -/
inductive Leaf (α : Type) where
  | source (a : α)
  /-- In the place of a subtree that bars the identity. -/
  | refusal
  deriving DecidableEq, Repr

namespace Leaf

/-- Asks a leaf; a refusal asks nobody. -/
def ask {m : Type → Type} [Monad m] (ask : α → String → m Answer) (identity : String) :
    Leaf α → m Answer
  | source a => ask a identity
  | refusal => pure (.error (.unavailable identity))

/-- The calls that asking a leaf makes: of which source, and for which identity. -/
def calls (identity : String) : Leaf α → List (α × String)
  | source a => [(a, identity)]
  | refusal => []

end Leaf

mutual

/-- The leaves of a tree for an identity, from left to right. -/
def leaves (identity : String) : Chain α → List (Leaf α)
  | .source a => [.source a]
  | .barring list inner => if list.bars identity then [.refusal] else leaves identity inner
  | .firstOf members => leavesOfAll identity members

/-- The leaves of trees that stand next to each other. -/
def leavesOfAll (identity : String) : List (Chain α) → List (Leaf α)
  | [] => []
  | member :: members => leaves identity member ++ leavesOfAll identity members

end

/-- Asks leaves in turn, as `resolveFirst` does with trees; `last` is the answer when there is none
left. -/
def askInTurn {m : Type → Type} [Monad m] (ask : α → String → m Answer) (identity : String)
    (last : Answer) : List (Leaf α) → m Answer
  | [] => pure last
  | leaf :: leaves => do
    let answer ← leaf.ask ask identity
    if fallsThrough answer then askInTurn ask identity answer leaves else pure answer

/-- The trees that can be built, in which no chain is empty. -/
inductive IsBuilt : Chain α → Prop where
  | source (a : α) : IsBuilt (.source a)
  | barring (list : Blocklist) {inner : Chain α} (built : IsBuilt inner) :
    IsBuilt (.barring list inner)
  | ofMembers {members : List (Chain α)} {t : Chain α} (made : ofMembers members = .ok t)
    (built : ∀ member ∈ members, IsBuilt member) : IsBuilt t

/-- Asks a source and writes down which one was asked, and for which identity. -/
def recording {m : Type → Type} [Monad m] (ask : α → String → m Answer) (a : α)
    (identity : String) : StateT (List (α × String)) m Answer := do
  modify (· ++ [(a, identity)])
  StateT.lift (ask a identity)

/-- A search among leaves, from the state `before` on: the leaves that did not know the identity,
the one that decided, and the rest, which was not asked. -/
structure Search (ask : α → String → StateM σ Answer) (identity : String)
    (leaves : List (Leaf α)) (before : σ) where
  passed : List (Leaf α)
  decider : Leaf α
  rest : List (Leaf α)
  /-- What the leaves before the decider answered. -/
  answers : List Answer
  /-- What the decider answered. -/
  result : Answer
  after : σ
  split : leaves = passed ++ decider :: rest
  asked : ((passed ++ [decider]).mapM (Leaf.ask ask identity)).run before =
    (answers ++ [result], after)
  unknown : ∀ answer ∈ answers, ∃ name, answer = .error (.notFound name)
  decided : (∀ name, result ≠ .error (.notFound name)) ∨ rest = []

/-- The calls of a search: those of the leaves up to the decider, each once. -/
def Search.calls {ask : α → String → StateM σ Answer} {identity : String}
    {leaves : List (Leaf α)} {before : σ} (search : Search ask identity leaves before) :
    List (α × String) :=
  (search.passed ++ [search.decider]).flatMap (Leaf.calls identity)

end KeyDirectory.Chain
