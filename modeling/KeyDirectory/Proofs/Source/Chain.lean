import KeyDirectory.Source.Leaves
import Mathlib.Data.List.Basic

/-!
# What a tree of sources means

Asking a tree is asking its leaves in turn, in every monad: which trees stand in which is of no
account, only the order of the leaves and where a list bars the identity.

* `resolve_eq_askInTurn`: a tree that can be built asks its leaves.
* `exists_search`: asking leaves in turn is a search, and calls what the search calls.
* `resolve_searches_leaves`: the result.
-/

namespace KeyDirectory.Chain

/-- A search goes on exactly after an unknown identity. -/
lemma fallsThrough_iff {answer : Answer} :
    fallsThrough answer = true ↔ ∃ name, answer = .error (.notFound name) := by
  rcases answer with failure | record
  · cases failure <;> simp [fallsThrough, Failure.isNotFound, Failure.kind]
  · simp [fallsThrough]

/-- A search ends at every other answer. -/
lemma fallsThrough_eq_false_iff {answer : Answer} :
    fallsThrough answer = false ↔ ∀ name, answer ≠ .error (.notFound name) := by
  rw [← Bool.not_eq_true, fallsThrough_iff, not_exists]

/-- A chain is built of any members but none. -/
lemma ofMembers_eq_ok_iff {members : List (Chain α)} {t : Chain α} :
    ofMembers members = .ok t ↔ members ≠ [] ∧ t = .firstOf members := by
  cases members <;> simp [ofMembers, eq_comm]

/-! ## Trees that can be built -/

/-- A chain is well built iff it has members and all are well built. -/
lemma isBuilt_firstOf_iff {members : List (Chain α)} :
    (firstOf members).IsBuilt ↔ members ≠ [] ∧ ∀ member ∈ members, member.IsBuilt := by
  constructor
  · intro h
    cases h with
    | ofMembers made built =>
      obtain ⟨hne, heq⟩ := ofMembers_eq_ok_iff.mp made
      cases heq
      exact ⟨hne, built⟩
  · rintro ⟨hne, built⟩
    exact .ofMembers (ofMembers_eq_ok_iff.mpr ⟨hne, rfl⟩) built

/-- The members of a chain inside a chain can stand in its place. -/
lemma IsBuilt.flatten {front inner back : List (Chain α)}
    (h : (firstOf (front ++ firstOf inner :: back)).IsBuilt) :
    (firstOf (front ++ inner ++ back)).IsBuilt := by
  obtain ⟨-, hmembers⟩ := isBuilt_firstOf_iff.mp h
  obtain ⟨hne, hinner⟩ := isBuilt_firstOf_iff.mp (hmembers (firstOf inner) (by simp))
  refine isBuilt_firstOf_iff.mpr ⟨by simp [hne], fun member hmember => ?_⟩
  rcases List.mem_append.mp hmember with hmember | hback
  · rcases List.mem_append.mp hmember with hfront | hin
    · exact hmembers member (List.mem_append_left _ hfront)
    · exact hinner member hin
  · exact hmembers member (by simp [hback])

/-! ## Leaves -/

section leaves

variable (identity : String)

/-- The leaves of two lists of members come one after the other. -/
lemma leavesOfAll_append (front back : List (Chain α)) :
    leavesOfAll identity (front ++ back) =
      leavesOfAll identity front ++ leavesOfAll identity back := by
  induction front with
  | nil => rfl
  | cons member front ih => simp only [List.cons_append, leavesOfAll, ih, List.append_assoc]

/-- The leaves of plain sources are those sources. -/
lemma leavesOfAll_map_source (sources : List α) :
    leavesOfAll identity (sources.map .source) = sources.map .source := by
  induction sources with
  | nil => rfl
  | cons a sources ih => rw [List.map_cons, leavesOfAll, ih]; rfl

/-- A chain inside a chain has the leaves that its members would have in its place. -/
lemma leaves_firstOf_nested (front inner back : List (Chain α)) :
    (firstOf (front ++ firstOf inner :: back)).leaves identity =
      (firstOf (front ++ inner ++ back)).leaves identity := by
  simp only [leaves, leavesOfAll, leavesOfAll_append, List.append_assoc]

/-- A well-built chain always has a leaf. -/
lemma IsBuilt.leaves_ne_nil {t : Chain α} (h : t.IsBuilt) : t.leaves identity ≠ [] := by
  induction h with
  | source a => simp [leaves]
  | barring list _ ih =>
    rw [leaves]
    split
    · simp
    · exact ih
  | ofMembers made _ ih =>
    obtain ⟨hne, rfl⟩ := ofMembers_eq_ok_iff.mp made
    obtain ⟨member, members, rfl⟩ := List.exists_cons_of_ne_nil hne
    have hmember := ih member List.mem_cons_self
    simp [leaves, leavesOfAll, hmember]

end leaves

/-! ## Asking leaves in turn -/

section askInTurn

variable {m : Type → Type} [Monad m] [LawfulMonad m] (ask : α → String → m Answer)
  (identity : String)

omit [LawfulMonad m] in
/-- What the answer was before is of no account to those who have a leaf to ask. -/
lemma askInTurn_of_ne_nil {leaves : List (Leaf α)} (h : leaves ≠ []) (last last' : Answer) :
    askInTurn ask identity last leaves = askInTurn ask identity last' leaves := by
  cases leaves with
  | nil => exact absurd rfl h
  | cons leaf leaves => rfl

/-- Asking two lists of leaves in turn asks the second where the first falls through. -/
lemma askInTurn_append {last : Answer} (h : fallsThrough last = true) (front back : List (Leaf α)) :
    askInTurn ask identity last (front ++ back) = (do
      let answer ← askInTurn ask identity last front
      if fallsThrough answer then askInTurn ask identity answer back else pure answer) := by
  induction front generalizing last with
  | nil => simp [askInTurn, h]
  | cons leaf front ih =>
    simp only [List.cons_append, askInTurn, bind_assoc]
    refine bind_congr fun answer => ?_
    by_cases hfalls : fallsThrough answer = true
    · simp only [hfalls, if_true, ih hfalls]
    · simp [hfalls]

/-- Members that ask their leaves are asked in turn by asking all their leaves in turn. -/
lemma resolveFirst_eq_askInTurn {members : List (Chain α)}
    (h : ∀ member ∈ members, ∀ last, fallsThrough last = true →
      member.resolve ask identity = askInTurn ask identity last (member.leaves identity))
    {last : Answer} (hlast : fallsThrough last = true) :
    resolveFirst ask identity last members =
      askInTurn ask identity last (leavesOfAll identity members) := by
  induction members generalizing last with
  | nil => rfl
  | cons member members ih =>
    rw [resolveFirst, leavesOfAll, askInTurn_append ask identity hlast,
      h member List.mem_cons_self last hlast]
    refine bind_congr fun answer => ?_
    by_cases hfalls : fallsThrough answer = true
    · simp only [hfalls, if_true,
        ih (fun other hother => h other (List.mem_cons_of_mem _ hother)) hfalls]
    · simp [hfalls]

/-- A tree that can be built asks its leaves in turn. -/
theorem resolve_eq_askInTurn {t : Chain α} (h : t.IsBuilt) (last : Answer) :
    t.resolve ask identity = askInTurn ask identity last (t.leaves identity) := by
  induction h generalizing last with
  | source a =>
    have hask : ∀ answer : Answer,
        (if fallsThrough answer then pure answer else pure answer : m Answer) = pure answer :=
      fun answer => ite_self _
    simp only [resolve, leaves, askInTurn, Leaf.ask, hask, bind_pure]
  | barring list _ ih =>
    rw [resolve, leaves]
    split
    · simp [askInTurn, Leaf.ask, fallsThrough, Failure.isNotFound, Failure.kind]
    · exact ih last
  | ofMembers made built ih =>
    have hne := (IsBuilt.ofMembers made built).leaves_ne_nil identity
    obtain ⟨-, rfl⟩ := ofMembers_eq_ok_iff.mp made
    rw [askInTurn_of_ne_nil ask identity hne last (.error (.notFound identity)), resolve, leaves]
    exact resolveFirst_eq_askInTurn ask identity
      (fun member hmember last _ => ih member hmember last) rfl

/-- Trees with the same leaves are the same to those who ask. -/
lemma resolve_congr {t t' : Chain α} (h : t.IsBuilt) (h' : t'.IsBuilt)
    (hleaves : t.leaves identity = t'.leaves identity) :
    t.resolve ask identity = t'.resolve ask identity := by
  rw [resolve_eq_askInTurn ask identity h (.error (.notFound identity)), hleaves,
    resolve_eq_askInTurn ask identity h' (.error (.notFound identity))]

end askInTurn

/-! ## Searches -/

section search

variable {ask : α → String → StateM σ Answer} {identity : String}

/-- Mapping over a list runs its head and then its tail. -/
lemma run_mapM_cons {f : β → StateM σ γ} {x : β} {xs : List β} {before between after : σ} {y : γ}
    {ys : List γ} (hx : (f x).run before = (y, between))
    (hxs : (xs.mapM f).run between = (ys, after)) :
    ((x :: xs).mapM f).run before = (y :: ys, after) := by
  rw [List.mapM_cons, StateT.run_bind, hx]
  change (xs.mapM f >>= fun ys => pure (y :: ys)).run between = _
  rw [StateT.run_bind, hxs]
  rfl

/-- Recording the calls of a leaf changes neither its answer nor its state. -/
lemma Leaf.run_recording {leaf : Leaf α} {before after : σ} {answer : Answer}
    (h : (leaf.ask ask identity).run before = (answer, after)) (log : List (α × String)) :
    ((leaf.ask (recording ask) identity).run log).run before =
      ((answer, log ++ leaf.calls identity), after) := by
  cases leaf with
  | source a =>
    have hask : (ask a identity).run before = (answer, after) := h
    simp only [Leaf.ask, recording, StateT.run_bind, StateT.run_modify, pure_bind,
      StateT.run_lift, hask]
    rfl
  | refusal =>
    cases h
    rw [calls, List.append_nil]
    rfl

/-- The first leaf decides, unless it falls through. -/
lemma run_askInTurn_cons {leaf : Leaf α} {leaves : List (Leaf α)} {last answer : Answer}
    {before between : σ} (h : (leaf.ask ask identity).run before = (answer, between)) :
    (askInTurn ask identity last (leaf :: leaves)).run before =
      if fallsThrough answer then (askInTurn ask identity answer leaves).run between
      else (answer, between) := by
  rw [askInTurn, StateT.run_bind, h]
  dsimp only [bind]
  split <;> rfl

/-- The first leaf decides with its calls on record, unless it falls through. -/
lemma run_askInTurn_recording_cons {leaf : Leaf α} {leaves : List (Leaf α)} {last answer : Answer}
    {before between : σ} (h : (leaf.ask ask identity).run before = (answer, between))
    (log : List (α × String)) :
    ((askInTurn (recording ask) identity last (leaf :: leaves)).run log).run before =
      if fallsThrough answer then
        ((askInTurn (recording ask) identity answer leaves).run
          (log ++ leaf.calls identity)).run between
      else ((answer, log ++ leaf.calls identity), between) := by
  rw [askInTurn, StateT.run_bind, StateT.run_bind, Leaf.run_recording h]
  dsimp only [bind]
  split <;> rfl

/-- A search that ends at the first leaf. -/
def Search.here {leaf : Leaf α} {leaves : List (Leaf α)} {before after : σ} {result : Answer}
    (asked : (leaf.ask ask identity).run before = (result, after))
    (decided : (∀ name, result ≠ .error (.notFound name)) ∨ leaves = []) :
    Search ask identity (leaf :: leaves) before where
  passed := []
  decider := leaf
  rest := leaves
  answers := []
  result := result
  after := after
  split := rfl
  asked := run_mapM_cons asked rfl
  unknown := by simp
  decided := decided

/-- A search that goes on after the first leaf. -/
def Search.later {leaf : Leaf α} {leaves : List (Leaf α)} {before between : σ} {answer : Answer}
    (asked : (leaf.ask ask identity).run before = (answer, between))
    (unknown : ∃ name, answer = .error (.notFound name))
    (search : Search ask identity leaves between) :
    Search ask identity (leaf :: leaves) before where
  passed := leaf :: search.passed
  decider := search.decider
  rest := search.rest
  answers := answer :: search.answers
  result := search.result
  after := search.after
  split := congrArg (leaf :: ·) search.split
  asked := run_mapM_cons asked search.asked
  unknown := List.forall_mem_cons.mpr ⟨unknown, search.unknown⟩
  decided := search.decided

/-- A search that ends at its first leaf calls what that leaf calls. -/
@[simp] lemma Search.calls_here {leaf : Leaf α} {leaves : List (Leaf α)} {before after : σ}
    {result : Answer} (asked : (leaf.ask ask identity).run before = (result, after))
    (decided : (∀ name, result ≠ .error (.notFound name)) ∨ leaves = []) :
    (Search.here asked decided).calls = leaf.calls identity :=
  List.append_nil _

/-- A search that goes on calls what its leaf calls and then what the rest calls. -/
@[simp] lemma Search.calls_later {leaf : Leaf α} {leaves : List (Leaf α)} {before between : σ}
    {answer : Answer} (asked : (leaf.ask ask identity).run before = (answer, between))
    (unknown : ∃ name, answer = .error (.notFound name))
    (search : Search ask identity leaves between) :
    (search.later asked unknown).calls = leaf.calls identity ++ search.calls :=
  rfl

/-- Asking leaves in turn, of which there is one at least, is a search; it calls what the search
calls. -/
theorem exists_search (ask : α → String → StateM σ Answer) (identity : String)
    {leaves : List (Leaf α)} (hne : leaves ≠ []) (last : Answer) (before : σ) :
    ∃ search : Search ask identity leaves before,
      (askInTurn ask identity last leaves).run before = (search.result, search.after) ∧
        ∀ log, ((askInTurn (recording ask) identity last leaves).run log).run before =
          ((search.result, log ++ search.calls), search.after) := by
  induction leaves generalizing last before with
  | nil => exact absurd rfl hne
  | cons leaf leaves ih =>
    obtain ⟨answer, between, hleaf⟩ :
        ∃ answer between, (leaf.ask ask identity).run before = (answer, between) := ⟨_, _, rfl⟩
    by_cases hfalls : fallsThrough answer = true
    · by_cases hleaves : leaves = []
      · -- The last leaf decides, whatever it answers.
        subst hleaves
        refine ⟨.here hleaf (.inr rfl), ?_, fun log => ?_⟩
        · rw [run_askInTurn_cons hleaf, if_pos hfalls]
          rfl
        · rw [run_askInTurn_recording_cons hleaf, if_pos hfalls, Search.calls_here]
          rfl
      · obtain ⟨search, hplain, hlogged⟩ := ih hleaves answer between
        refine ⟨search.later hleaf (fallsThrough_iff.mp hfalls), ?_, fun log => ?_⟩
        · rw [run_askInTurn_cons hleaf, if_pos hfalls, hplain]
          rfl
        · rw [run_askInTurn_recording_cons hleaf, if_pos hfalls, hlogged, Search.calls_later,
            List.append_assoc]
          rfl
    · have hdecided := fallsThrough_eq_false_iff.mp (Bool.not_eq_true _ ▸ hfalls)
      refine ⟨.here hleaf (.inl hdecided), ?_, fun log => ?_⟩
      · rw [run_askInTurn_cons hleaf, if_neg hfalls]
        rfl
      · rw [run_askInTurn_recording_cons hleaf, if_neg hfalls, Search.calls_here]
        rfl

/-- **The meaning of a tree.**  For every tree that can be built, whatever its sources answer and
do, asking it is a search among its leaves: it answers, unchanged, what the first leaf answers that
does not say that the identity is unknown, or else what the last leaf answers; it calls each source
up to there once, for the same identity, and no other.  So trees with the same leaves are the same,
and a chain inside a chain may as well have its members stand in its place. -/
theorem resolve_searches_leaves {t : Chain α} (h : t.IsBuilt) (ask : α → String → StateM σ Answer)
    (identity : String) :
    (∀ before, ∃ search : Search ask identity (t.leaves identity) before,
      (t.resolve ask identity).run before = (search.result, search.after) ∧
        ∀ log, ((t.resolve (recording ask) identity).run log).run before =
          ((search.result, log ++ search.calls), search.after)) ∧
      (∀ t' : Chain α, t'.IsBuilt → t.leaves identity = t'.leaves identity →
        t.resolve ask identity = t'.resolve ask identity ∧
          t.resolve (recording ask) identity = t'.resolve (recording ask) identity) ∧
      ∀ front inner back, t = .firstOf (front ++ .firstOf inner :: back) →
        t.resolve ask identity = (firstOf (front ++ inner ++ back)).resolve ask identity ∧
          t.resolve (recording ask) identity =
            (firstOf (front ++ inner ++ back)).resolve (recording ask) identity := by
  have hsame : ∀ t' : Chain α, t'.IsBuilt → t.leaves identity = t'.leaves identity →
      t.resolve ask identity = t'.resolve ask identity ∧
        t.resolve (recording ask) identity = t'.resolve (recording ask) identity :=
    fun t' h' hleaves => ⟨resolve_congr ask identity h h' hleaves,
      resolve_congr (recording ask) identity h h' hleaves⟩
  refine ⟨fun before => ?_, hsame, ?_⟩
  · obtain ⟨search, hplain, hlogged⟩ := exists_search ask identity (h.leaves_ne_nil identity)
      (.error (.notFound identity)) before
    refine ⟨search, ?_, fun log => ?_⟩
    · rw [resolve_eq_askInTurn ask identity h, hplain]
    · rw [resolve_eq_askInTurn (recording ask) identity h, hlogged]
  · rintro front inner back rfl
    exact hsame _ h.flatten (leaves_firstOf_nested identity front inner back)

/-- A barred subtree in the middle: the source in it and the one after it are not asked. -/
theorem resolve_searches_leaves_barred :
    let barred : Chain Nat := .barring ⟨["eve"]⟩ (.source 2)
    let t : Chain Nat := .firstOf [.firstOf [.source 1, barred], .source 3]
    let ask : Nat → String → StateM Nat Answer := fun a identity => do
      modify (· + a)
      return .error (.notFound (identity ++ toString a))
    t.IsBuilt ∧
      (∃ search : Search ask "Eve" (t.leaves "Eve") 0, search.result = .error (.unavailable "Eve") ∧
        search.after = 1 ∧ search.calls = [(1, "Eve")]) ∧
      t.resolve ask "Eve" = (firstOf [.source 1, barred, .source 3]).resolve ask "Eve" := by
  intro barred t ask
  have built : t.IsBuilt := by
    refine isBuilt_firstOf_iff.mpr ⟨List.cons_ne_nil _ _, ?_⟩
    have hinner : (firstOf [.source 1, barred]).IsBuilt :=
      isBuilt_firstOf_iff.mpr ⟨List.cons_ne_nil _ _, by
        simpa using ⟨IsBuilt.source 1, IsBuilt.barring _ (IsBuilt.source 2)⟩⟩
    simpa using ⟨hinner, IsBuilt.source 3⟩
  obtain ⟨hsearch, -, hflat⟩ := resolve_searches_leaves built ask "Eve"
  obtain ⟨search, -, hlogged⟩ := hsearch 0
  have hrun : ((t.resolve (recording ask) "Eve").run []).run 0 =
      ((.error (.unavailable "Eve"), [(1, "Eve")]), 1) := rfl
  rw [hlogged [], List.nil_append] at hrun
  refine ⟨built, ⟨search, ?_, ?_, ?_⟩, (hflat [] [.source 1, barred] [.source 3] rfl).1⟩
  · exact congrArg (·.1.1) hrun
  · exact congrArg (·.2) hrun
  · exact congrArg (·.1.2) hrun

end search

end KeyDirectory.Chain
