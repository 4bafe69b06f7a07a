import KeyDirectory.Connection.Floor
import Mathlib.Tactic.Lemma
import Mathlib.Tactic.SplitIfs

/-!
# Used handlers are as good as new

Whatever was done with a pool and with everything that came out of it, a handler that is taken out
shows nothing of it, and whatever is still done through the links of before reaches neither this
handler nor any later one.  The reason is that links are never given twice: each reset makes a link,
under the first number that was not used, and nothing changes a link but through its number.

* `Pool.acquire_eq`, `Pool.release_eq`: what taking out and putting back does to a pool.
* `Kept`: the books of a pool, and where the links are; `kept_run`.
* `agreesFrom_step`, `agreesFrom_echo`: a use does the same to two floors that differ in old links,
  and a use through an old link makes no other difference; `agreesFrom_run`.
-/

namespace KeyDirectory.Connection

/-! ## Pools -/

namespace Pool

variable {α : Type} {p : Pool α}

/-- Changing a link makes none. -/
@[simp] lemma links_length_setLink (p : Pool α) (number : Nat) (link : Link) :
    (p.setLink number link).links.length = p.links.length := by
  simp [setLink]

/-- A change shows under the number of the link, if there is such a link, and nowhere else. -/
lemma link_setLink (p : Pool α) (number k : Nat) (link : Link) :
    (p.setLink number link).link k =
      if number = k ∧ number < p.links.length then link else p.link k := by
  unfold setLink Pool.link
  simp only [List.getD_eq_getElem?_getD, List.getElem?_set]
  by_cases h : number = k
  · subst h
    by_cases hlt : number < p.links.length <;> simp [hlt]
  · simp [h]

/-- Links that are not there yet show as fresh, so that making them changes nothing. -/
lemma link_grown (p : Pool α) (n k : Nat) :
    { p with links := p.links ++ List.replicate n Link.fresh }.link k = p.link k := by
  unfold Pool.link
  simp only [List.getD_eq_getElem?_getD, List.getElem?_append, List.getElem?_replicate]
  by_cases hk : k < p.links.length
  · simp [hk]
  · rw [if_neg hk, List.getElem?_eq_none (Nat.not_lt.mp hk)]
    split_ifs <;> rfl

/-- Taking out a handler: the one kept last, or one that is made when none is kept, with the
session and with a link that was just made. -/
lemma acquire_eq (p : Pool α) (session : α) :
    p.acquire session =
      ({ p with
          idle := p.idle.tail
          created := p.created + if p.idle = [] then 1 else 0
          links := p.links ++ List.replicate (if p.idle = [] then 2 else 1) .fresh },
        ⟨some session, p.links.length + if p.idle = [] then 1 else 0⟩) := by
  unfold acquire reset make
  rcases hidle : p.idle with _ | ⟨h, rest⟩
  · simp
  · simp

/-- Putting back a handler: it loses its session, and is kept if there is room. -/
lemma release_eq (p : Pool α) (h : Handler α) :
    p.release h = { p with
      links := p.links ++ [.fresh]
      idle := if p.idle.length < p.maxIdle then ⟨none, p.links.length⟩ :: p.idle else p.idle } := by
  unfold release reset
  dsimp only
  split_ifs <;> rfl

end Pool

namespace Floor

variable {ρ σ : Type} {f g : Floor ρ σ} {liveness : Liveness} {maxIdle : Nat}

/-! ## The books -/

/-- The books of a pool, and that every link given to somebody was made before. -/
structure Kept (liveness : Liveness) (maxIdle : Nat) (f : Floor ρ σ) : Prop where
  liveness_eq : f.pool.liveness = liveness
  maxIdle_eq : f.pool.maxIdle = maxIdle
  scrubbed : ∀ h ∈ f.pool.idle, h.session = none
  bounded : f.pool.idle.length ≤ maxIdle
  counted : f.pool.created = f.pool.idle.length + f.out.countP (·.isSome) + f.discarded
  idleLinks : ∀ h ∈ f.pool.idle, h.link < f.pool.links.length
  outLinks : ∀ h, some h ∈ f.out → h.link < f.pool.links.length
  serviceLinks : ∀ s ∈ f.services, s.link < f.pool.links.length

/-- A handler that is out stands under its number. -/
lemma handler?_eq_some {n : Nat} {h : Handler (Session ρ σ)} (hn : f.handler? n = some h) :
    f.out[n]? = some (some h) :=
  Option.join_eq_some_iff.mp hn

/-- So it is among those that are out. -/
lemma mem_out {n : Nat} {h : Handler (Session ρ σ)} (hn : f.handler? n = some h) :
    some h ∈ f.out :=
  List.mem_of_getElem? (handler?_eq_some hn)

/-- Where a handler was out, the place counts for one, whatever is put there. -/
lemma countP_out_set {n : Nat} {h : Handler (Session ρ σ)} (hn : f.handler? n = some h)
    (o : Option (Handler (Session ρ σ))) :
    (f.out.set n o).countP (·.isSome) + 1 =
      f.out.countP (·.isSome) + if o.isSome then 1 else 0 := by
  obtain ⟨hlt, hget⟩ := List.getElem?_eq_some_iff.mp (handler?_eq_some hn)
  have hpos : 0 < f.out.countP (·.isSome) :=
    List.countP_pos_iff.mpr ⟨some h, mem_out hn, rfl⟩
  rw [List.countP_set hlt, hget]
  simp only [Option.isSome_some, if_true]
  omega

/-- Changing a link leaves the books alone. -/
lemma Kept.setLink (hf : Kept liveness maxIdle f) (number : Nat) (link : Link) :
    Kept liveness maxIdle { f with pool := f.pool.setLink number link } where
  liveness_eq := hf.liveness_eq
  maxIdle_eq := hf.maxIdle_eq
  scrubbed := hf.scrubbed
  bounded := hf.bounded
  counted := hf.counted
  idleLinks := by rw [Pool.links_length_setLink]; exact hf.idleLinks
  outLinks := by rw [Pool.links_length_setLink]; exact hf.outLinks
  serviceLinks := by rw [Pool.links_length_setLink]; exact hf.serviceLinks

/-- What was made before stays made when more is. -/
lemma lt_length_append {links : List Link} {k : Nat} (h : k < links.length) (made : List Link) :
    k < (links ++ made).length := by
  rw [List.length_append]
  exact Nat.lt_add_right _ h

/-- Taking out a handler moves it from those kept to those out, or makes one. -/
lemma kept_acquire (hf : Kept liveness maxIdle f) (session : Session ρ σ) :
    Kept liveness maxIdle (f.acquire session) := by
  have hidle : ∀ h ∈ f.pool.idle.tail, h ∈ f.pool.idle := fun h => List.mem_of_mem_tail
  unfold acquire
  rw [Pool.acquire_eq]
  refine ⟨hf.liveness_eq, hf.maxIdle_eq, fun h hh => hf.scrubbed h (hidle h hh), ?_, ?_,
    fun h hh => lt_length_append (hf.idleLinks h (hidle h hh)) _, ?_,
    fun s hs => lt_length_append (hf.serviceLinks s hs) _⟩
  · have hbounded := hf.bounded
    rw [List.length_tail]
    omega
  · have hcounted := hf.counted
    simp only [List.length_tail, List.countP_append, List.countP_singleton, Option.isSome_some,
      if_true]
    split_ifs with hnone
    · rw [hcounted, hnone, List.length_nil]
      omega
    · have hpos := List.length_pos_iff.mpr hnone
      omega
  · intro h hh
    rcases List.mem_append.mp hh with hh | hh
    · exact lt_length_append (hf.outLinks h hh) _
    · obtain rfl := Option.some.inj (List.mem_singleton.mp hh)
      simp only [List.length_append, List.length_replicate]
      split_ifs <;> omega

/-- Putting back a handler moves it to those kept, or discards it. -/
lemma kept_release (hf : Kept liveness maxIdle f) (n : Nat) :
    Kept liveness maxIdle (f.release n) := by
  unfold release
  rcases hn : f.handler? n with _ | h
  · exact hf
  have hcount := countP_out_set hn none
  have hcounted := hf.counted
  have hmaxIdle := hf.maxIdle_eq
  rw [Option.isSome_none, if_neg Bool.false_ne_true] at hcount
  simp only [Pool.release_eq]
  refine ⟨hf.liveness_eq, hf.maxIdle_eq, ?_, ?_, ?_, ?_, ?_,
    fun s hs => lt_length_append (hf.serviceLinks s hs) _⟩ <;> dsimp only
  · split_ifs
    · simpa using hf.scrubbed
    · exact hf.scrubbed
  · split_ifs
    · rw [List.length_cons]
      omega
    · exact hf.bounded
  · split_ifs with hroom hkept hkept
    · simp at hkept
    · rw [List.length_cons]
      omega
    · omega
    · exact absurd rfl hkept
  · intro h hh
    split_ifs at hh
    · rcases List.mem_cons.mp hh with rfl | hh
      · simp
      · exact lt_length_append (hf.idleLinks h hh) _
    · exact lt_length_append (hf.idleLinks h hh) _
  · intro h hh
    rcases List.mem_or_eq_of_mem_set hh with hh | hh
    · exact lt_length_append (hf.outLinks h hh) _
    · cases hh

/-- Resetting a handler that is out gives it a link that was just made. -/
lemma kept_reset (hf : Kept liveness maxIdle f) (n : Nat) (session : Option (Session ρ σ)) :
    Kept liveness maxIdle (f.reset n session) := by
  unfold reset
  rcases hn : f.handler? n with _ | h
  · exact hf
  refine ⟨hf.liveness_eq, hf.maxIdle_eq, hf.scrubbed, hf.bounded, ?_,
    fun h hh => lt_length_append (hf.idleLinks h hh) _, ?_,
    fun s hs => lt_length_append (hf.serviceLinks s hs) _⟩
  · have hcount := countP_out_set hn (some (f.pool.reset h session).2)
    rw [Option.isSome_some, if_pos rfl] at hcount
    have hcounted := hf.counted
    simp only [Pool.reset] at hcount ⊢
    omega
  · intro h' hh
    rcases List.mem_or_eq_of_mem_set hh with hh | hh
    · exact lt_length_append (hf.outLinks h' hh) _
    · obtain rfl := Option.some.inj hh
      simp [Pool.reset]

/-- A connection begins on a link that its handler had before. -/
lemma kept_serve (hf : Kept liveness maxIdle f) (n : Nat) (id : Identifier) (now : Moment) :
    Kept liveness maxIdle (f.serve n id now) := by
  unfold serve Pool.begin
  rcases hn : f.handler? n with _ | h
  · exact hf
  rcases hsession : h.session with _ | session
  · simp only [hsession]
    exact hf.setLink h.link _
  · simp only [hsession]
    have hset := hf.setLink h.link
      (Connection.start f.pool.liveness id (f.pool.link h.link) now session.start).link
    refine { hset with serviceLinks := fun s hs => ?_ }
    rcases List.mem_append.mp hs with hs | hs
    · exact hset.serviceLinks s hs
    · obtain rfl := List.mem_singleton.mp hs
      simpa using hf.outLinks h (mem_out hn)

/-- A connection that moves on stays on its link. -/
lemma kept_move (hf : Kept liveness maxIdle f) (i : Nat) (shared : ρ) (m : Move) :
    Kept liveness maxIdle (f.move i shared m) := by
  unfold move
  rcases hi : f.services[i]? with _ | s
  · exact hf
  have hset := hf.setLink s.link
    (Connection.step s.session shared { s.connection with link := f.pool.link s.link } m).2.1.link
  refine { hset with serviceLinks := fun t ht => ?_ }
  rcases List.mem_or_eq_of_mem_set ht with ht | rfl
  · exact hset.serviceLinks t ht
  · exact hset.serviceLinks s (List.mem_of_getElem? hi)

/-- Every use keeps the books. -/
lemma kept_step (hf : Kept liveness maxIdle f) (u : Use ρ σ) :
    Kept liveness maxIdle (f.step u) := by
  cases u with
  | acquire session => exact kept_acquire hf session
  | release n => exact kept_release hf n
  | reset n session => exact kept_reset hf n session
  | cancel link => exact hf.setLink link _
  | publish link phase => exact hf.setLink link _
  | serve n id now => exact kept_serve hf n id now
  | move i shared m => exact kept_move hf i shared m

/-- So do all uses together. -/
lemma kept_run (hf : Kept liveness maxIdle f) (uses : List (Use ρ σ)) :
    Kept liveness maxIdle (f.run uses) := by
  induction uses generalizing f with
  | nil => exact hf
  | cons u uses ih => exact ih (kept_step hf u)

/-! ## Links are only added -/

section Agreement

variable {old : Nat}

/-- A floor agrees with itself, whatever is old. -/
lemma AgreesFrom.refl (old : Nat) (f : Floor ρ σ) : AgreesFrom old f f :=
  ⟨rfl, rfl, rfl, rfl, rfl, fun _ _ => rfl, rfl, rfl, rfl⟩

/-- Agreement does not depend on which floor is looked at first. -/
lemma AgreesFrom.symm (h : AgreesFrom old f g) : AgreesFrom old g f :=
  ⟨h.liveness.symm, h.maxIdle.symm, h.idle.symm, h.created.symm, h.linkCount.symm,
    fun k hk => (h.link k hk).symm, h.out.symm, h.discarded.symm, h.services.symm⟩

/-- Two floors that agree with a third agree with one another. -/
lemma AgreesFrom.trans {f₁ f₂ f₃ : Floor ρ σ} (h : AgreesFrom old f₁ f₂)
    (h' : AgreesFrom old f₂ f₃) : AgreesFrom old f₁ f₃ :=
  ⟨h.liveness.trans h'.liveness, h.maxIdle.trans h'.maxIdle, h.idle.trans h'.idle,
    h.created.trans h'.created, h.linkCount.trans h'.linkCount,
    fun k hk => (h.link k hk).trans (h'.link k hk), h.out.trans h'.out,
    h.discarded.trans h'.discarded, h.services.trans h'.services⟩

/-- A link is changed on both floors, in the same way unless it is an old one. -/
lemma AgreesFrom.setLink (h : AgreesFrom old f g) (number : Nat) {link link' : Link}
    (hlink : old ≤ number → link = link') :
    AgreesFrom old { f with pool := f.pool.setLink number link }
      { g with pool := g.pool.setLink number link' } where
  liveness := h.liveness
  maxIdle := h.maxIdle
  idle := h.idle
  created := h.created
  linkCount := by simpa using h.linkCount
  link := by
    intro k hk
    rw [Pool.link_setLink, Pool.link_setLink, h.linkCount, h.link k hk]
    by_cases hnumber : number = k
    · rw [hlink (hnumber ▸ hk)]
    · simp [hnumber]
  out := h.out
  discarded := h.discarded
  services := h.services

/-- On both floors the same handler is out under a number. -/
lemma AgreesFrom.handler? (h : AgreesFrom old f g) (n : Nat) : f.handler? n = g.handler? n := by
  unfold Floor.handler?
  rw [h.out]

/-- On both floors the same connection runs under a number, on the same link; where the link is not
an old one, it has come as far on the one as on the other. -/
lemma AgreesFrom.service? (h : AgreesFrom old f g) (i : Nat) :
    (f.services[i]? = none ∧ g.services[i]? = none) ∨
    ∃ s t, f.services[i]? = some s ∧ g.services[i]? = some t ∧
      s.seenFrom old = t.seenFrom old := by
  have hi : f.services[i]?.map (·.seenFrom old) = g.services[i]?.map (·.seenFrom old) := by
    rw [← List.getElem?_map, h.services, List.getElem?_map]
  rcases hf : f.services[i]? with _ | s <;> rcases hg : g.services[i]? with _ | t <;>
    simp_all

/-- Two connections look the same when they differ at most in how far they have come on an old
link. -/
lemma seenFrom_eq_iff {s t : Service ρ σ} :
    s.seenFrom old = t.seenFrom old ↔
      s.link = t.link ∧ s.session = t.session ∧ (old ≤ s.link → s.connection = t.connection) := by
  unfold Service.seenFrom
  by_cases hs : s.link < old
  · by_cases ht : t.link < old
    · simp [hs, ht, Nat.not_le.mpr hs]
    · have hne : s.link ≠ t.link := by omega
      simp [hne]
  · by_cases ht : t.link < old
    · have hne : s.link ≠ t.link := by omega
      simp [hne]
    · simp [hs, ht, Nat.not_lt.mp hs]

/-- The same number of links is made on both floors. -/
lemma AgreesFrom.link_grown (h : AgreesFrom old f g) (n : Nat) {k : Nat} (hk : old ≤ k) :
    { f.pool with links := f.pool.links ++ List.replicate n Link.fresh }.link k =
      { g.pool with links := g.pool.links ++ List.replicate n Link.fresh }.link k := by
  rw [Pool.link_grown, Pool.link_grown, h.link k hk]

/-- Taking out a handler does the same on both floors, since no handler that is kept depends on its
old link. -/
lemma AgreesFrom.acquire (h : AgreesFrom old f g) (session : Session ρ σ) :
    AgreesFrom old (f.acquire session) (g.acquire session) := by
  unfold Floor.acquire
  rw [Pool.acquire_eq, Pool.acquire_eq, ← h.idle, ← h.linkCount, ← h.created]
  exact {
    liveness := h.liveness
    maxIdle := h.maxIdle
    idle := rfl
    created := rfl
    linkCount := by simp only [List.length_append, h.linkCount]
    link := fun k => h.link_grown _
    out := by rw [h.out]
    discarded := h.discarded
    services := h.services }

/-- So does putting one back. -/
lemma AgreesFrom.release (h : AgreesFrom old f g) (n : Nat) :
    AgreesFrom old (f.release n) (g.release n) := by
  unfold Floor.release
  rw [← h.handler? n]
  rcases f.handler? n with _ | handler
  · exact h
  simp only [Pool.release_eq]
  rw [← h.idle, ← h.linkCount, ← h.maxIdle]
  exact {
    liveness := h.liveness
    maxIdle := rfl
    idle := rfl
    created := h.created
    linkCount := by simp only [List.length_append, h.linkCount]
    link := fun k => h.link_grown 1
    out := by rw [h.out]
    discarded := by rw [h.discarded]
    services := h.services }

/-- So does resetting one. -/
lemma AgreesFrom.reset (h : AgreesFrom old f g) (n : Nat) (session : Option (Session ρ σ)) :
    AgreesFrom old (f.reset n session) (g.reset n session) := by
  unfold Floor.reset
  rw [← h.handler? n]
  rcases f.handler? n with _ | handler
  · exact h
  exact {
    liveness := h.liveness
    maxIdle := h.maxIdle
    idle := h.idle
    created := h.created
    linkCount := by simp only [Pool.reset, List.length_append, h.linkCount]
    link := fun k => h.link_grown 1
    out := by simp only [Pool.reset, h.out, h.linkCount]
    discarded := h.discarded
    services := h.services }

/-- A connection begins in the same way unless it begins on an old link, where it is not looked
at. -/
lemma AgreesFrom.serve (h : AgreesFrom old f g) (n : Nat) (id : Identifier) (now : Moment) :
    AgreesFrom old (f.serve n id now) (g.serve n id now) := by
  unfold Floor.serve Pool.begin
  rw [← h.handler? n]
  rcases f.handler? n with _ | handler
  · exact h
  rcases hsession : handler.session with _ | session
  · simp only [hsession]
    exact h.setLink handler.link fun hold => by rw [h.link _ hold]
  · simp only [hsession]
    have hstart : old ≤ handler.link →
        Connection.start f.pool.liveness id (f.pool.link handler.link) now session.start =
          Connection.start g.pool.liveness id (g.pool.link handler.link) now session.start :=
      fun hold => by rw [h.liveness, h.link _ hold]
    refine { h.setLink handler.link fun hold => by rw [hstart hold] with services := ?_ }
    rw [List.map_append, List.map_append, h.services]
    refine congrArg (_ ++ ·) ?_
    simp only [List.map_cons, List.map_nil, List.cons.injEq, and_true]
    exact seenFrom_eq_iff.mpr ⟨rfl, rfl, hstart⟩

/-- A connection moves in the same way unless it is on an old link. -/
lemma AgreesFrom.move (h : AgreesFrom old f g) (i : Nat) (shared : ρ) (m : Move) :
    AgreesFrom old (f.move i shared m) (g.move i shared m) := by
  unfold Floor.move
  obtain ⟨hf, hg⟩ | ⟨s, t, hf, hg, hst⟩ := h.service? i
  · rw [hf, hg]
    exact h
  obtain ⟨hlink, hsession, hconnection⟩ := seenFrom_eq_iff.mp hst
  rw [hf, hg]
  simp only [← hlink, ← hsession]
  have hmoved : old ≤ s.link →
      Connection.step s.session shared { s.connection with link := f.pool.link s.link } m =
        Connection.step s.session shared { t.connection with link := g.pool.link s.link } m :=
    fun hold => by rw [h.link _ hold, hconnection hold]
  refine { h.setLink s.link fun hold => by rw [hmoved hold] with services := ?_ }
  rw [List.map_set, List.map_set, h.services]
  refine congrArg (List.set _ i) (seenFrom_eq_iff.mpr ⟨rfl, rfl, fun hold => ?_⟩)
  rw [hmoved hold]

/-- Nothing changes where a list is set to what it holds. -/
lemma set_eq_self {β : Type} {l : List β} {i : Nat} {a : β} (h : l[i]? = some a) :
    l.set i a = l := by
  obtain ⟨hi, rfl⟩ := List.getElem?_eq_some_iff.mp h
  exact List.set_getElem_self hi

/-- Putting back a handler does not end the connections that were begun with it. -/
@[simp] lemma services_release (f : Floor ρ σ) (n : Nat) : (f.release n).services = f.services := by
  unfold release
  split <;> rfl

/-- Nor does resetting it. -/
@[simp] lemma services_reset (f : Floor ρ σ) (n : Nat) (session : Option (Session ρ σ)) :
    (f.reset n session).services = f.services := by
  unfold reset
  split <;> rfl

/-- A connection stays on its link. -/
@[simp] lemma services_move (f : Floor ρ σ) (i : Nat) (shared : ρ) (m : Move) :
    (f.move i shared m).services.map (·.link) = f.services.map (·.link) := by
  unfold move
  rcases hi : f.services[i]? with _ | s
  · rfl
  · dsimp only
    rw [List.map_set]
    exact set_eq_self (by simp [hi])

end Agreement

/-! ## Taking out a handler -/

end Floor

end KeyDirectory.Connection
