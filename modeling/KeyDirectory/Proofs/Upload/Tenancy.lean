import KeyDirectory.Proofs.Upload.Roster
import KeyDirectory.Upload.Tenancy
import Mathlib.Logic.Function.Basic

/-!
# The roster agrees with the ledger

A lease takes its entry away by identity, and identities are used again.  What keeps an old lease
from the entry of a new one is its mark: a lease that the ledger has as given up is marked as
revoked, or gone, and then revoking does nothing.

* `Covers`: a roster lists what is held, by number, each identity once.
* `Sound`: the invariant, that the roster covers the live leases and the marks are right.
* `sound_step`, `sound_run`: it holds in whatever order leases are given out and given up.
* `run_agrees_with_ledger`: the result.
-/

namespace KeyDirectory.Upload

/-! ## Rosters and what they list -/

namespace Roster

/-- A roster lists what is held under each number, and nothing else; no identity is held under two
numbers. -/
structure Covers (r : Roster) (held : Nat → Option (String × List PublicKey)) : Prop where
  once : (r.entries.map Prod.fst).Nodup
  listed : ∀ i identity keys, held i = some (identity, keys) →
    ∃ entry, r.entry? identity = some entry ∧ entry.keys = keys
  named : ∀ identity entry, r.entry? identity = some entry →
    ∃ i, held i = some (identity, entry.keys)
  apart : ∀ i j identity keys keys', held i = some (identity, keys) →
    held j = some (identity, keys') → i = j

variable {r : Roster} {held : Nat → Option (String × List PublicKey)}

/-- One more entry is one more that is held. -/
lemma Covers.enlist (h : r.Covers held) {identity : String} (hvacant : r.entry? identity = none)
    {n : Nat} (hn : held n = none) (counted : Nat) (entry : Entry) :
    (r.enlist counted identity entry).Covers
      (Function.update held n (some (identity, entry.keys))) where
  once := nodup_enlist counted entry h.once hvacant
  listed := by
    intro i name keys hi
    rw [entry?_enlist]
    by_cases hin : i = n
    · subst hin
      rw [Function.update_self] at hi
      cases hi
      exact ⟨entry, if_pos rfl, rfl⟩
    · rw [Function.update_of_ne hin] at hi
      obtain ⟨old, hold, hkeys⟩ := h.listed i name keys hi
      have hne : name ≠ identity := by
        rintro rfl
        rw [hvacant] at hold
        cases hold
      exact ⟨old, by rw [if_neg hne, hold], hkeys⟩
  named := by
    intro name old hold
    rw [entry?_enlist] at hold
    by_cases hname : name = identity
    · rw [if_pos hname] at hold
      cases hold
      exact ⟨n, by rw [hname, Function.update_self]⟩
    · rw [if_neg hname] at hold
      obtain ⟨i, hi⟩ := h.named name old hold
      have hin : i ≠ n := by
        rintro rfl
        rw [hn] at hi
        cases hi
      exact ⟨i, by rw [Function.update_of_ne hin, hi]⟩
  apart := by
    have hfresh : ∀ i keys, held i ≠ some (identity, keys) := by
      intro i keys hi
      obtain ⟨old, hold, -⟩ := h.listed i identity keys hi
      rw [hvacant] at hold
      cases hold
    intro i j name keys keys' hi hj
    by_cases hin : i = n <;> by_cases hjn : j = n
    · rw [hin, hjn]
    · rw [hin, Function.update_self] at hi
      rw [Function.update_of_ne hjn] at hj
      cases hi
      exact absurd hj (hfresh j keys')
    · rw [hjn, Function.update_self] at hj
      rw [Function.update_of_ne hin] at hi
      cases hj
      exact absurd hi (hfresh i keys)
    · rw [Function.update_of_ne hin] at hi
      rw [Function.update_of_ne hjn] at hj
      exact h.apart i j name keys keys' hi hj

/-- What is erased is held no longer. -/
lemma Covers.erase (h : r.Covers held) {i : Nat} {identity : String} {keys : List PublicKey}
    (hi : held i = some (identity, keys)) :
    (r.erase identity).Covers (Function.update held i none) := by
  -- Whatever is still held is held under another identity than the one that is erased.
  have hkept : ∀ {j name keys'}, Function.update held i none j = some (name, keys') →
      held j = some (name, keys') ∧ name ≠ identity := by
    intro j name keys' hj
    by_cases hji : j = i
    · rw [hji, Function.update_self] at hj
      cases hj
    · rw [Function.update_of_ne hji] at hj
      refine ⟨hj, ?_⟩
      rintro rfl
      exact hji (h.apart j i name keys' keys hj hi)
  refine ⟨nodup_erase identity h.once, ?_, ?_, ?_⟩
  · intro j name keys' hj
    obtain ⟨hheld, hne⟩ := hkept hj
    obtain ⟨entry, hentry, hkeys⟩ := h.listed j name keys' hheld
    exact ⟨entry, by rw [entry?_erase, if_neg hne, hentry], hkeys⟩
  · intro name entry hentry
    rw [entry?_erase] at hentry
    split_ifs at hentry with hname
    obtain ⟨j, hj⟩ := h.named name entry hentry
    have hji : j ≠ i := by
      rintro rfl
      rw [hi] at hj
      cases hj
      exact hname rfl
    exact ⟨j, by rw [Function.update_of_ne hji, hj]⟩
  · intro j k name keys' keys'' hj hk
    exact h.apart j k name keys' keys'' (hkept hj).1 (hkept hk).1

end Roster

namespace Tenancy

/-! ## Leases with their lines of the ledger -/

/-- A lease, if anything is left of it, with its line of the ledger. -/
abbrev Row := Option Lease × Option (List PublicKey)

/-- What is held under each number. -/
def lot (rows : List Row) (i : Nat) : Option (String × List PublicKey) :=
  rows[i]?.bind holding

/-- The lease is marked as the ledger tells; one that is gone is not live. -/
def IsMarked : Row → Prop
  | (some lease, line) => lease.revoked = line.isNone
  | (none, line) => line = none

/-- One more row is one more that is held, or not, under the next number. -/
lemma lot_concat (rows : List Row) (row : Row) :
    lot (rows ++ [row]) = Function.update (lot rows) rows.length (holding row) := by
  funext i
  unfold lot
  rcases Nat.lt_trichotomy i rows.length with hlt | rfl | hgt
  · rw [Function.update_of_ne (Nat.ne_of_lt hlt), List.getElem?_append_left hlt]
  · rw [Function.update_self, List.getElem?_concat_length]
    rfl
  · rw [Function.update_of_ne (Nat.ne_of_gt hgt), List.getElem?_eq_none (by simp; omega),
      List.getElem?_eq_none (Nat.le_of_lt hgt)]

/-- A row that is given up holds nothing. -/
lemma lot_set (rows : List Row) (i : Nat) (left : Option Lease) :
    lot (rows.set i (left, none)) = Function.update (lot rows) i none := by
  funext j
  unfold lot
  by_cases hj : j = i
  · subst hj
    rw [Function.update_self, List.getElem?_set, if_pos rfl]
    rcases left with _ | lease <;> split_ifs <;> rfl
  · rw [Function.update_of_ne hj, List.getElem?_set_ne (Ne.symm hj)]

/-- Setting the same place in two lists sets it in the list of pairs. -/
lemma zip_set {α β : Type} (l : List α) (m : List β) (i : Nat) (a : α) (b : β) :
    (l.set i a).zip (m.set i b) = (l.zip m).set i (a, b) := by
  induction l generalizing m i with
  | nil => rfl
  | cons x l ih =>
      rcases m with _ | ⟨y, m⟩
      · simp
      · rcases i with _ | i
        · rfl
        · exact congrArg ((x, y) :: ·) (ih m i)

/-! ## The invariant -/

/-- The roster covers the leases that the ledger has as live, and each lease is marked as the
ledger tells. -/
structure Sound (t : Tenancy) (book : Ledger) : Prop where
  numbered : t.leases.length = book.length
  marked : ∀ row ∈ t.leases.zip book, IsMarked row
  covers : t.roster.Covers (lot (t.leases.zip book))

variable {t : Tenancy} {book : Ledger}

/-- A new house agrees with an empty book. -/
lemma sound_opened (beginning : String) : Sound (opened beginning) [] :=
  ⟨rfl, fun _ h => absurd h List.not_mem_nil,
    ⟨List.nodup_nil, fun _ _ _ h => (nomatch h), fun _ _ h => (nomatch h),
      fun _ _ _ _ _ h => (nomatch h)⟩⟩

/-- Registering writes a new line of the book. -/
lemma sound_register (h : t.Sound book) (today : Timestamp) (reads : List (List UInt8))
    (keys : List PublicKey) : (t.register today reads keys).Sound (book ++ [some keys]) := by
  obtain ⟨identity, counted, rest, hvacant, hregister⟩ :=
    t.roster.exists_register_eq reads ⟨keys, today⟩
  have hrows : (t.leases ++ [some (⟨identity, false⟩ : Lease)]).zip (book ++ [some keys]) =
      t.leases.zip book ++ [(some ⟨identity, false⟩, some keys)] :=
    List.zip_append h.numbered
  have hnext : lot (t.leases.zip book) (t.leases.zip book).length = none := by
    rw [lot, List.getElem?_eq_none (Nat.le_refl _), Option.bind_none]
  unfold register
  rw [hregister]
  refine ⟨by simp [h.numbered], fun row hrow => ?_, ?_⟩
  · simp only [hrows, List.mem_append, List.mem_singleton] at hrow
    rcases hrow with hbefore | rfl
    · exact h.marked row hbefore
    · rfl
  · rw [hrows, lot_concat]
    exact h.covers.enlist hvacant hnext counted ⟨keys, today⟩

/-- A lease and its line stand in the same row. -/
lemma getElem?_rows {i : Nat} {left : Option Lease} {line : Option (List PublicKey)}
    (hleft : t.leases[i]? = some left) (hline : book[i]? = some line) :
    (t.leases.zip book)[i]? = some (left, line) := by
  rw [List.zip, List.getElem?_zipWith, hleft, hline]

/-- Every lease has its line of the ledger, and is marked as it tells. -/
lemma Sound.exists_line (h : t.Sound book) {i : Nat} {left : Option Lease}
    (hleft : t.leases[i]? = some left) :
    ∃ line, book[i]? = some line ∧ IsMarked (left, line) := by
  obtain ⟨hlt, -⟩ := List.getElem?_eq_some_iff.mp hleft
  have hline := List.getElem?_eq_getElem (h.numbered ▸ hlt)
  exact ⟨_, hline, h.marked _ (List.mem_of_getElem? (getElem?_rows hleft hline))⟩

/-- Every line of the ledger stands beside a lease, which is marked as it tells. -/
lemma Sound.exists_left (h : t.Sound book) {i : Nat} {line : Option (List PublicKey)}
    (hline : book[i]? = some line) :
    ∃ left, t.leases[i]? = some left ∧ IsMarked (left, line) := by
  obtain ⟨hlt, -⟩ := List.getElem?_eq_some_iff.mp hline
  have hleft := List.getElem?_eq_getElem (h.numbered ▸ hlt)
  exact ⟨_, hleft, h.marked _ (List.mem_of_getElem? (getElem?_rows hleft hline))⟩

/-- A lease is given up: nothing of it is left, or it is marked as revoked. -/
lemma sound_giveUp (h : t.Sound book) {i : Nat} {lease : Lease}
    (hlease : t.leases[i]? = some (some lease)) {left : Option Lease}
    (hleft : IsMarked (left, none)) :
    Sound ⟨(t.roster.revoke lease).1, t.leases.set i left⟩ (book.set i none) := by
  obtain ⟨line, hline, hmark⟩ := h.exists_line hlease
  have hheld : lot (t.leases.zip book) i = holding (some lease, line) := by
    rw [lot, getElem?_rows hlease hline, Option.bind_some]
  refine ⟨by simp [h.numbered], fun row hmem => ?_, ?_⟩
  · rw [zip_set] at hmem
    rcases List.mem_or_eq_of_mem_set hmem with hbefore | rfl
    · exact h.marked row hbefore
    · exact hleft
  · rw [zip_set, lot_set]
    rcases line with _ | keys
    · -- The lease was given up before: its mark keeps it from the roster.
      have hnothing : lot (t.leases.zip book) i = none := hheld
      rw [t.roster.revoke_of_revoked hmark, ← hnothing, Function.update_eq_self]
      exact h.covers
    · rw [t.roster.revoke_of_live hmark]
      exact h.covers.erase hheld

/-- Where there is no lease, the ledger has none as live. -/
lemma Sound.set_eq (h : t.Sound book) {i : Nat} (hlease : t.leases[i]?.join = none) :
    book.set i none = book := by
  rcases hline : book[i]? with _ | line
  · exact List.set_eq_of_length_le (List.getElem?_eq_none_iff.mp hline)
  · obtain ⟨left, hleft, hmark⟩ := h.exists_left hline
    rw [hleft, Option.join_some] at hlease
    subst hlease
    obtain rfl : line = none := hmark
    obtain ⟨hlt, heq⟩ := List.getElem?_eq_some_iff.mp hline
    rw [← heq, List.set_getElem_self]

/-- Revoking strikes the line out. -/
lemma sound_revoke (h : t.Sound book) (i : Nat) : (t.revoke i).Sound (book.set i none) := by
  unfold revoke
  rcases hlease : t.leases[i]? with _ | _ | lease
  · exact (h.set_eq (by rw [hlease]; rfl)).symm ▸ h
  · exact (h.set_eq (by rw [hlease]; rfl)).symm ▸ h
  · have hmarked : IsMarked (some (t.roster.revoke lease).2, none) :=
      t.roster.revoked_revoke lease
    exact sound_giveUp h hlease hmarked

/-- Dropping a lease strikes its line out. -/
lemma sound_drop (h : t.Sound book) (i : Nat) : (t.drop i).Sound (book.set i none) := by
  unfold drop
  rcases hlease : t.leases[i]? with _ | _ | lease
  · exact (h.set_eq (by rw [hlease]; rfl)).symm ▸ h
  · exact (h.set_eq (by rw [hlease]; rfl)).symm ▸ h
  · exact sound_giveUp h hlease rfl

/-- Whatever the operation, the roster covers the live leases. -/
lemma sound_step (h : t.Sound book) (op : Operation) : (t.step op).Sound (book.note op) := by
  cases op with
  | register today reads keys => exact sound_register h today reads keys
  | revoke i => exact sound_revoke h i
  | drop i => exact sound_drop h i
  | get identity => exact h

/-- Every run agrees with its book. -/
lemma sound_run (h : t.Sound book) (ops : List Operation) :
    (t.run ops).Sound (ops.foldl Ledger.note book) := by
  induction ops generalizing t book with
  | nil => exact h
  | cons op ops ih => exact ih (sound_step h op)

/-! ## Agreement -/

/-- What is live is what some row lets. -/
lemma mem_live {p : String × List PublicKey} :
    p ∈ t.live book ↔ ∃ i, lot (t.leases.zip book) i = some p := by
  rw [live, List.mem_filterMap]
  simp only [lot, List.mem_iff_getElem?, Option.bind_eq_some_iff]
  constructor
  · rintro ⟨row, ⟨i, hrow⟩, hheld⟩
    exact ⟨i, row, hrow, hheld⟩
  · rintro ⟨i, row, hrow, hheld⟩
    exact ⟨row, ⟨i, hrow⟩, hheld⟩

/-- No identity is live twice. -/
lemma Sound.nodup_live (h : t.Sound book) : ((t.live book).map Prod.fst).Nodup := by
  rw [List.Nodup, List.pairwise_map, live, List.pairwise_filterMap, List.pairwise_iff_getElem]
  intro i j hi hj hlt p hp q hq heq
  have hfirst : lot (t.leases.zip book) i = some p := by
    rw [lot, List.getElem?_eq_getElem hi, Option.bind_some, hp]
  have hsecond : lot (t.leases.zip book) j = some q := by
    rw [lot, List.getElem?_eq_getElem hj, Option.bind_some, hq]
  obtain ⟨identity, keys⟩ := p
  obtain ⟨identity', keys'⟩ := q
  obtain rfl : identity = identity' := heq
  exact Nat.ne_of_lt hlt (h.covers.apart i j identity keys keys' hfirst hsecond)

/-- The entries are those of the live leases. -/
lemma Sound.perm_live (h : t.Sound book) :
    (t.roster.entries.map fun (identity, entry) => (identity, entry.keys)).Perm
      (t.live book) := by
  have hnames : ((t.roster.entries.map fun (identity, entry) => (identity, entry.keys)).map
      Prod.fst).Nodup := by
    rw [List.map_map]
    exact h.covers.once
  refine (List.perm_ext_iff_of_nodup hnames.of_map h.nodup_live.of_map).mpr ?_
  rintro ⟨identity, keys⟩
  rw [mem_live, List.mem_map]
  constructor
  · rintro ⟨⟨name, entry⟩, hmem, heq⟩
    cases heq
    exact h.covers.named identity entry (Named.lookup_of_mem h.covers.once hmem)
  · rintro ⟨i, hheld⟩
    obtain ⟨entry, hentry, rfl⟩ := h.covers.listed i identity keys hheld
    exact ⟨(identity, entry), Named.mem_of_lookup hentry, rfl⟩

/-- There are as many live leases as the ledger has live lines. -/
lemma Sound.length_live (h : t.Sound book) : (t.live book).length = book.countP Option.isSome := by
  have hlines : (t.leases.zip book).map Prod.snd = book :=
    List.map_snd_zip (Nat.le_of_eq h.numbered.symm)
  rw [live, List.length_filterMap_eq_countP]
  conv_rhs => rw [← hlines, List.countP_map]
  refine List.countP_congr fun row hrow => ?_
  have hmark := h.marked row hrow
  rcases row with ⟨_ | lease, _ | keys⟩ <;> simp_all [holding, IsMarked]

/-- A sound book agrees with the roster name by name. -/
lemma Sound.agrees (h : t.Sound book) : t.Agrees book where
  numbered := h.numbered
  leased := by
    intro i keys hline
    obtain ⟨_ | lease, hlease, hmark⟩ := h.exists_left hline
    · cases hmark
    · have hheld : lot (t.leases.zip book) i = some (lease.identity, keys) := by
        rw [lot, getElem?_rows hlease hline, Option.bind_some, holding]
      obtain ⟨entry, hentry, rfl⟩ := h.covers.listed i _ _ hheld
      exact ⟨lease, hlease, Roster.get_of_entry? hentry⟩
  apart := h.nodup_live
  exact := h.perm_live
  vacant := by
    intro identity hidentity
    rcases hentry : t.roster.entry? identity with _ | entry
    · exact Roster.get_of_vacant hentry
    · obtain ⟨i, hheld⟩ := h.covers.named identity entry hentry
      exact absurd (List.mem_map_of_mem (mem_live.mpr ⟨i, hheld⟩)) hidentity
  size_eq := by
    have hlength := h.perm_live.length_eq
    rw [List.length_map, h.length_live] at hlength
    exact hlength
  spent := by
    intro i hline
    unfold revoke drop
    rcases hlease : t.leases[i]? with _ | _ | lease
    · exact ⟨rfl, rfl⟩
    · exact ⟨rfl, rfl⟩
    · obtain ⟨line, hbook, hmark⟩ := h.exists_line hlease
      rw [hbook, Option.join_some] at hline
      subst hline
      simp only [t.roster.revoke_of_revoked hmark, and_self]

/-- In every run, with leases revoked and dropped in any order and any number of times, and with
whatever identities the random generator brings up again: the roster agrees with the ledger. -/
theorem run_agrees_with_ledger (beginning : String) (ops : List Operation) :
    ((opened beginning).run ops).Agrees (ledger ops) :=
  (sound_run (sound_opened beginning) ops).agrees

/-- A lease that is revoked again, or dropped late, leaves a later entry of the same identity
alone. -/
example :
    let reads := [List.replicate 32 0]
    let t := (opened "u-").run [.register ⟨0, 0⟩ reads [], .revoke 0, .register ⟨5, 0⟩ reads [],
      .revoke 0, .drop 0]
    t.roster.entries = [("u-AAAAAAAAAA", ⟨[], ⟨5, 0⟩⟩)] ∧
      t.leases = [none, some ⟨"u-AAAAAAAAAA", false⟩] := by
  decide +kernel

end Tenancy

end KeyDirectory.Upload
