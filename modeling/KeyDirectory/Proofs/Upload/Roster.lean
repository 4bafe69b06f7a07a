import KeyDirectory.Proofs.Named
import KeyDirectory.Upload.Session
import Mathlib.Data.List.Nodup
import Mathlib.Data.List.Perm.Subperm
import Mathlib.Tactic.Lemma
import Mathlib.Tactic.SplitIfs

/-!
# The roster by identity

What registering and revoking do to the entry of each identity.

* `entry?_erase`, `entry?_enlist`: the two changes, seen by identity.
* `revoke_of_revoked`, `revoke_of_live`: a lease takes its entry away once.
* `Desk.register_eq_some`: registering adds one entry under an identity that was vacant.
* `Desk.register_isSome`: it always does, since not all identities that can be counted are in use.
-/

namespace KeyDirectory.Upload

/-- Drawing characters leaves no more reads than there were, and fewer when there is something to
draw. -/
lemma length_of_draw {n : Nat} {reads rest : List (List UInt8)} {chars : List Char}
    (h : draw n reads = some (chars, rest)) :
    rest.length ≤ reads.length ∧ (n ≠ 0 → rest.length < reads.length) := by
  induction reads generalizing n chars with
  | nil =>
      cases n with
      | zero =>
          cases h
          exact ⟨Nat.le_refl _, fun hn => absurd rfl hn⟩
      | succ n => cases h
  | cons read reads ih =>
      cases n with
      | zero =>
          cases h
          exact ⟨Nat.le_refl _, fun hn => absurd rfl hn⟩
      | succ n =>
          unfold draw at h
          obtain ⟨⟨more, left⟩, hmore, heq⟩ := Option.map_eq_some_iff.mp h
          cases heq
          have hrest := (ih hmore).1
          simp only [List.length_cons]
          omega

namespace Roster

/-! ## Entries -/

/-- The roster with one more entry, and with its count moved on. -/
def enlist (r : Roster) (counted : Nat) (identity : String) (entry : Entry) : Roster :=
  ⟨r.beginning, counted, (identity, entry) :: r.entries⟩

/-- Enlisting puts an entry under its identity and leaves the others. -/
lemma entry?_enlist (r : Roster) (counted : Nat) (identity name : String) (entry : Entry) :
    Roster.entry? (r.enlist counted identity entry) name =
      if name = identity then some entry else r.entry? name := by
  unfold enlist Roster.entry?
  by_cases h : name = identity
  · simp [h]
  · rw [Named.lookup_cons_of_ne h, if_neg h]

/-- Erasing leaves nothing under the identity and leaves the others. -/
lemma entry?_erase (r : Roster) (identity name : String) :
    Roster.entry? (r.erase identity) name = if name = identity then none else r.entry? name :=
  Named.lookup_filter_ne identity name r.entries

/-- Adding an entry under a vacant identity keeps the identities distinct. -/
lemma nodup_enlist {r : Roster} {identity : String} (counted : Nat) (entry : Entry)
    (h : (r.entries.map Prod.fst).Nodup) (hvacant : r.entry? identity = none) :
    ((r.enlist counted identity entry).entries.map Prod.fst).Nodup :=
  List.nodup_cons.mpr ⟨Named.lookup_eq_none_iff_not_mem.mp hvacant, h⟩

/-- Erasing keeps the names apart. -/
lemma nodup_erase {r : Roster} (identity : String) (h : (r.entries.map Prod.fst).Nodup) :
    ((r.erase identity).entries.map Prod.fst).Nodup :=
  (List.filter_sublist.map Prod.fst).nodup h

/-! ## Looking up and revoking -/

/-- A lookup finds the keys of an entry. -/
lemma get_of_entry? {r : Roster} {identity : String} {entry : Entry}
    (h : r.entry? identity = some entry) : r.get identity = .ok ⟨.upload, entry.keys⟩ := by
  unfold get
  rw [h]

/-- A name without an entry is unknown. -/
lemma get_of_vacant {r : Roster} {identity : String} (h : r.entry? identity = none) :
    r.get identity = .error (.notFound identity) := by
  unfold get
  rw [h]

/-- Revoking twice changes nothing. -/
lemma revoke_of_revoked (r : Roster) {lease : Lease} (h : lease.revoked = true) :
    r.revoke lease = (r, lease) := by
  unfold revoke
  rw [if_pos h]

/-- Revoking erases the entry and marks the lease. -/
lemma revoke_of_live (r : Roster) {lease : Lease} (h : lease.revoked = false) :
    r.revoke lease = (r.erase lease.identity, { lease with revoked := true }) := by
  unfold revoke
  rw [if_neg (by simp [h])]

/-- A lease that was revoked is marked, whether this was the first time or not. -/
lemma revoked_revoke (r : Roster) (lease : Lease) : (r.revoke lease).2.revoked = true := by
  rcases h : lease.revoked with _ | _
  · rw [r.revoke_of_live h]
  · rw [r.revoke_of_revoked h]
    exact h

/-! ## Registering -/

/-- Registering under a name succeeds only where it is vacant. -/
lemma registerAs_eq_some {r r' : Roster} {identity : String} {entry : Entry} {lease : Lease}
    (h : r.registerAs identity entry = some (r', lease)) :
    r.entry? identity = none ∧ r' = r.enlist r.counted identity entry ∧
      lease = ⟨identity, false⟩ := by
  unfold registerAs contains at h
  split_ifs at h with hheld
  cases h
  exact ⟨by simpa using hheld, rfl, rfl⟩

/-- Registering under a name fails only where it is taken. -/
lemma contains_of_registerAs_eq_none {r : Roster} {identity : String} {entry : Entry}
    (h : r.registerAs identity entry = none) : r.contains identity = true := by
  unfold registerAs at h
  split_ifs at h with hused
  exact hused

/-- Generating an identity changes nothing but the count. -/
lemma exists_counted_of_nextIdentity {r r' : Roster} {identity : String}
    {reads rest : List (List UInt8)} (h : r.nextIdentity reads = (identity, r', rest)) :
    ∃ counted, r' = { r with counted := counted } := by
  unfold nextIdentity at h
  split at h
  · cases h
    exact ⟨r.counted, rfl⟩
  · cases h
    exact ⟨r.counted + 1, rfl⟩

/-- However many tries it takes, an entry is enlisted under a vacant name. -/
lemma registerGo_eq_some {r r' : Roster} {entry : Entry} {lease : Lease} {tries : Nat}
    {reads rest : List (List UInt8)}
    (h : register.go entry tries r reads = some (r', lease, rest)) :
    ∃ identity counted, r.entry? identity = none ∧
      r' = r.enlist counted identity entry ∧ lease = ⟨identity, false⟩ := by
  induction tries generalizing r reads with
  | zero => cases h
  | succ tries ih =>
      unfold register.go at h
      split at h
      next identity counting left hnext =>
        obtain ⟨counted, rfl⟩ := exists_counted_of_nextIdentity hnext
        split at h
        · next given hgiven =>
          cases h
          exact ⟨identity, counted, registerAs_eq_some hgiven⟩
        · have hlater := ih h
          exact hlater

/-! ## Registering never fails -/

/-- When no try meets a vacant identity, those that could be counted are all in use. -/
lemma contains_of_go_eq_none {entry : Entry} {tries : Nat} {r : Roster}
    {reads : List (List UInt8)} (h : register.go entry tries r reads = none) {i : Nat}
    (hi : i + reads.length < tries) :
    r.contains (r.beginning ++ toString (r.counted + i)) = true := by
  induction tries generalizing r reads i with
  | zero => omega
  | succ tries ih =>
      unfold register.go nextIdentity at h
      rcases hdrawn : drawIdentity reads with _ | ⟨random, rest⟩
      · rw [hdrawn] at h
        simp only at h
        split at h
        · cases h
        · next hused =>
          cases i with
          | zero =>
              have hfirst := contains_of_registerAs_eq_none hused
              exact hfirst
          | succ i =>
              have hlater := ih h (show i + 0 < tries by omega)
              rw [Nat.add_assoc, Nat.add_comm 1 i] at hlater
              exact hlater
      · have hfewer : rest.length < reads.length := by
          unfold drawIdentity at hdrawn
          obtain ⟨⟨chars, left⟩, hdraw, heq⟩ := Option.map_eq_some_iff.mp hdrawn
          cases heq
          exact (length_of_draw hdraw).2 (by decide)
        rw [hdrawn] at h
        simp only at h
        split at h
        · cases h
        · exact ih h (by omega)

/-- Counted identities are distinct. -/
lemma countedIdentity_injective (beginning : String) :
    Function.Injective fun n : Nat => beginning ++ toString n := by
  intro m n heq
  have hdigits := (String.append_right_inj beginning).mp heq
  rw [Nat.toString_eq_ofList_toDigits, Nat.toString_eq_ofList_toDigits] at hdigits
  have hvalue := congrArg (fun text => Nat.ofDigitChars 10 (String.toList text) 0) hdigits
  simpa only [String.toList_ofList, Nat.ofDigitChars_ten_toDigits] using hvalue

/-- Registering always meets a vacant identity: not all that could be counted are in use. -/
lemma register_isSome (r : Roster) (reads : List (List UInt8)) (entry : Entry) :
    (r.register reads entry).isSome = true := by
  by_contra hnone
  rw [Option.not_isSome_iff_eq_none] at hnone
  unfold register at hnone
  let candidates := (List.range (r.entries.length + 1)).map fun i =>
    r.beginning ++ toString (r.counted + i)
  have hdistinct : candidates.Nodup := by
    refine List.Nodup.map ?_ List.nodup_range
    exact (countedIdentity_injective r.beginning).comp fun _ _ => Nat.add_left_cancel
  have hused : candidates ⊆ r.entries.map Prod.fst := by
    intro identity hidentity
    obtain ⟨i, hi, rfl⟩ := List.mem_map.mp hidentity
    rw [List.mem_range] at hi
    have hcontains := contains_of_go_eq_none hnone (show i + reads.length < _ by omega)
    by_contra hnot
    rw [← Named.lookup_eq_none_iff_not_mem] at hnot
    unfold contains Roster.entry? at hcontains
    rw [hnot] at hcontains
    cases hcontains
  have hlength := (hdistinct.subperm hused).length_le
  simp only [candidates, List.length_map, List.length_range] at hlength
  omega

/-- Registering adds one entry with the given keys under an identity that was vacant, and gives out
a lease of it. -/
lemma exists_register_eq (r : Roster) (reads : List (List UInt8)) (entry : Entry) :
    ∃ identity counted rest, r.entry? identity = none ∧
      r.register reads entry = some (r.enlist counted identity entry, ⟨identity, false⟩, rest) := by
  obtain ⟨⟨r', lease, rest⟩, hregister⟩ :=
    Option.isSome_iff_exists.mp (register_isSome r reads entry)
  obtain ⟨identity, counted, hvacant, rfl, rfl⟩ := registerGo_eq_some hregister
  exact ⟨identity, counted, rest, hvacant, hregister⟩

end Roster

/-! ## The desk -/

/-- Registering adds one entry with the given keys under an identity that was vacant, and gives out
a lease of it. -/
lemma Desk.register_eq_some {d d' : Desk} {keys : List PublicKey} {lease : Lease}
    (h : d.register keys = some (d', lease)) :
    ∃ identity counted, d.roster.entry? identity = none ∧
      d'.roster = d.roster.enlist counted identity ⟨keys, d.today⟩ ∧ lease = ⟨identity, false⟩ := by
  unfold Desk.register at h
  obtain ⟨⟨roster, given, rest⟩, hregister, heq⟩ := Option.map_eq_some_iff.mp h
  cases heq
  exact Roster.registerGo_eq_some hregister

/-- The desk always finds an identity. -/
lemma Desk.register_isSome (d : Desk) (keys : List PublicKey) :
    (d.register keys).isSome = true := by
  unfold Desk.register
  rw [Option.isSome_map]
  exact Roster.register_isSome _ _ _

/-- Revoking takes the entry of a live lease away. -/
lemma Desk.revoke_roster (d : Desk) {lease : Lease} (h : lease.revoked = false) :
    (d.revoke lease).1.roster = d.roster.erase lease.identity := by
  unfold Desk.revoke
  rw [d.roster.revoke_of_live h]

end KeyDirectory.Upload
