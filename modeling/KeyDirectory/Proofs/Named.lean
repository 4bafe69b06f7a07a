import Mathlib.Tactic.Lemma

/-!
# Lists of named and of numbered values

Lookups in a list of names with their values, as caches and rosters keep them, and in a list of
tasks by their numbers.
-/

namespace KeyDirectory.Named

variable {α : Type}

/-- A lookup passes by what has another name. -/
lemma lookup_cons_of_ne {key name : String} (h : key ≠ name) (e : α)
    (l : List (String × α)) : ((name, e) :: l).lookup key = l.lookup key := by
  rw [List.lookup_cons, beq_false_of_ne h]

/-- Without the values of a name, that name is not found, and nothing else changes. -/
lemma lookup_filter_ne (key k : String) (l : List (String × α)) :
    (l.filter fun (name, _) => name ≠ key).lookup k =
      if k = key then none else l.lookup k := by
  induction l with
  | nil => simp
  | cons entry rest ih =>
      obtain ⟨name, e⟩ := entry
      by_cases hname : name = key
      · rw [List.filter_cons_of_neg (by simpa using hname), ih]
        by_cases h : k = key
        · rw [if_pos h, if_pos h]
        · rw [if_neg h, if_neg h, lookup_cons_of_ne (hname ▸ h)]
      · rw [List.filter_cons_of_pos (by simpa using hname)]
        by_cases h : k = name
        · subst h
          simp [hname]
        · rw [lookup_cons_of_ne h, lookup_cons_of_ne h, ih]

/-- What is found is listed. -/
lemma mem_of_lookup {key : String} {e : α} {l : List (String × α)}
    (h : l.lookup key = some e) : (key, e) ∈ l := by
  obtain ⟨front, back, rfl, -⟩ := List.lookup_eq_some_iff.mp h
  exact List.mem_append_right front List.mem_cons_self

/-- What is listed is found, when no name is listed twice. -/
lemma lookup_of_mem {l : List (String × α)} (hdistinct : (l.map Prod.fst).Nodup)
    {entry : String × α} (h : entry ∈ l) : l.lookup entry.1 = some entry.2 := by
  induction l with
  | nil => cases h
  | cons first rest ih =>
      obtain ⟨hfirst, hrest⟩ := List.nodup_cons.mp hdistinct
      rcases List.mem_cons.mp h with rfl | hlater
      · rw [List.lookup_cons, beq_self_eq_true]
      · have hne : entry.1 ≠ first.1 := fun heq => hfirst (heq ▸ List.mem_map_of_mem hlater)
        rw [lookup_cons_of_ne hne, ih hrest hlater]

/-- What is not found is not named. -/
lemma lookup_eq_none_iff_not_mem {key : String} {l : List (String × α)} :
    l.lookup key = none ↔ key ∉ l.map Prod.fst := by
  rw [List.lookup_eq_none_iff, List.mem_map]
  constructor
  · rintro h ⟨pair, hmem, rfl⟩
    simpa using h pair hmem
  · intro h pair hmem
    simp only [bne_iff_ne]
    exact fun heq => h ⟨pair, hmem, heq.symm⟩

/-! ## Numbers -/

/-- A value splits its list where it stands. -/
lemma exists_split_of_getElem? {l : List α} {i : Nat} {a : α} (h : l[i]? = some a) :
    ∃ front back, l = front ++ a :: back ∧ ∀ b, l.set i b = front ++ b :: back := by
  obtain ⟨hi, rfl⟩ := List.getElem?_eq_some_iff.mp h
  refine ⟨l.take i, l.drop (i + 1), by simp, fun b => ?_⟩
  rw [List.set_eq_take_append_cons_drop, if_pos hi]

/-- After one place of a list is changed, that place holds what was put there and the others what
they held. -/
lemma getElem?_set_eq_some_iff {l : List α} {i : Nat} {a : α} (h : l[i]? = some a) {b c : α}
    {j : Nat} : (l.set i b)[j]? = some c ↔ j = i ∧ c = b ∨ j ≠ i ∧ l[j]? = some c := by
  obtain ⟨hi, -⟩ := List.getElem?_eq_some_iff.mp h
  rcases Decidable.em (j = i) with rfl | hne
  · simp [List.getElem?_set_self hi, eq_comm]
  · simp [List.getElem?_set_ne (Ne.symm hne), hne]

/-- What is added to a list at its end comes last, and nothing else moves. -/
lemma getElem?_concat_eq_some_iff {l : List α} {a b : α} {i : Nat} :
    (l ++ [a])[i]? = some b ↔ l[i]? = some b ∨ i = l.length ∧ b = a := by
  rcases Nat.lt_trichotomy i l.length with hlt | rfl | hgt
  · rw [List.getElem?_append_left hlt]
    exact (or_iff_left fun h => Nat.ne_of_lt hlt h.1).symm
  · simp [eq_comm]
  · have hout : (l ++ [a]).length ≤ i := by simpa using Nat.succ_le_of_lt hgt
    rw [List.getElem?_eq_none hout, List.getElem?_eq_none (Nat.le_of_lt hgt)]
    simp [Nat.ne_of_gt hgt]

end KeyDirectory.Named
