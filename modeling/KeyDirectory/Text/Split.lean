/-!
# Cutting text at a separator

`cutAtFirst` finds the two sides of the first separator, `pieces` all the parts between
separators.  Both keep every character that is not a separator.
-/

namespace KeyDirectory.Text

/-- The parts before and after the first `sep`, when there is one. -/
def cutAtFirst [DecidableEq α] (sep : α) : List α → Option (List α × List α)
  | [] => none
  | c :: rest =>
    if c = sep then some ([], rest)
    else (cutAtFirst sep rest).map fun (before, after) => (c :: before, after)

/-- The parts between separators; a text without a separator is its only part. -/
def pieces [DecidableEq α] (sep : α) : List α → List (List α)
  | [] => [[]]
  | c :: rest =>
    if c = sep then [] :: pieces sep rest
    else match pieces sep rest with
      | [] => [[c]]
      | first :: others => (c :: first) :: others

/-- `cutAtFirst` on strings. -/
def cutText (sep : Char) (s : String) : Option (String × String) :=
  (cutAtFirst sep s.toList).map fun (before, after) => (String.ofList before, String.ofList after)

/-- `pieces` on strings. -/
def splitText (sep : Char) (s : String) : List String :=
  (pieces sep s.toList).map String.ofList

/-- What is left of a text after the given beginning, when it begins so. -/
def afterBeginning? [DecidableEq α] : List α → List α → Option (List α)
  | [], s => some s
  | _ :: _, [] => none
  | b :: beginning, c :: s => if b = c then afterBeginning? beginning s else none

/-- The rest after a beginning is what the beginning has to be put before to give the whole. -/
theorem afterBeginning?_eq_some_iff [DecidableEq α] {beginning s rest : List α} :
    afterBeginning? beginning s = some rest ↔ s = beginning ++ rest := by
  induction beginning generalizing s with
  | nil => simp [afterBeginning?]
  | cons b beginning ih =>
    cases s with
    | nil => simp [afterBeginning?]
    | cons c s =>
      by_cases h : b = c
      · simp [afterBeginning?, h, ih]
      · simp [afterBeginning?, h, Ne.symm h]

/-- A cut is made at a separator before which there is none. -/
theorem cutAtFirst_eq_some_iff [DecidableEq α] {sep : α} {s before after : List α} :
    cutAtFirst sep s = some (before, after) ↔ s = before ++ sep :: after ∧ sep ∉ before := by
  induction s generalizing before with
  | nil => simp [cutAtFirst]
  | cons c s ih =>
    by_cases h : c = sep
    · subst h
      cases before with
      | nil => simp [cutAtFirst]
      | cons b before => simp [cutAtFirst]; intro h _ h'; exact absurd h h'
    · cases before with
      | nil => simp [cutAtFirst, h]
      | cons b before =>
        simp only [cutAtFirst, h, if_false, Option.map_eq_some_iff, Prod.exists, Prod.mk.injEq,
          List.cons.injEq, List.cons_append, List.mem_cons, not_or]
        constructor
        · rintro ⟨x, y, hxy, ⟨rfl, rfl⟩, rfl⟩
          exact ⟨⟨rfl, (ih.1 hxy).1⟩, fun e => h e.symm, (ih.1 hxy).2⟩
        · rintro ⟨⟨rfl, rfl⟩, _, hmem⟩
          exact ⟨before, after, ih.2 ⟨rfl, hmem⟩, ⟨rfl, rfl⟩, rfl⟩

end KeyDirectory.Text
