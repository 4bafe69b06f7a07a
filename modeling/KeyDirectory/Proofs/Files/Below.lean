import KeyDirectory.Proofs.Source.Folder
import KeyDirectory.Server.StaticFolder

/-!
# Walking below a folder

A path made of a folder and of names below it is walked to the folder first and then from name to
name, so what it leads to depends on what stands below the folder alone.

* `find_below`: such a path leads where the names lead from the folder.
* `descend_of_walk`, `walk_of_descend`: a walk over names is a descent, if the names are not too
  long.
* `walk_below_file`, `walk_of_descend_eq_none`: why a walk over names fails.
* `find_alike`: trees that are alike below the folder answer alike.
-/

namespace KeyDirectory.Files

open Folder (IsPlainName)

variable {root root' here here' node : Node} {folder name : String} {names : List String}

/-! ## The path of names below a folder -/

/-- A text without a slash is a path of one name. -/
lemma splitText_of_not_mem (h : '/' ∉ name.toList) : Text.splitText '/' name = [name] := by
  rw [Text.splitText, Text.pieces_of_not_mem h]
  simp

/-- The steps of the path are those of the folder and then the names.  The empty path has no step of
its own, and a slash at the end of the path of the folder is none either. -/
lemma splitText_below (hne : names ≠ []) (h : ∀ name ∈ names, IsPlainName name) (folder : String) :
    ∃ steps, Text.splitText '/' (names.foldl join folder) = steps ++ names ∧
      (folder = "" ∧ steps = [] ∨ folder ≠ "" ∧
        (Text.splitText '/' folder = steps ∨ Text.splitText '/' folder = steps ++ [""])) := by
  induction names generalizing folder with
  | nil => exact absurd rfl hne
  | cons name names ih =>
      obtain ⟨hname, hnames⟩ := List.forall_mem_cons.mp h
      have hone : ∃ steps, Text.splitText '/' (join folder name) = steps ++ [name] ∧
          (folder = "" ∧ steps = [] ∨ folder ≠ "" ∧
            (Text.splitText '/' folder = steps ∨ Text.splitText '/' folder = steps ++ [""])) := by
        by_cases hempty : folder = ""
        · subst hempty
          have hjoin : join "" name = name := String.empty_append
          refine ⟨[], ?_, .inl ⟨rfl, rfl⟩⟩
          rw [hjoin, splitText_of_not_mem hname.oneStep, List.nil_append]
        · obtain ⟨steps, hsplit, hfolder⟩ := splitText_join hempty hname.oneStep
          exact ⟨steps, hsplit, .inr ⟨hempty, hfolder⟩⟩
      by_cases hlast : names = []
      · subst hlast
        exact hone
      · obtain ⟨front, hfront, hfolder⟩ := hone
        obtain ⟨steps, hsplit, hjoin⟩ := ih hlast hnames (join folder name)
        refine ⟨front, ?_, hfolder⟩
        rcases hjoin with ⟨hempty, -⟩ | ⟨-, heq | heq⟩
        · exact absurd hempty (join_ne_empty hname.notEmpty folder)
        · rw [List.foldl_cons, hsplit, ← heq, hfront, List.append_assoc, List.singleton_append]
        · rw [hfront] at heq
          obtain ⟨-, hnil⟩ := List.append_inj' heq rfl
          exact absurd (List.singleton_inj.mp hnil) hname.notEmpty

/-- A path that names are put after is not empty, unless there are none and nothing to put them
after. -/
lemma below_ne_empty (h : ∀ name ∈ names, IsPlainName name) (hsome : names ≠ [] ∨ folder ≠ "") :
    names.foldl join folder ≠ "" := by
  induction names generalizing folder with
  | nil => exact hsome.resolve_left (fun hne => hne rfl)
  | cons name names ih =>
      obtain ⟨hname, hnames⟩ := List.forall_mem_cons.mp h
      exact ih hnames (.inr (join_ne_empty hname.notEmpty folder))

/-- Such a path has the characters of the names and of what they are put after, and slashes. -/
lemma mem_below_iff {c : Char} (hc : c ≠ '/') :
    c ∈ (names.foldl join folder).toList ↔ c ∈ folder.toList ∨ ∃ name ∈ names, c ∈ name.toList := by
  induction names generalizing folder with
  | nil => simp
  | cons name names ih =>
      rw [List.foldl_cons, ih, mem_join_iff hc]
      simp [or_assoc]

/-- Putting a name after a path makes it no shorter. -/
lemma size_le_join (folder name : String) :
    folder.utf8ByteSize ≤ (join folder name).utf8ByteSize := by
  unfold join
  split_ifs
  · rw [String.utf8ByteSize_append]
    omega
  · rw [String.utf8ByteSize_append, String.utf8ByteSize_append]
    omega

/-- Nor does putting several. -/
lemma size_le_below (names : List String) (folder : String) :
    folder.utf8ByteSize ≤ (names.foldl join folder).utf8ByteSize := by
  induction names generalizing folder with
  | nil => exact Nat.le_refl _
  | cons name names ih => exact (size_le_join folder name).trans (ih (join folder name))

/-! ## From the folder on -/

/-- One step down in a folder: a name that is not too long leads to the entry that has it. -/
lemma walk_folder_plain (hname : IsPlainName name) (above : List Node)
    (entries : List (String × Node)) (names : List String) :
    walk above (.folder entries) (name :: names) =
      if name.utf8ByteSize > maxNameSize then .error .nameTooLong
      else match entry? name entries with
        | none => .error .notFound
        | some next => walk (.folder entries :: above) next names := by
  have hstay : ¬ (name = "" ∨ name = ".") := not_or.mpr ⟨hname.notEmpty, hname.notHere⟩
  exact (walk_folder above entries name names).trans
    ((if_neg hstay).trans (if_neg hname.notAbove))

/-- Names that lead nowhere else are walked without regard to the folders passed through. -/
lemma walk_plainNames (h : ∀ name ∈ names, IsPlainName name) (above : List Node) (here : Node) :
    walk above here names = walk [] here names := by
  induction names generalizing above here with
  | nil => rfl
  | cons name names ih =>
      obtain ⟨hname, hnames⟩ := List.forall_mem_cons.mp h
      cases here with
      | file contents => rfl
      | locked => rfl
      | folder entries =>
          rw [walk_folder_plain hname, walk_folder_plain hname]
          split_ifs
          · rfl
          · split
            · rfl
            · rw [ih hnames, ih hnames [_]]

/-- Walking down plain names goes one name at a time. -/
lemma walk_cons_plain (h : ∀ name ∈ names, IsPlainName name) (name : String) (here : Node) :
    walk [] here (name :: names) = (walk [] here [name]).bind (walk [] · names) :=
  walk_append (walk_plainNames h) [name] [] here

/-- A slash before further names makes no difference. -/
lemma walk_slash (name : String) (names : List String) (here : Node) :
    (walk [] here [""]).bind (walk [] · (name :: names)) = walk [] here (name :: names) := by
  cases here <;> rfl

/-- To walk the steps of the folder and then the names is to find the folder first. -/
lemma walk_startAt (hnul : '\x00' ∉ folder.toList) (hsize : folder.utf8ByteSize ≤ maxPathSize)
    (hne : names ≠ []) (h : ∀ name ∈ names, IsPlainName name) (root : Node) :
    walk [] root (Text.splitText '/' (names.foldl join folder)) =
      (root.startAt folder).bind (walk [] · names) := by
  obtain ⟨steps, hsplit, ⟨rfl, rfl⟩ | ⟨hfolder, hsteps⟩⟩ := splitText_below hne h folder
  · rw [hsplit]
    rfl
  · have hstart : root.startAt folder = walk [] root (Text.splitText '/' folder) := by
      unfold Node.startAt Node.find
      rw [if_neg hfolder]
      simp [hnul, hfolder, Nat.not_lt.mpr hsize]
    rw [hsplit, hstart, walk_append (walk_plainNames h)]
    rcases hsteps with heq | heq
    · rw [heq]
    · rw [heq, walk_concat (by decide)]
      cases names with
      | nil => exact absurd rfl hne
      | cons name names =>
          rcases walk [] root steps with e | here
          · rfl
          · exact (walk_slash name names here).symm

/-- The path of names below a folder leads where the names lead from the folder, if it is a path
that the system can look for. -/
lemma find_below (hsome : names ≠ [] ∨ folder ≠ "") (h : ∀ name ∈ names, IsPlainName name)
    (root : Node) :
    root.find (names.foldl join folder) =
      if '\x00' ∈ (names.foldl join folder).toList then .error .nulCharacter
      else if maxPathSize < (names.foldl join folder).utf8ByteSize then .error .nameTooLong
      else (root.startAt folder).bind (walk [] · names) := by
  by_cases hne : names = []
  · subst hne
    obtain hfolder := hsome.resolve_left fun hne => hne rfl
    unfold Node.startAt Node.find
    rw [if_neg hfolder, List.foldl_nil]
    simp only [List.contains_eq_mem, decide_eq_true_eq, String.isEmpty_iff, hfolder, if_false]
    split_ifs
    · rfl
    · rfl
    · rcases walk [] root (Text.splitText '/' folder) with e | here <;> rfl
  · unfold Node.find
    simp only [List.contains_eq_mem, decide_eq_true_eq, String.isEmpty_iff,
      below_ne_empty h hsome, if_false]
    split_ifs with hnul hlong
    · rfl
    · rfl
    · have hclean : '\x00' ∉ folder.toList := fun hmem =>
        hnul ((mem_below_iff (by decide)).mpr (.inl hmem))
      have hshort := (size_le_below names folder).trans (Nat.not_lt.mp hlong)
      exact walk_startAt hclean hshort hne h root

/-- Without names and without a folder there is nothing to look for. -/
lemma find_empty (root : Node) : root.find "" = .error .notFound :=
  rfl

/-- The entry of the topmost folder is found by its name. -/
lemma find_single (hname : IsPlainName name) (hnul : '\x00' ∉ name.toList)
    (hsize : name.utf8ByteSize ≤ maxNameSize) (here : Node) :
    (Node.folder [(name, here)]).find name = .ok here := by
  have hjoin : [name].foldl join "" = name := String.empty_append
  have hsome : [name] ≠ [] ∨ "" ≠ "" := .inl (List.cons_ne_nil name [])
  have hfind := find_below hsome (by simpa using hname) (.folder [(name, here)])
  have hshort : ¬ maxPathSize < name.utf8ByteSize := by
    unfold maxPathSize
    unfold maxNameSize at hsize
    omega
  have hentry : entry? name [(name, here)] = some here := List.lookup_cons_self
  have hwalk := walk_folder_plain hname [] [(name, here)] []
  rw [if_neg (Nat.not_lt.mpr hsize), hentry] at hwalk
  rw [hjoin, if_neg hnul, if_neg hshort] at hfind
  exact hfind.trans hwalk

/-! ## Descents -/

/-- Going down some names and then others goes down all of them. -/
lemma descend_append (front back : List String) (here : Node) :
    here.descend? (front ++ back) = (here.descend? front).bind fun next => next.descend? back := by
  induction front generalizing here with
  | nil => rfl
  | cons name front ih =>
      rw [List.cons_append, Node.descend?, Node.descend?]
      rcases here.child? name with _ | next
      · rfl
      · exact ih next

/-- Where a walk over names ends there is what the names lead to. -/
lemma descend_of_walk (h : ∀ name ∈ names, IsPlainName name)
    (hwalk : walk [] here names = .ok node) : here.descend? names = some node := by
  induction names generalizing here with
  | nil =>
      cases hwalk
      rfl
  | cons name names ih =>
      obtain ⟨hname, hnames⟩ := List.forall_mem_cons.mp h
      rw [walk_cons_plain hnames, Folder.walk_plainName hname] at hwalk
      rw [Node.descend?]
      split_ifs at hwalk
      · cases hwalk
      · cases hwalk
      · rcases hchild : here.child? name with _ | next
        · rw [hchild] at hwalk
          cases hwalk
        · rw [hchild] at hwalk
          exact ih hnames hwalk

/-- Whatever is found at the path of names below a folder is what the names lead to from there. -/
lemma descend_of_find (h : ∀ name ∈ names, IsPlainName name)
    (hfind : root.find (names.foldl join folder) = .ok node) :
    ∃ here, root.startAt folder = .ok here ∧ here.descend? names = some node := by
  by_cases hsome : names ≠ [] ∨ folder ≠ ""
  · rw [find_below hsome h] at hfind
    split_ifs at hfind
    rcases hstart : root.startAt folder with e | here
    · rw [hstart] at hfind
      cases hfind
    · rw [hstart] at hfind
      exact ⟨here, rfl, descend_of_walk h hfind⟩
  · obtain ⟨hempty, hfolder⟩ := not_or.mp hsome
    rw [not_not.mp hempty, not_not.mp hfolder, List.foldl_nil, find_empty] at hfind
    cases hfind

/-- If no name is too long, a walk ends where the names lead to. -/
lemma walk_of_descend (h : ∀ name ∈ names, IsPlainName name)
    (hsize : ∀ name ∈ names, name.utf8ByteSize ≤ maxNameSize)
    (hdescend : here.descend? names = some node) : walk [] here names = .ok node := by
  induction names generalizing here with
  | nil =>
      cases hdescend
      rfl
  | cons name names ih =>
      obtain ⟨hname, hnames⟩ := List.forall_mem_cons.mp h
      obtain ⟨hshort, hsizes⟩ := List.forall_mem_cons.mp hsize
      rw [Node.descend?] at hdescend
      obtain ⟨next, hchild, hdescend⟩ := Option.bind_eq_some_iff.mp hdescend
      rw [walk_cons_plain hnames, Folder.walk_plainName hname,
        if_neg (by simp [Folder.isFolder_of_child hchild]), if_neg (Nat.not_lt.mpr hshort), hchild]
      exact ih hnames hsizes hdescend

/-- Nothing is below what is no folder. -/
lemma walk_of_not_folder (h : here.isFolder = false) (name : String) (names : List String) :
    walk [] here (name :: names) = .error .notFolder := by
  cases here with
  | file contents => rfl
  | locked => rfl
  | folder entries => cases h

/-- Nothing is below a file. -/
lemma walk_below_file {front rest : List String} {next : String}
    (h : ∀ name ∈ front ++ next :: rest, IsPlainName name)
    (hsize : ∀ name ∈ front ++ next :: rest, name.utf8ByteSize ≤ maxNameSize)
    (hdescend : here.descend? front = some node) (hfile : node.isFolder = false) :
    walk [] here (front ++ next :: rest) = .error .notFolder := by
  obtain ⟨hfront, hrest⟩ := List.forall_mem_append.mp h
  obtain ⟨hshort, -⟩ := List.forall_mem_append.mp hsize
  rw [walk_append (walk_plainNames hrest), walk_of_descend hfront hshort hdescend]
  exact walk_of_not_folder hfile next rest

/-- Names that lead nowhere are either not found, or go on below a file. -/
lemma walk_of_descend_eq_none (h : ∀ name ∈ names, IsPlainName name)
    (hsize : ∀ name ∈ names, name.utf8ByteSize ≤ maxNameSize)
    (hdescend : here.descend? names = none) :
    walk [] here names = .error .notFound ∨
      ∃ front name rest node, names = front ++ name :: rest ∧ here.descend? front = some node ∧
        node.isFolder = false := by
  induction names generalizing here with
  | nil => cases hdescend
  | cons name names ih =>
      obtain ⟨hname, hnames⟩ := List.forall_mem_cons.mp h
      obtain ⟨hshort, hsizes⟩ := List.forall_mem_cons.mp hsize
      by_cases hfolder : here.isFolder = false
      · exact .inr ⟨[], name, names, here, rfl, rfl, hfolder⟩
      rw [walk_cons_plain hnames, Folder.walk_plainName hname, if_neg hfolder,
        if_neg (Nat.not_lt.mpr hshort)]
      rw [Node.descend?] at hdescend
      rcases hchild : here.child? name with _ | next
      · exact .inl rfl
      · rw [hchild] at hdescend
        rcases ih hnames hsizes hdescend with hwalk | ⟨front, last, rest, node, heq, hnode, hfile⟩
        · exact .inl hwalk
        · refine .inr ⟨name :: front, last, rest, node, ?_, ?_, hfile⟩
          · rw [heq, List.cons_append]
          · rw [Node.descend?, hchild]
            exact hnode

/-- A name that a folder does not have is not found. -/
lemma walk_concat_of_none {entries : List (String × Node)} {last : String}
    (h : ∀ name ∈ names ++ [last], IsPlainName name)
    (hsize : ∀ name ∈ names ++ [last], name.utf8ByteSize ≤ maxNameSize)
    (hfolder : here.descend? names = some (.folder entries))
    (hnone : here.descend? (names ++ [last]) = none) :
    walk [] here (names ++ [last]) = .error .notFound := by
  obtain ⟨hnames, hname⟩ := List.forall_mem_append.mp h
  obtain ⟨hshort, hlast⟩ := List.forall_mem_append.mp hsize
  have hplain : IsPlainName last := hname last List.mem_cons_self
  have hentry : entry? last entries = none := by
    rw [descend_append, hfolder] at hnone
    rcases hnext : entry? last entries with _ | next
    · rfl
    · rw [Option.bind_some, Node.descend?, Node.child?, hnext] at hnone
      cases hnone
  have hwalk := walk_folder_plain hplain [] entries []
  rw [if_neg (Nat.not_lt.mpr (hlast last List.mem_cons_self)), hentry] at hwalk
  rw [walk_concat hplain.notAbove, walk_of_descend hnames hshort hfolder]
  exact hwalk

/-! ## Trees that are alike below a folder -/

/-- Nodes that are alike are of one kind. -/
lemma IsLike.kind_eq (h : IsLike here here') : here.kind = here'.kind :=
  Option.some.inj (h [])

/-- Both are folders or neither is. -/
lemma IsLike.isFolder_eq (h : IsLike here here') : here.isFolder = here'.isFolder := by
  unfold Node.isFolder
  rw [h.kind_eq]

/-- Nodes that are alike have alike entries. -/
lemma IsLike.child (h : IsLike here here') (name : String) :
    (here.child? name = none ∧ here'.child? name = none) ∨
      ∃ next next', here.child? name = some next ∧ here'.child? name = some next' ∧
        IsLike next next' := by
  have hnames : ∀ names, ((here.child? name).bind fun next => next.descend? names).map Node.kind =
      ((here'.child? name).bind fun next => next.descend? names).map Node.kind :=
    fun names => h (name :: names)
  generalize here.child? name = entry, here'.child? name = entry' at hnames ⊢
  have hfirst := hnames []
  cases entry with
  | none =>
      cases entry' with
      | none => exact .inl ⟨rfl, rfl⟩
      | some next' => cases hfirst
  | some next =>
      cases entry' with
      | none => cases hfirst
      | some next' => exact .inr ⟨next, next', rfl, rfl, hnames⟩

/-- What is alike stays so when one goes on in the same way. -/
lemma Alike.bind {found found' : Except PathError Node} {goOn : Node → Except PathError Node}
    (h : Alike found found') (hgoOn : ∀ {a b}, IsLike a b → Alike (goOn a) (goOn b)) :
    Alike (found.bind goOn) (found'.bind goOn) := by
  cases h with
  | ok like => exact hgoOn like
  | error e => exact .error e

/-- From nodes that are alike, one name leads to nodes that are alike. -/
lemma walk_single_alike (h : IsLike here here') (hname : IsPlainName name) :
    Alike (walk [] here [name]) (walk [] here' [name]) := by
  rw [Folder.walk_plainName hname, Folder.walk_plainName hname, h.isFolder_eq]
  split_ifs
  · exact .error _
  · exact .error _
  · rcases h.child name with ⟨hnone, hnone'⟩ | ⟨next, next', hsome, hsome', hlike⟩
    · rw [hnone, hnone']
      exact .error _
    · rw [hsome, hsome']
      exact .ok hlike

/-- The same names lead to what is alike from nodes that are alike. -/
lemma walk_alike (h : IsLike here here') (hnames : ∀ name ∈ names, IsPlainName name) :
    Alike (walk [] here names) (walk [] here' names) := by
  induction names generalizing here here' with
  | nil => exact .ok h
  | cons name names ih =>
      obtain ⟨hname, hnames⟩ := List.forall_mem_cons.mp hnames
      rw [walk_cons_plain hnames, walk_cons_plain hnames]
      exact (walk_single_alike h hname).bind fun hlike => ih hlike hnames

/-- Trees that are alike below the folder are alike at every path of names below it. -/
lemma find_alike (h : Alike (root.startAt folder) (root'.startAt folder))
    (hnames : ∀ name ∈ names, IsPlainName name) :
    Alike (root.find (names.foldl join folder)) (root'.find (names.foldl join folder)) := by
  by_cases hsome : names ≠ [] ∨ folder ≠ ""
  · rw [find_below hsome hnames, find_below hsome hnames]
    split_ifs
    · exact .error _
    · exact .error _
    · exact h.bind fun hlike => walk_alike hlike hnames
  · obtain ⟨hempty, hfolder⟩ := not_or.mp hsome
    rw [not_not.mp hempty, not_not.mp hfolder, List.foldl_nil, find_empty, find_empty]
    exact .error _

/-- Whether a folder is found does not tell trees apart that are alike there. -/
lemma isFolder_alike {path : String} (h : Alike (root.find path) (root'.find path)) :
    (root.find path).map Node.isFolder = (root'.find path).map Node.isFolder := by
  generalize root.find path = found, root'.find path = found' at h ⊢
  cases h with
  | ok like => exact congrArg Except.ok like.isFolder_eq
  | error e => rfl

/-- Nor does what is read. -/
lemma read_alike {path : String} (h : Alike (root.find path) (root'.find path)) :
    root.read path = root'.read path := by
  unfold Node.read
  generalize root.find path = found, root'.find path = found' at h ⊢
  cases h with
  | ok like =>
      rename_i a b
      have hkind := like.kind_eq
      cases a <;> cases b <;> cases hkind <;> rfl
  | error e => rfl

end KeyDirectory.Files
