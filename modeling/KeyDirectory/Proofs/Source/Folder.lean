import KeyDirectory.Proofs.Text.Line
import KeyDirectory.Source.FolderEntry
import Mathlib.Tactic.Lemma
import Mathlib.Tactic.SplitIfs

/-!
# What the local folder answers

An identity names at most one file, which stands directly in the folder.  Only that file is read,
and of everything else in the tree the answer knows nothing.

* `splitText_join`, `find_join`: the path of an identity is the path of the folder with one step.
* `read_join`: what reading that path brings depends on the folder and on the entry alone.
* `answers_readEntry`: what an answer is owed, from what the reading brings.
* `get_reads_child`: the result.
-/

namespace KeyDirectory

namespace Files

/-! ## The path of a name in a folder -/

/-- Joining puts one slash between the folder and the name, unless the folder ends in one or is
empty. -/
lemma join_cases (folder name : String) :
    ("/".toList <:+ folder.toList ∧ (join folder name).toList = folder.toList ++ name.toList) ∨
    (folder = "" ∧ join folder name = name) ∨
    (join folder name).toList = folder.toList ++ '/' :: name.toList := by
  unfold join
  split_ifs with h
  · rw [Bool.or_eq_true] at h
    rcases h with hempty | hends
    · obtain rfl : folder = "" := by simpa using hempty
      exact .inr (.inl ⟨rfl, String.empty_append⟩)
    · rw [String.endsWith_eq_endsWith_toSlice, String.Slice.endsWith_string_iff,
        String.copy_toSlice] at hends
      exact .inl ⟨hends, String.toList_append⟩
  · refine .inr (.inr ?_)
    rw [String.toList_append, String.toList_append, List.append_assoc]
    rfl

/-- The path of a name in a folder has the steps of the folder and the name for its last step.  A
slash at the end of the path of the folder is no step of its own. -/
lemma splitText_join {folder name : String} (hfolder : folder ≠ "") (hname : '/' ∉ name.toList) :
    ∃ steps, Text.splitText '/' (join folder name) = steps ++ [name] ∧
      (Text.splitText '/' folder = steps ∨ Text.splitText '/' folder = steps ++ [""]) := by
  have hlast : Text.pieces '/' name.toList = [name.toList] := Text.pieces_of_not_mem hname
  rcases join_cases folder name with ⟨⟨front, hfront⟩, hjoin⟩ | ⟨hempty, -⟩ | hjoin
  · have hslash : folder.toList = front ++ ['/'] := hfront.symm
    refine ⟨(Text.pieces '/' front).map String.ofList, ?_, .inr ?_⟩
    · rw [Text.splitText, hjoin, hslash, List.append_assoc, List.singleton_append,
        Text.pieces_append, hlast, List.map_append]
      simp
    · rw [Text.splitText, hslash, Text.pieces_append, List.map_append]
      rfl
  · exact absurd hempty hfolder
  · refine ⟨Text.splitText '/' folder, ?_, .inl rfl⟩
    rw [Text.splitText, hjoin, Text.pieces_append, hlast, List.map_append]
    simp [Text.splitText]

/-- Joining adds no character but the slash. -/
lemma mem_join_iff {c : Char} (hc : c ≠ '/') (folder name : String) :
    c ∈ (join folder name).toList ↔ c ∈ folder.toList ∨ c ∈ name.toList := by
  rcases join_cases folder name with ⟨-, hjoin⟩ | ⟨rfl, hjoin⟩ | hjoin
  · rw [hjoin, List.mem_append]
  · simp [hjoin]
  · rw [hjoin, List.mem_append, List.mem_cons]
    simp [hc]

/-- A joined path is not empty. -/
lemma join_ne_empty {name : String} (hname : name ≠ "") (folder : String) :
    join folder name ≠ "" := by
  intro heq
  rcases join_cases folder name with ⟨-, hjoin⟩ | ⟨rfl, hjoin⟩ | hjoin
  · rw [heq] at hjoin
    simp_all
  · exact hname (hjoin.symm.trans heq)
  · rw [heq] at hjoin
    simp at hjoin

/-! ## Walking to it -/

/-- One step down does not depend on the folders passed through. -/
lemma walk_single {name : String} (hname : name ≠ "..") (above : List Node) (here : Node) :
    walk above here [name] = walk [] here [name] := by
  cases here with
  | file contents => rfl
  | locked => rfl
  | folder entries =>
      unfold walk
      split_ifs
      · rfl
      · rfl
      · split <;> rfl

/-- In a folder a step stays, goes up, or goes to a child. -/
lemma walk_folder (above : List Node) (entries : List (String × Node)) (step : String)
    (steps : List String) :
    walk above (.folder entries) (step :: steps) =
      if step = "" ∨ step = "." then walk above (.folder entries) steps
      else if step = ".." then
        match above with
        | [] => walk [] (.folder entries) steps
        | parent :: others => walk others parent steps
      else if step.utf8ByteSize > maxNameSize then .error .nameTooLong
      else match entry? step entries with
        | none => .error .notFound
        | some next => walk (.folder entries :: above) next steps :=
  rfl

/-- A path that ends in steps which do not lead upwards is walked to the last of the others first.
The folders passed through until then no longer matter. -/
lemma walk_append {last : List String} {goOn : Node → Except PathError Node}
    (hlast : ∀ above here, walk above here last = goOn here) (steps : List String)
    (above : List Node) (here : Node) :
    walk above here (steps ++ last) = (walk above here steps).bind goOn := by
  induction steps generalizing above here with
  | nil => exact hlast above here
  | cons step steps ih =>
      cases here with
      | file contents => rfl
      | locked => rfl
      | folder entries =>
          rw [List.cons_append, walk_folder, walk_folder]
          split_ifs
          · exact ih above _
          · cases above with
            | nil => exact ih [] _
            | cons parent others => exact ih others parent
          · rfl
          · split
            · rfl
            · exact ih _ _

/-- The last step of a walk is a walk of its own. -/
lemma walk_concat {name : String} (hname : name ≠ "..") (steps : List String) (root : Node) :
    walk [] root (steps ++ [name]) = (walk [] root steps).bind (walk [] · [name]) :=
  walk_append (walk_single hname) steps [] root

/-- A path that ends in a slash leads to a folder, the same as without it. -/
lemma walk_of_slash {steps : List String} {root here : Node}
    (h : walk [] root (steps ++ [""]) = .ok here) : walk [] root steps = .ok here := by
  rw [walk_concat (by decide)] at h
  rcases hwalk : walk [] root steps with e | last
  · rw [hwalk] at h
    cases h
  · rw [hwalk] at h
    cases last with
    | file contents => cases h
    | locked => cases h
    | folder entries =>
        cases h
        rfl

/-- A path is found iff it can be asked for and the walk along it succeeds. -/
lemma find_eq_ok_iff {root here : Node} {path : String} :
    root.find path = .ok here ↔ '\x00' ∉ path.toList ∧ path ≠ "" ∧
      path.utf8ByteSize ≤ maxPathSize ∧ walk [] root (Text.splitText '/' path) = .ok here := by
  unfold Node.find
  split_ifs with hnul hempty hlong
  · simp_all
  · simp_all
  · simp only [false_iff, not_and]
    exact fun _ _ hsize => absurd hsize (Nat.not_le.mpr hlong)
  · simp_all

/-- The path of a name in a folder leads where one step from the folder leads. -/
lemma find_join {root here : Node} {folder name : String} (hfolder : root.find folder = .ok here)
    (hempty : name ≠ "") (habove : name ≠ "..") (hslash : '/' ∉ name.toList) :
    root.find (join folder name) =
      if '\x00' ∈ name.toList then .error .nulCharacter
      else if maxPathSize < (join folder name).utf8ByteSize then .error .nameTooLong
      else walk [] here [name] := by
  obtain ⟨hnul, hne, -, hwalk⟩ := find_eq_ok_iff.mp hfolder
  obtain ⟨steps, hjoin, hsplit⟩ := splitText_join hne hslash
  have hsteps : walk [] root steps = .ok here := by
    rcases hsplit with heq | heq
    · rwa [heq] at hwalk
    · rw [heq] at hwalk
      exact walk_of_slash hwalk
  have hlast : walk [] root (Text.splitText '/' (join folder name)) = walk [] here [name] := by
    rw [hjoin, walk_concat habove, hsteps]
    rfl
  have hmem : '\x00' ∈ (join folder name).toList ↔ '\x00' ∈ name.toList := by
    rw [mem_join_iff (by decide), or_iff_right hnul]
  unfold Node.find
  rw [hlast]
  simp [hmem, join_ne_empty hempty]

end Files

namespace Folder

open Files

variable {root here : Node} {folder identity : String}

/-! ## What reading brings -/

/-- A file name is a plain name. -/
lemma isFileName_iff : isFileName identity = true ↔ IsPlainName identity := by
  have hslash : (!identity.toList.contains '/') = true ↔ '/' ∉ identity.toList := by simp
  unfold isFileName
  rw [Bool.and_eq_true, Bool.and_eq_true, Bool.and_eq_true, hslash, decide_eq_true_iff,
    decide_eq_true_iff, decide_eq_true_iff]
  constructor
  · rintro ⟨⟨⟨hempty, hhere⟩, habove⟩, hslash⟩
    exact ⟨hempty, hslash, hhere, habove⟩
  · rintro ⟨hempty, hslash, hhere, habove⟩
    exact ⟨⟨⟨hempty, hhere⟩, habove⟩, hslash⟩

/-- One step to a plain name. -/
lemma walk_plainName (h : IsPlainName identity) (here : Node) :
    walk [] here [identity] =
      if here.isFolder = false then .error .notFolder
      else if maxNameSize < identity.utf8ByteSize then .error .nameTooLong
      else match here.child? identity with
        | none => .error .notFound
        | some node => .ok node := by
  cases here with
  | file contents => rfl
  | locked => rfl
  | folder entries =>
      have hstay : ¬ (identity = "" ∨ identity = ".") := not_or.mpr ⟨h.notEmpty, h.notHere⟩
      rw [walk_folder, if_neg hstay, if_neg h.notAbove]
      rfl

/-- Reading the file of an identity brings what the folder and the entry make of it. -/
lemma read_join (hroot : root.find folder = .ok here) (h : IsPlainName identity) :
    root.read (join folder identity) =
      readEntry here.isFolder ((here.child? identity).map Node.kind) folder identity := by
  unfold Node.read readEntry
  rw [find_join hroot h.notEmpty h.notAbove h.oneStep, walk_plainName h]
  split_ifs
  · rfl
  · rfl
  · rfl
  · rfl
  · rcases here.child? identity with _ | node
    · rfl
    · cases node <;> rfl

/-- The path of an identity leads to the entry of that name, if there is one. -/
lemma find_join_child (hroot : root.find folder = .ok here) (h : IsPlainName identity)
    (hpossible : IsPossible folder identity) {node : Node}
    (hchild : here.child? identity = some node) : root.find (join folder identity) = .ok node := by
  have hfolder : here.isFolder = true := by
    cases here with
    | file contents => cases hchild
    | locked => cases hchild
    | folder entries => rfl
  rw [find_join hroot h.notEmpty h.notAbove h.oneStep, if_neg hpossible.noNul,
    if_neg (Nat.not_lt.mpr hpossible.path), walk_plainName h, if_neg (by simp [hfolder]),
    if_neg (Nat.not_lt.mpr hpossible.name), hchild]

/-! ## What an answer is owed -/

/-- Only folders have children. -/
lemma isFolder_of_child {node : Node} (h : here.child? identity = some node) :
    here.isFolder = true := by
  cases here with
  | file contents => cases h
  | locked => cases h
  | folder entries => rfl

/-- Nothing hinders the reading of a file that is there. -/
lemma not_hinders_file (h : IsPossible folder identity) {contents : List UInt8}
    (hkind : (here.child? identity).map Node.kind = some (.file contents)) (e : PathError) :
    ¬ Hinders here folder identity e := by
  intro hinders
  cases hinders with
  | nul held => exact h.noNul held
  | longName long => exact Nat.not_lt.mpr h.name long
  | longPath long => exact Nat.not_lt.mpr h.path long
  | noFolder is =>
      obtain ⟨node, hnode, -⟩ := Option.map_eq_some_iff.mp hkind
      rw [isFolder_of_child hnode] at is
      cases is
  | isFolder is =>
      rw [hkind] at is
      cases is
  | locked is =>
      rw [hkind] at is
      cases is

/-- A possible name that a folder does not have can be looked for. -/
lemma not_hinders_absent (h : IsPossible folder identity) (hfolder : here.isFolder = true)
    (hchild : here.child? identity = none) (e : PathError) :
    ¬ Hinders here folder identity e := by
  intro hinders
  cases hinders with
  | nul held => exact h.noNul held
  | longName long => exact Nat.not_lt.mpr h.name long
  | longPath long => exact Nat.not_lt.mpr h.path long
  | noFolder is =>
      rw [hfolder] at is
      cases is
  | isFolder is =>
      rw [hchild] at is
      cases is
  | locked is =>
      rw [hchild] at is
      cases is

/-- Reading the file of an identity brings its contents, or finds nothing of that name, or is
hindered and tells by what. -/
lemma readEntry_cases (here : Node) (folder identity : String) :
    let read := readEntry here.isFolder ((here.child? identity).map Node.kind) folder identity
    (∃ contents, (here.child? identity).map Node.kind = some (.file contents) ∧
      IsPossible folder identity ∧ read = .ok contents) ∨
    (here.child? identity = none ∧ here.isFolder = true ∧ IsPossible folder identity ∧
      read = .error .notFound) ∨
    ∃ e, Hinders here folder identity e ∧ read = .error e := by
  intro read
  have hread : read =
    readEntry here.isFolder ((here.child? identity).map Node.kind) folder identity := rfl
  unfold readEntry at hread
  split_ifs at hread with hnul hpath hfolder hname
  · exact .inr (.inr ⟨_, .nul hnul, hread⟩)
  · exact .inr (.inr ⟨_, .longPath hpath, hread⟩)
  · exact .inr (.inr ⟨_, .noFolder hfolder, hread⟩)
  · exact .inr (.inr ⟨_, .longName hname, hread⟩)
  · have hpossible : IsPossible folder identity :=
      ⟨hnul, Nat.not_lt.mp hname, Nat.not_lt.mp hpath⟩
    rcases hchild : (here.child? identity).map Node.kind with _ | kind
    · rw [hchild] at hread
      exact .inr (.inl ⟨Option.map_eq_none_iff.mp hchild, Bool.of_not_eq_false hfolder, hpossible,
        hread⟩)
    · rw [hchild] at hread
      cases kind with
      | file contents => exact .inl ⟨contents, rfl, hpossible, hread⟩
      | locked => exact .inr (.inr ⟨_, .locked hchild, hread⟩)
      | folder => exact .inr (.inr ⟨_, .isFolder hchild, hread⟩)

/-- The answer for a plain name is what reading its file brings. -/
lemma get_of_plainName (hroot : root.find folder = .ok here) (h : IsPlainName identity) :
    get root folder identity =
      match readEntry here.isFolder ((here.child? identity).map Node.kind) folder identity with
      | .ok contents => .ok ⟨.folder, Key.parseFile contents⟩
      | .error .notFound => .error (.notFound identity)
      | .error e => .error (.internal (readingFailed (join folder identity) e)) := by
  have hget : get root folder identity =
      match root.read (join folder identity) with
      | .ok contents => .ok ⟨.folder, Key.parseFile contents⟩
      | .error .notFound => .error (.notFound identity)
      | .error e => .error (.internal (readingFailed (join folder identity) e)) :=
    if_pos (isFileName_iff.mpr h)
  rw [hget, read_join hroot h]

/-- So it has keys, or says that there are none, or that the reading failed. -/
lemma get_cases (hroot : root.find folder = .ok here) (h : IsPlainName identity) :
    (∃ contents, (here.child? identity).map Node.kind = some (.file contents) ∧
      IsPossible folder identity ∧
      get root folder identity = .ok ⟨.folder, Key.parseFile contents⟩) ∨
    (here.child? identity = none ∧ here.isFolder = true ∧ IsPossible folder identity ∧
      get root folder identity = .error (.notFound identity)) ∨
    ∃ e, Hinders here folder identity e ∧
      get root folder identity = .error (.internal (readingFailed (join folder identity) e)) := by
  rw [get_of_plainName hroot h]
  rcases readEntry_cases here folder identity with
    ⟨contents, hkind, hpossible, hread⟩ | ⟨hchild, hfolder, hpossible, hread⟩ | ⟨e, hinders, hread⟩
  · exact .inl ⟨contents, hkind, hpossible, by rw [hread]⟩
  · exact .inr (.inl ⟨hchild, hfolder, hpossible, by rw [hread]⟩)
  · refine .inr (.inr ⟨e, hinders, ?_⟩)
    rw [hread]
    cases hinders <;> rfl

/-! ## Telling what is read -/

/-- A plain name is looked up with one read, below the folder. -/
lemma getTelling_of_plainName (h : IsPlainName identity) (root : Node) (folder : String) :
    getTelling root folder identity = (get root folder identity, [join folder identity]) := by
  have hname := isFileName_iff.mpr h
  unfold getTelling getWith get
  rw [if_pos hname, if_pos hname]
  dsimp only [recordingReads]
  rcases root.read (join folder identity) with e | contents
  · cases e <;> rfl
  · rfl

/-- Any other name is unknown without a read. -/
lemma getTelling_of_not_plainName (h : ¬ IsPlainName identity) (root : Node) (folder : String) :
    getTelling root folder identity = (.error (.notFound identity), []) := by
  have hname := mt isFileName_iff.mp h
  unfold getTelling getWith
  rw [if_neg hname]
  rfl

/-- Writing down what is read changes no answer. -/
lemma getTelling_fst (root : Node) (folder identity : String) :
    (getTelling root folder identity).1 = get root folder identity := by
  by_cases h : IsPlainName identity
  · rw [getTelling_of_plainName h]
  · rw [getTelling_of_not_plainName h, get, if_neg (mt isFileName_iff.mp h)]

/-- The lookup answers for what the folder has under the identity. -/
lemma answers_getTelling (hroot : root.find folder = .ok here) (identity : String) :
    Answers here folder identity (getTelling root folder identity) where
  refused h := getTelling_of_not_plainName h root folder
  reads h := by rw [getTelling_of_plainName h]
  found h hpossible contents hkind := by
    rw [getTelling_fst]
    rcases get_cases hroot h with ⟨contents', hkind', -, hget⟩ | ⟨hchild, -⟩ | ⟨e, hinders, -⟩
    · rw [hkind] at hkind'
      cases hkind'
      exact hget
    · rw [hchild] at hkind
      cases hkind
    · exact absurd hinders (not_hinders_file hpossible hkind e)
  absent h hpossible hfolder hchild := by
    rw [getTelling_fst]
    rcases get_cases hroot h with ⟨contents, hkind, -⟩ | ⟨-, -, -, hget⟩ | ⟨e, hinders, -⟩
    · rw [hchild] at hkind
      cases hkind
    · exact hget
    · exact absurd hinders (not_hinders_absent hpossible hfolder hchild e)
  hindered h hhindered := by
    rw [getTelling_fst]
    obtain ⟨e, hinders⟩ := hhindered
    rcases get_cases hroot h with
      ⟨contents, hkind, hpossible, -⟩ | ⟨hchild, hfolder, hpossible, -⟩ | hfailed
    · exact absurd hinders (not_hinders_file hpossible hkind e)
    · exact absurd hinders (not_hinders_absent hpossible hfolder hchild e)
    · exact hfailed
  kept h hchild := by
    rw [getTelling_fst]
    rcases get_cases hroot h with ⟨contents, -, -, hget⟩ | ⟨hnone, -⟩ | ⟨e, -, hget⟩
    · rw [hget]
      rfl
    · exact absurd hnone hchild
    · rw [hget]
      rfl

/-- An answer depends on the folder and on the entry alone. -/
lemma getTelling_congr {root' here' : Node} (hroot : root.find folder = .ok here)
    (hroot' : root'.find folder = .ok here') (hfolder : here'.isFolder = here.isFolder)
    (hchild : (here'.child? identity).map Node.kind = (here.child? identity).map Node.kind) :
    getTelling root' folder identity = getTelling root folder identity := by
  by_cases h : IsPlainName identity
  · rw [getTelling_of_plainName h, getTelling_of_plainName h, get_of_plainName hroot' h,
      get_of_plainName hroot h, hfolder, hchild]
  · rw [getTelling_of_not_plainName h, getTelling_of_not_plainName h]

/-- **The folder answers from its own entries.**  Let there be a folder or a file at the path of the
folder.  Whatever the identity, at most one file is read, and that one is the entry of that name in
the folder.  The answer has the keys of the file, or says that there are none, when the identity is
not the name of a file or the folder has no such entry, or else is a fatal failure that tells why
the file cannot be read.  Whatever else there is in the tree makes no difference. -/
theorem get_reads_child (hroot : root.find folder = .ok here) (identity : String) :
    (getTelling root folder identity).1 = get root folder identity ∧
      Answers here folder identity (getTelling root folder identity) ∧
      (IsPlainName identity → IsPossible folder identity → ∀ node,
        here.child? identity = some node → root.find (join folder identity) = .ok node) ∧
      ∀ root' here', root'.find folder = .ok here' → here'.isFolder = here.isFolder →
        (here'.child? identity).map Node.kind = (here.child? identity).map Node.kind →
        getTelling root' folder identity = getTelling root folder identity := by
  refine ⟨getTelling_fst root folder identity, answers_getTelling hroot identity, ?_, ?_⟩
  · intro h hpossible node hchild
    exact find_join_child hroot h hpossible hchild
  · intro root' here' hroot' hfolder hchild
    exact getTelling_congr hroot hroot' hfolder hchild

/-- A file that may not be read, beside one that has the same name in another folder. -/
theorem get_reads_child_locked :
    let here : Node := .folder [("bob", .locked), ("team", .folder [("bob", .file [])])]
    let root : Node := .folder [("srv", here), ("bob", .file [])]
    root.find "/srv/" = .ok here ∧ IsPlainName "bob" ∧
      getTelling root "/srv/" "bob" =
        (.error (.internal "reading /srv/bob: Permission denied (os error 13)"), ["/srv/bob"]) ∧
      Chain.fallsThrough (get root "/srv/" "bob") = false ∧
      getTelling root "/srv/" "team/bob" = (.error (.notFound "team/bob"), []) := by
  intro here root
  have hroot : root.find "/srv/" = .ok here := by
    have hsteps : Text.splitText '/' "/srv/" = ["", "srv", ""] := by decide +kernel
    have hshort : "srv".utf8ByteSize ≤ maxNameSize := by decide +kernel
    refine find_eq_ok_iff.mpr ⟨by decide +kernel, by decide, by decide +kernel, ?_⟩
    rw [hsteps, walk_folder, if_pos (.inl rfl), walk_folder, if_neg (by decide),
      if_neg (by decide), if_neg (Nat.not_lt.mpr hshort)]
    rfl
  have hplain : IsPlainName "bob" := ⟨by decide, by decide +kernel, by decide, by decide⟩
  obtain ⟨htold, hbob, -, -⟩ := get_reads_child hroot "bob"
  obtain ⟨-, hteam, -, -⟩ := get_reads_child hroot "team/bob"
  have hpath : join "/srv/" "bob" = "/srv/bob" := by decide +kernel
  have hreason : ∀ e, Hinders here "/srv/" "bob" e → e = .denied := by
    intro e hinders
    cases hinders with
    | nul held => exact absurd held (by decide +kernel)
    | longName long => exact absurd long (by decide +kernel)
    | longPath long => exact absurd long (by decide +kernel)
    | noFolder is => cases is
    | isFolder is => cases is
    | locked is => rfl
  obtain ⟨e, hinders, hanswer⟩ := hbob.hindered hplain ⟨_, .locked rfl⟩
  have htext : readingFailed "/srv/bob" e =
      "reading /srv/bob: Permission denied (os error 13)" := by
    rw [hreason e hinders]
    decide +kernel
  rw [hpath, htext] at hanswer
  have hreads := hbob.reads hplain
  rw [hpath] at hreads
  refine ⟨hroot, hplain, Prod.ext hanswer hreads, ?_, ?_⟩
  · rw [← htold]
    exact hbob.kept hplain (by simp [here, Node.child?, entry?])
  · exact hteam.refused fun h => absurd h.oneStep (by decide +kernel)

end Folder

end KeyDirectory
