import KeyDirectory.Proofs.Server.StaticFolder

/-!
# When there is an answer to a static request

In a folder where all may be read, a request path within the limits of the system is answered with
the file that it names, or with none, unless its names go on below a file or its page has too long a
path.

* `find_folder`: a path below the folder leads where its names lead, if it is not too long.
* `Offers.eq`: a request path names at most one file.
* `serve_of_strays`, `offer_or_strays`: the two cases.
* `serve_offers_iff`: when there is an answer.
-/

namespace KeyDirectory.Files

open Folder (IsPlainName)

variable {root here : Node} {folder relative : String} {names : List String}

/-! ## What a request path leads to -/

/-- A path below the folder leads where its names lead, if it is not too long. -/
lemma find_folder (hfolder : root.find folder = .ok here)
    (hplain : ∀ name ∈ names, IsPlainName name)
    (hnul : ∀ name ∈ names, '\x00' ∉ name.toList) :
    root.find (names.foldl join folder) =
      if maxPathSize < (names.foldl join folder).utf8ByteSize then .error .nameTooLong
      else walk [] here names := by
  obtain ⟨hclean, hne, -, -⟩ := find_eq_ok_iff.mp hfolder
  have hstart : root.startAt folder = .ok here := by
    unfold Node.startAt
    rw [if_neg hne, hfolder]
  have hpath : '\x00' ∉ (names.foldl join folder).toList := by
    rw [mem_below_iff (by decide)]
    rintro (hmem | ⟨name, hname, hmem⟩)
    · exact hclean hmem
    · exact hnul name hname hmem
  rw [find_below (.inr hne) hplain, if_neg hpath, hstart]
  rfl

namespace IsWithinLimits

/-- A path within the limits has no nul byte in any of its steps. -/
lemma noNul_of_mem (h : IsWithinLimits folder relative) :
    ∀ name ∈ steps relative, '\x00' ∉ name.toList := by
  intro name hname hmem
  exact h.noNul (Text.mem_of_mem_splitText (List.mem_of_mem_filter hname) hmem).1

/-- The path that is served is found by a walk from the folder along its steps. -/
lemma find_path (h : IsWithinLimits folder relative) (hfolder : root.find folder = .ok here)
    (hplain : ∀ name ∈ steps relative, IsPlainName name) :
    root.find ((steps relative).foldl join folder) = walk [] here (steps relative) := by
  rw [find_folder hfolder hplain h.noNul_of_mem, if_neg (Nat.not_lt.mpr h.path)]

/-- The page of a folder is found by one step more, unless the path grows too long. -/
lemma find_page (h : IsWithinLimits folder relative) (hfolder : root.find folder = .ok here)
    (hplain : ∀ name ∈ steps relative, IsPlainName name) :
    root.find (join ((steps relative).foldl join folder) "index.html") =
      if maxPathSize < (join ((steps relative).foldl join folder) "index.html").utf8ByteSize then
        .error .nameTooLong
      else walk [] here (steps relative ++ ["index.html"]) := by
  have hindex : '\x00' ∉ "index.html".toList := by decide +kernel
  have hnul : ∀ name ∈ steps relative ++ ["index.html"], '\x00' ∉ name.toList := by
    rw [List.forall_mem_append, List.forall_mem_singleton]
    exact ⟨h.noNul_of_mem, hindex⟩
  rw [← foldl_join_page, find_folder hfolder (isPlainName_page hplain) hnul]

/-- No name of the path of the page is too long. -/
lemma name_page (h : IsWithinLimits folder relative) :
    ∀ name ∈ steps relative ++ ["index.html"], name.utf8ByteSize ≤ maxNameSize := by
  have hindex : "index.html".utf8ByteSize ≤ maxNameSize := by decide +kernel
  rw [List.forall_mem_append, List.forall_mem_singleton]
  exact ⟨h.name, hindex⟩

end IsWithinLimits

/-! ## What is served, by what is found -/

section

variable {path : String}

/-- A path that is not found is not served, and any other error fails the request. -/
lemma serve_of_error (h : staticPath? folder relative = some path) {e : PathError}
    (hfind : root.find path = .error e) :
    serve root folder relative = if e = .notFound then .ok none else .error (failureOf e) := by
  unfold serve
  rw [h]
  dsimp only
  rw [hfind]
  cases e <;> rfl

/-- A file is served with its content type. -/
lemma serve_of_file (h : staticPath? folder relative = some path) {body : List UInt8}
    (hfind : root.find path = .ok (.file body)) :
    serve root folder relative = .ok (some ⟨contentType path, body⟩) := by
  unfold serve serveFile Node.read
  rw [h]
  dsimp only
  rw [hfind]

/-- A folder is served as its page, where it has one. -/
lemma serve_of_folder (h : staticPath? folder relative = some path)
    {entries : List (String × Node)} (hfind : root.find path = .ok (.folder entries)) :
    serve root folder relative =
      match root.find (join path "index.html") with
      | .ok (.file body) => .ok (some ⟨contentType (join path "index.html"), body⟩)
      | .ok .locked => .error (failureOf .denied)
      | .ok (.folder _) => .ok none
      | .error .notFound => .ok none
      | .error e => .error (failureOf e) := by
  unfold serve serveFile Node.read
  rw [h]
  dsimp only
  rw [hfind]
  rcases root.find (join path "index.html") with e | page
  · cases e <;> rfl
  · cases page <;> rfl

end

/-! ## The file that a request path names -/

/-- A request path names at most one file. -/
lemma Offers.eq {a b : Served} (ha : Offers here folder names a) (hb : Offers here folder names b) :
    a = b := by
  cases ha with
  | file is =>
      cases hb with
      | file is' =>
          rw [is] at is'
          cases is'
          rfl
      | page isFolder' is' =>
          rw [is] at isFolder'
          cases isFolder'
  | page isFolder is =>
      cases hb with
      | file is' =>
          rw [is'] at isFolder
          cases isFolder
      | page isFolder' is' =>
          rw [is] at is'
          cases is'
          rfl

/-- A file that is offered is the one that the path names. -/
lemma isOffer_some (habove : ".." ∉ Text.splitText '/' relative) {file : Served}
    (h : Offers here folder (steps relative) file) : IsOffer here folder relative (some file) := by
  intro other
  constructor
  · rintro heq
    cases heq
    exact ⟨habove, h⟩
  · rintro ⟨-, hother⟩
    rw [h.eq hother]

/-- A path that leads upwards or to no file names none. -/
lemma isOffer_none (h : ".." ∉ Text.splitText '/' relative → ∀ file,
    ¬ Offers here folder (steps relative) file) : IsOffer here folder relative none := by
  intro file
  constructor
  · intro heq
    cases heq
  · rintro ⟨habove, hfile⟩
    exact absurd hfile (h habove file)

/-- Names that lead nowhere name no file. -/
lemma not_offers_of_none (h : here.descend? names = none) (file : Served) :
    ¬ Offers here folder names file := by
  intro hoffers
  cases hoffers with
  | file is =>
      rw [h] at is
      cases is
  | page isFolder is =>
      rw [h] at isFolder
      cases isFolder

/-- A folder is served through a page that is a file. -/
lemma not_offers_of_folder {entries : List (String × Node)}
    (h : here.descend? names = some (.folder entries))
    (hpage : ∀ body, here.descend? (names ++ ["index.html"]) ≠ some (.file body)) (file : Served) :
    ¬ Offers here folder names file := by
  intro hoffers
  cases hoffers with
  | file is =>
      rw [h] at is
      cases is
  | page isFolder is => exact hpage _ is

/-- A folder of one file has nothing locked in it. -/
lemma isOpen_single (name : String) (body : List UInt8) :
    (Node.folder [(name, .file body)]).IsOpen := by
  intro names heq
  cases names with
  | nil => cases heq
  | cons first names =>
      have hentry : ∀ node, entry? first [(name, Node.file body)] = some node →
          node = .file body := by
        intro node hnode
        obtain ⟨front, back, hsplit, -⟩ := List.lookup_eq_some_iff.mp hnode
        have hmem : (first, node) ∈ [(name, Node.file body)] := by
          rw [hsplit]
          exact List.mem_append_right front List.mem_cons_self
        exact (Prod.mk.inj (List.mem_singleton.mp hmem)).2
      rw [Node.descend?] at heq
      obtain ⟨next, hnext, hrest⟩ := Option.bind_eq_some_iff.mp heq
      rw [hentry next hnext] at hrest
      cases names with
      | nil => cases hrest
      | cons second names => cases hrest

/-! ## The two cases -/

/-- Names that go on below a file, and the page with too long a path, make the request fail. -/
lemma serve_of_strays (hfolder : root.find folder = .ok here)
    (hlimits : IsWithinLimits folder relative) (habove : ".." ∉ Text.splitText '/' relative)
    {e : PathError} (h : Strays here folder (steps relative) e) :
    serve root folder relative = .error (failureOf e) := by
  have hplain := isPlainName_of_mem_steps habove
  have hpath := staticPath?_of_not_mem habove folder
  have hfind := hlimits.find_path hfolder hplain
  cases h with
  | belowFile goesOn is =>
      have hname := hlimits.name
      rw [goesOn] at hplain hname
      have hwalk := walk_below_file hplain hname is rfl
      rw [← goesOn, ← hfind] at hwalk
      rw [serve_of_error hpath hwalk, if_neg (by decide)]
  | longPage isFolder long =>
      obtain ⟨node, hdescend, hkind⟩ := Option.map_eq_some_iff.mp isFolder
      rw [walk_of_descend hplain hlimits.name hdescend] at hfind
      cases node with
      | file body => cases hkind
      | locked => cases hkind
      | folder entries =>
          rw [serve_of_folder hpath hfind, hlimits.find_page hfolder hplain, if_pos long]

/-- A folder is answered with its page, if it has one and the path of that is not too long. -/
lemma offer_or_strays_folder (hfolder : root.find folder = .ok here) (hopen : here.IsOpen)
    (hlimits : IsWithinLimits folder relative) (habove : ".." ∉ Text.splitText '/' relative)
    {entries : List (String × Node)}
    (hdescend : here.descend? (steps relative) = some (.folder entries)) :
    (∃ answer, serve root folder relative = .ok answer ∧ IsOffer here folder relative answer) ∨
      ∃ e, Strays here folder (steps relative) e := by
  have hplain := isPlainName_of_mem_steps habove
  have hpath := staticPath?_of_not_mem habove folder
  have hfind := hlimits.find_path hfolder hplain
  rw [walk_of_descend hplain hlimits.name hdescend] at hfind
  have hpage := hlimits.find_page hfolder hplain
  by_cases hlong : maxPathSize <
      (join ((steps relative).foldl join folder) "index.html").utf8ByteSize
  · exact .inr ⟨_, .longPage (by rw [hdescend]; rfl) hlong⟩
  rw [if_neg hlong] at hpage
  left
  rcases hindex : here.descend? (steps relative ++ ["index.html"]) with _ | page
  · rw [walk_concat_of_none (isPlainName_page hplain) hlimits.name_page hdescend hindex] at hpage
    refine ⟨none, ?_, isOffer_none fun _ => not_offers_of_folder hdescend ?_⟩
    · rw [serve_of_folder hpath hfind, hpage]
    · rw [hindex]
      intro body heq
      cases heq
  · rw [walk_of_descend (isPlainName_page hplain) hlimits.name_page hindex] at hpage
    rw [serve_of_folder hpath hfind, hpage]
    cases page with
    | file body =>
        refine ⟨_, rfl, isOffer_some habove ?_⟩
        rw [contentType_page hplain]
        exact .page (by rw [hdescend]; rfl) hindex
    | locked => exact absurd hindex (hopen _)
    | folder inner =>
        refine ⟨none, rfl, isOffer_none fun _ => not_offers_of_folder hdescend ?_⟩
        rw [hindex]
        intro body heq
        cases heq

/-- Every other request path is answered with the file that it names, if it names one. -/
lemma offer_or_strays (hfolder : root.find folder = .ok here) (hopen : here.IsOpen)
    (hlimits : IsWithinLimits folder relative) (habove : ".." ∉ Text.splitText '/' relative) :
    (∃ answer, serve root folder relative = .ok answer ∧ IsOffer here folder relative answer) ∨
      ∃ e, Strays here folder (steps relative) e := by
  have hplain := isPlainName_of_mem_steps habove
  have hpath := staticPath?_of_not_mem habove folder
  have hfind := hlimits.find_path hfolder hplain
  rcases hdescend : here.descend? (steps relative) with _ | node
  · rcases walk_of_descend_eq_none hplain hlimits.name hdescend with hwalk |
      ⟨front, name, rest, node, heq, hnode, hfile⟩
    · rw [hwalk] at hfind
      refine .inl ⟨none, ?_, isOffer_none fun _ => not_offers_of_none hdescend⟩
      rw [serve_of_error hpath hfind, if_pos rfl]
    · cases node with
      | file body => exact .inr ⟨_, .belowFile heq hnode⟩
      | locked => exact absurd hnode (hopen front)
      | folder entries => cases hfile
  · cases node with
    | file body =>
        rw [walk_of_descend hplain hlimits.name hdescend] at hfind
        refine .inl ⟨_, serve_of_file hpath hfind, isOffer_some habove ?_⟩
        rw [contentType_below hplain]
        exact .file hdescend
    | locked => exact absurd hdescend (hopen _)
    | folder entries => exact offer_or_strays_folder hfolder hopen hlimits habove hdescend

/-- **When a request is answered.**  Let all below the folder be readable, and the request path be
within the limits of the system.  Then there is an answer, which is the file that the path names, or
none when it names none, if and only if the path holds a step upwards, or neither goes on below a
file nor names a folder whose page has too long a path.  If it does, the request fails, with the
error of the system for it. -/
theorem serve_offers_iff (hfolder : root.find folder = .ok here) (hopen : here.IsOpen)
    (hlimits : IsWithinLimits folder relative) :
    ((∃ answer, serve root folder relative = .ok answer ∧ IsOffer here folder relative answer) ↔
        ".." ∈ Text.splitText '/' relative ∨ ∀ e, ¬ Strays here folder (steps relative) e) ∧
      (".." ∉ Text.splitText '/' relative → ∀ e, Strays here folder (steps relative) e →
        serve root folder relative = .error (failureOf e)) := by
  refine ⟨⟨?_, ?_⟩, fun habove e hstrays => serve_of_strays hfolder hlimits habove hstrays⟩
  · rintro ⟨answer, hserve, -⟩
    by_cases habove : ".." ∈ Text.splitText '/' relative
    · exact .inl habove
    · refine .inr fun e hstrays => ?_
      rw [serve_of_strays hfolder hlimits habove hstrays] at hserve
      cases hserve
  · intro hcase
    by_cases habove : ".." ∈ Text.splitText '/' relative
    · refine ⟨none, ?_, isOffer_none fun hnot => absurd habove hnot⟩
      rw [← serveTelling_fst, serveTelling_of_above habove]
    · rcases offer_or_strays hfolder hopen hlimits habove with hanswer | ⟨e, hstrays⟩
      · exact hanswer
      · exact absurd hstrays (hcase.resolve_left habove e)

/-- A file is served, with what it holds. -/
theorem serve_offers_iff_file :
    let here : Node := .folder [("a.txt", .file [120])]
    let root : Node := .folder [("public", here)]
    root.find "public" = .ok here ∧ here.IsOpen ∧ IsWithinLimits "public" "/a.txt" ∧
      ∃ answer, serve root "public" "/a.txt" = .ok answer ∧
        IsOffer here "public" "/a.txt" answer ∧ answer ≠ none := by
  intro here root
  have hfolder : root.find "public" = .ok here :=
    find_single ⟨by decide, by decide +kernel, by decide, by decide⟩ (by decide +kernel)
      (by decide +kernel) here
  have hopen : here.IsOpen := isOpen_single "a.txt" [120]
  have hsteps : steps "/a.txt" = ["a.txt"] := by decide +kernel
  have hlimits : IsWithinLimits "public" "/a.txt" := by
    refine ⟨by decide +kernel, ?_, by decide +kernel⟩
    rw [hsteps]
    decide +kernel
  have habove : ".." ∉ Text.splitText '/' "/a.txt" := by decide +kernel
  have hstrays : ∀ e, ¬ Strays here "public" (steps "/a.txt") e := by
    rw [hsteps]
    intro e hstrays
    cases hstrays with
    | longPage isFolder long => cases isFolder
    | @belowFile front rest name body goesOn is =>
        cases front with
        | nil => cases congrArg (Option.map Node.kind) is
        | cons first front => simp at goesOn
  obtain ⟨hiff, -⟩ := serve_offers_iff hfolder hopen hlimits
  obtain ⟨answer, hserve, hoffer⟩ := hiff.mpr (.inr hstrays)
  refine ⟨hfolder, hopen, hlimits, answer, hserve, hoffer, ?_⟩
  rintro rfl
  have hfile : Offers here "public" (steps "/a.txt") ⟨contentType "a.txt", [120]⟩ := by
    rw [hsteps]
    exact .file rfl
  cases (hoffer _).mpr ⟨habove, hfile⟩

/-- A path that goes on below a file names none, and yet there is no answer. -/
theorem serve_below_file :
    let here : Node := .folder [("a.txt", .file [120])]
    let root : Node := .folder [("public", here)]
    (root.find "public" = .ok here ∧ here.IsOpen ∧ IsWithinLimits "public" "a.txt/b") ∧
      (∀ file, ¬ Offers here "public" (steps "a.txt/b") file) ∧
      serve root "public" "a.txt/b" = .error (.internal "Not a directory (os error 20)") := by
  intro here root
  have hsteps : steps "a.txt/b" = ["a.txt", "b"] := by decide +kernel
  refine ⟨⟨?_, isOpen_single "a.txt" [120], ?_⟩, ?_, ?_⟩
  · exact find_single ⟨by decide, by decide +kernel, by decide, by decide⟩ (by decide +kernel)
      (by decide +kernel) here
  · refine ⟨by decide +kernel, ?_, by decide +kernel⟩
    rw [hsteps]
    decide +kernel
  · rw [hsteps]
    exact not_offers_of_none rfl
  · decide +kernel

end KeyDirectory.Files
