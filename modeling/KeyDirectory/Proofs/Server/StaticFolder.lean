import KeyDirectory.Proofs.Files.Below

/-!
# Static serving stays below its folder

A request path is cleaned to plain names, so at most two paths are touched for it, both of them
below the folder, and all that is seen of the tree stands there.

* `isPlainName_of_mem_steps`, `staticPath?_of_not_mem`: what a request path is cleaned to.
* `serveTelling_of_path`: what is served and touched, by what is found.
* `contentType_below`: a path has the content type of its last name.
* `serve_stays_below`: the result, for every tree, folder and request path.
-/

namespace KeyDirectory.Files

open Folder (IsPlainName)

variable {root root' here : Node} {folder relative name path : String} {names : List String}

/-! ## The names of a request path -/

/-- A step upwards is among the steps iff it is among the pieces of the path. -/
lemma above_mem_steps_iff : ".." ∈ steps relative ↔ ".." ∈ Text.splitText '/' relative := by
  simp [steps]

/-- Without a step upwards every step is a plain name. -/
lemma isPlainName_of_mem_steps (h : ".." ∉ Text.splitText '/' relative) :
    ∀ name ∈ steps relative, IsPlainName name := by
  intro name hname
  obtain ⟨hmem, hkept⟩ := List.mem_filter.mp hname
  obtain ⟨hempty, hhere⟩ := of_decide_eq_true hkept
  refine ⟨hempty, fun hslash => ?_, hhere, ?_⟩
  · exact (Text.mem_of_mem_splitText hmem hslash).2 rfl
  · rintro rfl
    exact h hmem

/-- The path served is the folder joined with the steps, unless one leads upwards. -/
lemma staticPath?_eq (folder relative : String) :
    staticPath? folder relative =
      if ".." ∈ Text.splitText '/' relative then none
      else some ((steps relative).foldl join folder) := by
  have hclean : cleanSteps? relative =
      if (steps relative).contains ".." then none else some (steps relative) := rfl
  unfold staticPath?
  rw [hclean]
  simp only [List.contains_iff_mem, above_mem_steps_iff]
  split_ifs <;> rfl

/-- A path with a step upwards is not served. -/
lemma staticPath?_of_mem (h : ".." ∈ Text.splitText '/' relative) (folder : String) :
    staticPath? folder relative = none :=
  (staticPath?_eq folder relative).trans (if_pos h)

/-- A path without a step upwards is served from the folder joined with its steps. -/
lemma staticPath?_of_not_mem (h : ".." ∉ Text.splitText '/' relative) (folder : String) :
    staticPath? folder relative = some ((steps relative).foldl join folder) :=
  (staticPath?_eq folder relative).trans (if_neg h)

/-- The name of a folder's page is a plain name. -/
lemma isPlainName_index : IsPlainName "index.html" :=
  ⟨by decide, by decide +kernel, by decide, by decide⟩

/-- The page of a folder is one name below it. -/
lemma isPlainName_page (h : ∀ name ∈ names, IsPlainName name) :
    ∀ name ∈ names ++ ["index.html"], IsPlainName name := by
  rw [List.forall_mem_append, List.forall_mem_singleton]
  exact ⟨h, isPlainName_index⟩

/-- The page of a folder is one join more. -/
lemma foldl_join_page (names : List String) (folder : String) :
    (names ++ ["index.html"]).foldl join folder = join (names.foldl join folder) "index.html" := by
  rw [List.foldl_append]
  rfl

/-! ## The content type of a path -/

/-- A last piece that is a plain name is the file name of the path. -/
lemma fileName?_of_splitText {front : List String} (hname : IsPlainName name)
    (h : Text.splitText '/' path = front ++ [name]) : fileName? path = some name := by
  have hkept : [name].filter (fun step => decide (step ≠ "" ∧ step ≠ ".")) = [name] := by
    simp [hname.notEmpty, hname.notHere]
  have hlast : (steps path).getLast? = some name := by
    unfold steps
    rw [h, List.filter_append, hkept, List.getLast?_concat]
  unfold fileName?
  rw [hlast]
  split
  · next heq => cases heq
  · next heq => exact absurd (Option.some.inj heq) hname.notAbove
  · next heq => exact heq.symm

/-- A path below a folder has the content type of its last name. -/
lemma contentType_below (h : ∀ name ∈ names, IsPlainName name) (folder : String) :
    contentType (names.foldl join folder) = contentType (names.getLast?.getD folder) := by
  rcases List.eq_nil_or_concat' names with rfl | ⟨front, name, rfl⟩
  · rfl
  · have hname : IsPlainName name := h name (by simp)
    obtain ⟨steps, hsplit, -⟩ := splitText_below (by simp) h folder
    have hpath : fileName? ((front ++ [name]).foldl join folder) = some name := by
      rw [← List.append_assoc] at hsplit
      exact fileName?_of_splitText hname hsplit
    have hsingle : Text.splitText '/' name = [] ++ [name] := splitText_of_not_mem hname.oneStep
    have hlast : fileName? name = some name := fileName?_of_splitText hname hsingle
    rw [List.getLast?_concat, Option.getD_some]
    unfold contentType
    rw [hpath, hlast]

/-! ## What is served and touched -/

/-- What is served and touched for a request path, by what is found. -/
lemma serveTelling_of_path (h : staticPath? folder relative = some path) (root : Node) :
    serveTelling root folder relative =
      match (root.find path).map Node.isFolder with
      | .error .notFound => (.ok none, [.looksAt path])
      | .error e => (.error (failureOf e), [.looksAt path])
      | .ok false => (serveFile root path, [.looksAt path, .reads path])
      | .ok true =>
        let index := join path "index.html"
        match (root.find index).map Node.isFolder with
        | .error .notFound => (.ok none, [.looksAt path, .looksAt index])
        | .error e => (.error (failureOf e), [.looksAt path, .looksAt index])
        | .ok false =>
          (serveFile root index, [.looksAt path, .looksAt index, .reads index])
        | .ok true => (.ok none, [.looksAt path, .looksAt index]) := by
  have hfile : ∀ path told, (serveFileWith (recordingRead root) path).run told =
      (serveFile root path, told ++ [.reads path]) := by
    intro path told
    unfold serveFileWith serveFile
    dsimp only [recordingRead]
    rcases root.read path with e | body <;> rfl
  unfold serveTelling serveWith
  rw [h]
  dsimp only [recordingLook]
  rcases (root.find path).map Node.isFolder with e | isFolder
  · cases e <;> rfl
  · cases isFolder with
    | false => exact hfile path [.looksAt path]
    | true =>
        rcases (root.find (join path "index.html")).map Node.isFolder with e | isFolder
        · cases e <;> rfl
        · cases isFolder with
          | false => exact hfile (join path "index.html") _
          | true => rfl

/-- Writing down what is touched changes nothing of what is served. -/
lemma serveTelling_fst (root : Node) (folder relative : String) :
    (serveTelling root folder relative).1 = serve root folder relative := by
  rcases hpath : staticPath? folder relative with _ | path
  · unfold serveTelling serveWith serve
    rw [hpath]
    rfl
  · rw [serveTelling_of_path hpath]
    unfold serve
    rw [hpath]
    dsimp only
    rcases root.find path with e | node
    · cases e <;> rfl
    · cases node with
      | file body => rfl
      | locked => rfl
      | folder entries =>
          rcases root.find (join path "index.html") with e | index
          · cases e <;> rfl
          · cases index <;> rfl

/-- A path with a step upwards touches nothing. -/
lemma serveTelling_of_above (h : ".." ∈ Text.splitText '/' relative) (root : Node)
    (folder : String) : serveTelling root folder relative = (.ok none, []) := by
  unfold serveTelling serveWith
  rw [staticPath?_of_mem h]
  rfl

/-- At most two paths are touched: that of the names and that of the page there. -/
lemma path_of_touched (h : staticPath? folder relative = some path) {access : Access}
    (haccess : access ∈ (serveTelling root folder relative).2) :
    access.path = path ∨ access.path = join path "index.html" := by
  have hpath : (Access.looksAt path).path = path ∧ (Access.reads path).path = path := ⟨rfl, rfl⟩
  have hindex : (Access.looksAt (join path "index.html")).path = join path "index.html" ∧
      (Access.reads (join path "index.html")).path = join path "index.html" := ⟨rfl, rfl⟩
  have htouched : (serveTelling root folder relative).2 ⊆ [.looksAt path, .reads path,
      .looksAt (join path "index.html"), .reads (join path "index.html")] := by
    rw [serveTelling_of_path h]
    split
    · simp
    · simp
    · simp
    · dsimp only
      split <;> simp
  have hmem := htouched haccess
  simp only [List.mem_cons, List.not_mem_nil, or_false] at hmem
  rcases hmem with rfl | rfl | rfl | rfl
  · exact .inl rfl
  · exact .inl rfl
  · exact .inr rfl
  · exact .inr rfl

/-- A file that is served is the one that the request path names, or the page of the folder that it
names. -/
lemma serve_eq_some (h : staticPath? folder relative = some path) {file : Served}
    (hserve : serve root folder relative = .ok (some file)) :
    (∃ body, root.find path = .ok (.file body) ∧ file = ⟨contentType path, body⟩) ∨
      ∃ entries body, root.find path = .ok (.folder entries) ∧
        root.find (join path "index.html") = .ok (.file body) ∧
        file = ⟨contentType (join path "index.html"), body⟩ := by
  unfold serve serveFile Node.read at hserve
  rw [h] at hserve
  dsimp only at hserve
  rcases hfind : root.find path with e | node
  · rw [hfind] at hserve
    cases e <;> cases hserve
  · rw [hfind] at hserve
    cases node with
    | file body => exact .inl ⟨body, rfl, (Option.some.inj (Except.ok.inj hserve)).symm⟩
    | locked => cases hserve
    | folder entries =>
        rcases hindex : root.find (join path "index.html") with e | index
        · rw [hindex] at hserve
          cases e <;> cases hserve
        · rw [hindex] at hserve
          cases index with
          | file body =>
              exact .inr ⟨entries, body, rfl, rfl, (Option.some.inj (Except.ok.inj hserve)).symm⟩
          | locked => cases hserve
          | folder inner => cases hserve

/-! ## Only below the folder -/

/-- Joining plain names leads below the folder. -/
lemma leadsBelow (h : ∀ name ∈ names, IsPlainName name) (root : Node) (folder : String) :
    LeadsBelow root folder names (names.foldl join folder) :=
  ⟨rfl, h, fun _ => descend_of_find h⟩

/-- The page of a folder is HTML. -/
lemma contentType_page (h : ∀ name ∈ names, IsPlainName name) (folder : String) :
    contentType (join (names.foldl join folder) "index.html") = "text/html; charset=utf-8" := by
  have hpage : contentType "index.html" = "text/html; charset=utf-8" := by decide +kernel
  rw [← foldl_join_page, contentType_below (isPlainName_page h), List.getLast?_concat,
    Option.getD_some, hpage]

/-- What is served is a file that the folder offers. -/
lemma offers_of_serve (habove : ".." ∉ Text.splitText '/' relative) {file : Served}
    (hserve : serve root folder relative = .ok (some file)) :
    ∃ here, root.startAt folder = .ok here ∧ Offers here folder (steps relative) file := by
  have hplain := isPlainName_of_mem_steps habove
  have hpath := staticPath?_of_not_mem habove folder
  rcases serve_eq_some hpath hserve with ⟨body, hfind, rfl⟩ | ⟨entries, body, hfind, hindex, rfl⟩
  · obtain ⟨here, hstart, hdescend⟩ := descend_of_find hplain hfind
    rw [contentType_below hplain]
    exact ⟨here, hstart, .file hdescend⟩
  · obtain ⟨here, hstart, hdescend⟩ := descend_of_find hplain hfind
    rw [← foldl_join_page] at hindex
    obtain ⟨again, hagain, hpage⟩ := descend_of_find (isPlainName_page hplain) hindex
    obtain rfl : here = again := Except.ok.inj (hstart.symm.trans hagain)
    rw [contentType_page hplain]
    exact ⟨here, hstart, .page (by rw [hdescend]; rfl) hpage⟩

/-- Serving touches nothing but paths below the folder. -/
lemma staysBelow_serveTelling (root : Node) (folder relative : String) :
    StaysBelow root folder relative (serveTelling root folder relative) where
  refused h := serveTelling_of_above h root folder
  touched access haccess := by
    by_cases habove : ".." ∈ Text.splitText '/' relative
    · rw [serveTelling_of_above habove] at haccess
      cases haccess
    · have hplain := isPlainName_of_mem_steps habove
      have hpath := staticPath?_of_not_mem habove folder
      rcases path_of_touched hpath haccess with heq | heq
      · rw [heq]
        exact .inl (leadsBelow hplain root folder)
      · rw [heq, ← foldl_join_page]
        exact .inr (leadsBelow (isPlainName_page hplain) root folder)
  served file hserved := by
    by_cases habove : ".." ∈ Text.splitText '/' relative
    · rw [serveTelling_of_above habove] at hserved
      cases hserved
    · rw [serveTelling_fst] at hserved
      exact offers_of_serve habove hserved

/-- What is served and touched depends on what is found at the two paths alone. -/
lemma serveTelling_alike (h : Alike (root.startAt folder) (root'.startAt folder))
    (relative : String) :
    serveTelling root folder relative = serveTelling root' folder relative := by
  by_cases habove : ".." ∈ Text.splitText '/' relative
  · rw [serveTelling_of_above habove, serveTelling_of_above habove]
  · have hplain := isPlainName_of_mem_steps habove
    have hpath := staticPath?_of_not_mem habove folder
    have hfind := find_alike h hplain
    have hindex := find_alike h (isPlainName_page hplain)
    rw [foldl_join_page] at hindex
    rw [serveTelling_of_path hpath, serveTelling_of_path hpath]
    unfold serveFile
    dsimp only
    rw [isFolder_alike hfind, isFolder_alike hindex, read_alike hfind, read_alike hindex]

/-- **Serving never leaves its folder.**  Whatever the tree, the folder and the request path: a path
that holds a step upwards is refused and nothing is touched for it.  Otherwise the paths that are
touched lead from the folder downwards, and what is served is the whole of the file that the request
path names, or of the page of the folder that it names, with the content type of that file.  A tree
that is the same below the folder gives the same answer, and the same paths are touched in it. -/
theorem serve_stays_below (root : Node) (folder relative : String) :
    (serveTelling root folder relative).1 = serve root folder relative ∧
      StaysBelow root folder relative (serveTelling root folder relative) ∧
      ∀ root' : Node, Alike (root.startAt folder) (root'.startAt folder) →
        serveTelling root folder relative = serveTelling root' folder relative :=
  ⟨serveTelling_fst root folder relative, staysBelow_serveTelling root folder relative,
    fun _ h => serveTelling_alike h relative⟩

/-- A page beside a file that no request reaches, in two trees that differ in that file alone. -/
theorem serve_stays_below_secret :
    let site : Node := .folder [("docs", .folder [("index.html", .file [104, 105])])]
    let root : Node := .folder [("www", site), ("secret", .file [1])]
    let other : Node := .folder [("secret", .locked), ("www", site)]
    serveTelling root "/www" "docs/../../secret" = (.ok none, []) ∧
      serveTelling root "/www" "//docs/." = serveTelling other "/www" "//docs/." ∧
      ∃ file, serve root "/www" "//docs/." = .ok (some file) ∧
        Offers site "/www" ["docs"] file := by
  intro site root other
  have hsplit : Text.splitText '/' "/www" = ["", "www"] := by decide +kernel
  have hshort : "www".utf8ByteSize ≤ maxNameSize := by decide +kernel
  have hfound : ∀ entries, entry? "www" entries = some site →
      (Node.folder entries).startAt "/www" = .ok site := by
    intro entries hentry
    unfold Node.startAt
    rw [if_neg (by decide)]
    refine find_eq_ok_iff.mpr ⟨by decide +kernel, by decide, by decide +kernel, ?_⟩
    rw [hsplit, walk_folder, if_pos (.inl rfl), walk_folder, if_neg (by decide),
      if_neg (by decide), if_neg (Nat.not_lt.mpr hshort), hentry]
    rfl
  have hroot : root.startAt "/www" = .ok site := hfound _ rfl
  have hother : other.startAt "/www" = .ok site := hfound _ rfl
  have halike : Alike (root.startAt "/www") (other.startAt "/www") := by
    rw [hroot, hother]
    exact .ok fun _ => rfl
  have hserve : serve root "/www" "//docs/." =
      .ok (some ⟨"text/html; charset=utf-8", [104, 105]⟩) := by
    decide +kernel
  obtain ⟨-, hrefused, -⟩ := serve_stays_below root "/www" "docs/../../secret"
  obtain ⟨hfst, hstays, hsame⟩ := serve_stays_below root "/www" "//docs/."
  refine ⟨hrefused.refused (by decide +kernel), hsame other halike, _, hserve, ?_⟩
  obtain ⟨here, hstart, hoffers⟩ := hstays.served _ (hfst.trans hserve)
  obtain rfl : site = here := Except.ok.inj (hroot.symm.trans hstart)
  have hsteps : steps "//docs/." = ["docs"] := by decide +kernel
  rwa [hsteps] at hoffers

end KeyDirectory.Files
