import KeyDirectory.Proofs.Remote.Steps
import KeyDirectory.Proofs.Source.Blocklist
import KeyDirectory.Proofs.Source.Chain
import KeyDirectory.Server.LegalBlock

/-!
# Refusals for legal reasons, from the settings to the response

The refusal of an identity comes from the blocklist alone: no source ever says that an identity is
unavailable, so a response of status 451 tells that the settings refuse the identity, and no more.

* `ask_admits`, `resolve_admits`: neither the sources nor their chain refuse anybody.
* `ofSettings_without_legalBlock`: what the list of identities to refuse changes in a directory.
* `legalBlock_decides`: the result.
-/

namespace KeyDirectory

/-- An answer that does not say that the identity is unavailable. -/
def Admits (answer : Answer) : Prop :=
  ∀ name, answer ≠ .error (.unavailable name)

/-! ## What the sources answer -/

/-- The roster never reports a legal block. -/
lemma Upload.Roster.admits_get (r : Upload.Roster) (identity : String) :
    Admits (r.get identity) := by
  intro name
  unfold get
  split <;> simp

/-- The folder never reports a legal block. -/
lemma Folder.admits_get (root : Files.Node) (folder identity : String) :
    Admits (Folder.get root folder identity) := by
  intro name
  unfold get
  split
  · dsimp only
    split <;> simp
  · simp

namespace RemoteDirectory

/-- A body from the remote never reads as a legal block. -/
lemma admits_answer (identity : String) (body : Option (List UInt8)) :
    Admits (answer identity body) := by
  intro name h
  rcases answer_eq_error h with heq | heq | ⟨detail, heq⟩ <;> cases heq

/-- The remote never reports a legal block. -/
lemma admits_conclude (d : RemoteDirectory) (now : Moment) (identity : String)
    (stored : Option Cache.Entry) (outcome : Remote.Outcome) (cache : Cache) :
    Admits ((d.conclude now identity stored outcome cache).2.bind (answer identity)) := by
  rcases h : (d.conclude now identity stored outcome cache).2 with failure | body
  · obtain ⟨detail, rfl⟩ := conclude_eq_error h
    intro name
    simp [Except.bind]
  · exact admits_answer identity body

/-- The remote directory never says that an identity is unavailable. -/
lemma admits_get (d : RemoteDirectory) (now : StateM ω Moment)
    (exchange : Remote.Request → StateM ω Remote.Outcome) (identity : String) (cache : Cache)
    (world : ω) : Admits ((d.get now exchange identity cache).run world).1.2 := by
  unfold get
  rw [StateT.run_bind]
  dsimp only [bind]
  rcases hstart : d.start (now.run world).1 identity cache with ⟨cache', body | ⟨request, stored⟩⟩
  · exact admits_answer identity (some body)
  · dsimp only
    exact admits_conclude d _ identity stored _ cache'

end RemoteDirectory

/-! ## What the chain answers -/

section chain

variable {σ ω : Type}

/-- Whatever the state and the world outside, a computation results in an answer that admits. -/
def AlwaysAdmits (x : StateT σ (StateM ω) Answer) : Prop :=
  ∀ state world, Admits ((x.run state).run world).1.1

/-- No source says that an identity is unavailable. -/
lemma Directory.ask_admits (d : Directory) (now : StateM ω Moment)
    (exchange : Remote.Request → StateM ω Remote.Outcome) (source : Source) (identity : String) :
    AlwaysAdmits (d.ask now exchange source identity) := by
  intro state world
  cases source with
  | uploads => exact state.roster.admits_get identity
  | folder path => exact Folder.admits_get state.files path identity
  | remote => exact d.remote.admits_get now exchange identity state.cache world

/-- Asking sources in turn has the last answer before them, or the answer of one of them. -/
lemma Chain.askInTurn_admits {ask : α → String → StateT σ (StateM ω) Answer} {identity : String}
    (hask : ∀ a, AlwaysAdmits (ask a identity)) (sources : List α) {last : Answer}
    (hlast : Admits last) :
    AlwaysAdmits (askInTurn ask identity last (sources.map .source)) := by
  induction sources generalizing last with
  | nil =>
    intro state world
    exact hlast
  | cons a sources ih =>
    intro state world
    have ha : Admits (((ask a identity).run state).run world).1.1 := hask a state world
    rw [List.map_cons, askInTurn, Leaf.ask, StateT.run_bind, StateT.run_bind]
    dsimp only [bind]
    split
    · exact ih ha _ _
    · exact ha

end chain

namespace Directory

variable {m : Type → Type} [Monad m]

/-- A directory always has a source. -/
lemma sources_ne_nil (d : Directory) : d.sources ≠ [] := by
  unfold sources
  exact List.append_ne_nil_of_right_ne_nil _ (List.cons_ne_nil _ _)

/-- Behind the blocklist stands a chain that is not empty. -/
lemma isBuilt_chain (d : Directory) : d.chain.IsBuilt := by
  refine .barring _ (Chain.isBuilt_firstOf_iff.mpr ⟨?_, ?_⟩)
  · rw [ne_eq, List.map_eq_nil_iff]
    exact d.sources_ne_nil
  · intro member hmember
    obtain ⟨a, -, rfl⟩ := List.mem_map.mp hmember
    exact .source a

/-- A barred identity is refused before any source is asked. -/
lemma resolve_chain_of_bars (d : Directory) (ask : Source → String → m Answer) {identity : String}
    (h : d.blocklist.bars identity = true) :
    d.chain.resolve ask identity = pure (.error (.unavailable identity)) := by
  rw [chain, Chain.resolve, if_pos h]

/-- For an identity that is not barred the search goes through the directory's own sources. -/
lemma leaves_chain (d : Directory) {identity : String} (h : d.blocklist.bars identity = false) :
    d.chain.leaves identity = d.sources.map .source := by
  rw [chain, Chain.leaves, if_neg (Bool.eq_false_iff.mp h), Chain.leaves]
  exact Chain.leavesOfAll_map_source identity d.sources

/-- An identity that is not barred is never said to be unavailable. -/
lemma resolve_admits (d : Directory) (now : StateM ω Moment)
    (exchange : Remote.Request → StateM ω Remote.Outcome) {identity : String}
    (h : d.blocklist.bars identity = false) : AlwaysAdmits (d.resolve now exchange identity) := by
  have hlast : Admits (.error (.notFound identity)) := by
    intro name
    simp
  rw [resolve, Chain.resolve_eq_askInTurn _ _ d.isBuilt_chain (.error (.notFound identity)),
    d.leaves_chain h]
  exact Chain.askInTurn_admits (fun a => d.ask_admits now exchange a identity) d.sources hlast

/-- To an identity that is not barred, the blocklist makes no difference. -/
lemma resolve_withoutBlocklist (d : Directory) (now : m Moment)
    (exchange : Remote.Request → m Remote.Outcome) {identity : String}
    (h : d.blocklist.bars identity = false) :
    d.withoutBlocklist.resolve now exchange identity = d.resolve now exchange identity := by
  have hnone : d.withoutBlocklist.blocklist.bars identity = false := rfl
  unfold resolve chain
  rw [Chain.resolve, if_neg (Bool.eq_false_iff.mp hnone), Chain.resolve,
    if_neg (Bool.eq_false_iff.mp h)]
  rfl

/-- What settings set up, part by part. -/
lemma ofSettings_eq_ok_iff {scheme : Password.Scheme} {salt : List UInt8} {files : Files.Node}
    {s : Settings} {d : Directory} :
    ofSettings scheme salt files s = .ok d ↔
      ∃ suffix uploads remote, readSuffix files s.suffixFile = .ok suffix ∧
        uploadPoint scheme salt suffix s = .ok uploads ∧
        RemoteDirectory.ofSettings s = .ok remote ∧
        d = {
          blocklist := Blocklist.ofNames s.blockedNames
          uploads := uploads
          keyFolder := s.keyFolder
          remote := remote
          formats := FormatTable.standard suffix
          indexFile := s.indexFile
          robotsFile := s.robotsFile
          staticFolder := s.staticFolder } := by
  unfold ofSettings
  rcases readSuffix files s.suffixFile with failure | suffix
  · simp [bind, Except.bind]
  rcases huploads : uploadPoint scheme salt suffix s with failure | uploads
  · simp [huploads, bind, Except.bind]
  rcases RemoteDirectory.ofSettings s with failure | remote
  · simp [huploads, bind, Except.bind]
  · simp [huploads, bind, Except.bind, pure, Except.pure, eq_comm]

/-- The list of identities to refuse makes the blocklist, and nothing else. -/
lemma ofSettings_without_legalBlock {scheme : Password.Scheme} {salt : List UInt8}
    {files : Files.Node} {s : Settings} {d : Directory}
    (h : ofSettings scheme salt files s = .ok d) :
    d.blocklist = Blocklist.ofNames s.blockedNames ∧
      ofSettings scheme salt files { s with legalBlock := none } = .ok d.withoutBlocklist := by
  obtain ⟨suffix, uploads, remote, hsuffix, huploads, hremote, rfl⟩ := ofSettings_eq_ok_iff.mp h
  exact ⟨rfl, ofSettings_eq_ok_iff.mpr ⟨suffix, uploads, remote, hsuffix, huploads, hremote, rfl⟩⟩

end Directory

/-! ## What the server answers -/

namespace Server

variable {ω : Type} {d : Directory} {scheme : Password.Scheme} {request : Request} {path : KeyPath}
  {format : Format}

/-- Only the failure of an unavailable identity has the status of a legal notice. -/
lemma status_eq_legal_iff {failure : Failure} :
    (failureResponse failure).status = 451 ↔ ∃ name, failure = .unavailable name := by
  cases failure <;> simp [failureResponse, Response.ofText, Failure.status]

/-- A request for the keys of an identity, in a format that there is, comes down to a resolution. -/
lemma serve_keys (hget : request.method = "GET") (hpath : Route.ofPath request.path = .keys path)
    (hformat : d.formats.get? path.extension = some format) (outside : Outside ω)
    (state : DirectoryState) (world : ω) :
    serve d scheme outside request state world =
      ((do
        match ← d.resolve outside.now outside.exchange path.identity with
        | .error failure => return failureResponse failure
        | .ok record =>
          let client := Client.ofUserAgent (request.header? "user-agent")
          return listingResponse (format.render ⟨path.identity, record, client, ← outside.today⟩) :
        StateT DirectoryState (StateM ω) Response).run state).run world := by
  unfold serve answer keysResponse
  rw [if_neg (by simp [hget])]
  simp only [hpath, hformat]
  rfl

/-- A barred identity gets the legal notice, and neither the state nor the world changes. -/
lemma serve_of_bars (hget : request.method = "GET")
    (hpath : Route.ofPath request.path = .keys path)
    (hformat : d.formats.get? path.extension = some format)
    (hbars : d.blocklist.bars path.identity = true) (outside : Outside ω)
    (state : DirectoryState) (world : ω) :
    serve d scheme outside request state world = ((legalNotice, state), world) := by
  rw [serve_keys hget hpath hformat, Directory.resolve, d.resolve_chain_of_bars _ hbars]
  rfl

/-- Without a bar the answer is never the legal status. -/
lemma status_serve_ne (hget : request.method = "GET")
    (hpath : Route.ofPath request.path = .keys path)
    (hformat : d.formats.get? path.extension = some format)
    (hbars : d.blocklist.bars path.identity = false) (outside : Outside ω)
    (state : DirectoryState) (world : ω) :
    (serve d scheme outside request state world).1.1.status ≠ 451 := by
  have hadmits := d.resolve_admits outside.now outside.exchange hbars state world
  rw [serve_keys hget hpath hformat, StateT.run_bind, StateT.run_bind]
  dsimp only [bind]
  rcases hanswer : (((d.resolve outside.now outside.exchange path.identity).run state).run
    world).1.1 with failure | record
  · intro hstatus
    obtain ⟨name, rfl⟩ := status_eq_legal_iff.mp hstatus
    exact hadmits name hanswer
  · intro hstatus
    cases hstatus

/-- Without a bar the answer is what it would be without any list. -/
lemma serve_withoutBlocklist (hget : request.method = "GET")
    (hpath : Route.ofPath request.path = .keys path)
    (hformat : d.formats.get? path.extension = some format)
    (hbars : d.blocklist.bars path.identity = false) (outside : Outside ω)
    (state : DirectoryState) (world : ω) :
    serve d scheme outside request state world =
      serve d.withoutBlocklist scheme outside request state world := by
  rw [serve_keys hget hpath hformat, serve_keys hget hpath (d := d.withoutBlocklist) hformat,
    d.resolve_withoutBlocklist _ _ hbars]

/-- **Legal blocks, from the settings to the response.**  In every directory that settings set up,
and for every request for the keys of an identity in a format that there is: the response is the
legal notice, and has its status, exactly if some element of the list in the settings is the
identity but for blanks around it and for case.  Then no source is asked, nothing changes in the
directory or outside, and the response depends on neither.  Otherwise the directory that the same
settings without a list set up does the same. -/
theorem legalBlock_decides {salt : List UInt8} {files : Files.Node} {s : Settings}
    (hsetUp : Directory.ofSettings scheme salt files s = .ok d) (hget : request.method = "GET")
    (hpath : Route.ofPath request.path = .keys path)
    (hformat : d.formats.get? path.extension = some format) :
    (∀ (outside : Outside ω) (state : DirectoryState) (world : ω),
      let response := (serve d scheme outside request state world).1.1
      (response = legalNotice ↔ s.Refuses path.identity) ∧
        (response.status = 451 ↔ s.Refuses path.identity)) ∧
      (s.Refuses path.identity → ∀ (outside : Outside ω) (state : DirectoryState) (world : ω),
        serve d scheme outside request state world = ((legalNotice, state), world) ∧
          (∀ calls, (d.chain.resolve (Chain.recording (d.ask outside.now outside.exchange))
            path.identity).run calls = pure (.error (.unavailable path.identity), calls)) ∧
          ∀ (outside' : Outside ω) (state' : DirectoryState) (world' : ω),
            (serve d scheme outside' request state' world').1.1 =
              (serve d scheme outside request state world).1.1) ∧
      (¬ s.Refuses path.identity →
        Directory.ofSettings scheme salt files { s with legalBlock := none } =
            .ok d.withoutBlocklist ∧
          ∀ (outside : Outside ω) (state : DirectoryState) (world : ω),
            serve d scheme outside request state world =
              serve d.withoutBlocklist scheme outside request state world) := by
  obtain ⟨hblocklist, hwithout⟩ := Directory.ofSettings_without_legalBlock hsetUp
  have hbars : d.blocklist.bars path.identity = true ↔ s.Refuses path.identity := by
    rw [hblocklist]
    exact Settings.bars_blockedNames_iff
  have hopen : ¬ s.Refuses path.identity → d.blocklist.bars path.identity = false :=
    fun hnot => Bool.eq_false_iff.mpr fun h => hnot (hbars.mp h)
  have hrefused : s.Refuses path.identity → ∀ (outside : Outside ω) state world,
      serve d scheme outside request state world = ((legalNotice, state), world) :=
    fun h => serve_of_bars hget hpath hformat (hbars.mpr h)
  have hstatus : ∀ (outside : Outside ω) state world,
      (serve d scheme outside request state world).1.1.status = 451 → s.Refuses path.identity := by
    intro outside state world h
    by_contra hnot
    exact status_serve_ne hget hpath hformat (hopen hnot) outside state world h
  refine ⟨fun outside state world => ⟨⟨?_, ?_⟩, ?_, ?_⟩, fun h outside state world => ⟨?_, ?_, ?_⟩,
    fun hnot => ⟨hwithout, ?_⟩⟩
  · intro h
    exact hstatus outside state world (congrArg Response.status h)
  · intro h
    exact congrArg (·.1.1) (hrefused h outside state world)
  · exact hstatus outside state world
  · intro h
    exact congrArg (·.1.1.status) (hrefused h outside state world)
  · exact hrefused h outside state world
  · intro calls
    rw [d.resolve_chain_of_bars _ (hbars.mpr h)]
    rfl
  · intro outside' state' world'
    rw [hrefused h, hrefused h]
  · exact serve_withoutBlocklist hget hpath hformat (hopen hnot)

/-- A list with blanks and an element of nothing else, and the path to a script with a slash at its
end. -/
theorem legalBlock_decides_mallory :
    let s : Settings := { Settings.standard with legalBlock := some " Mallory, ,eve" }
    let request : Request := ⟨"GET", "/MALLORY.sh/", []⟩
    ∃ d, Directory.ofSettings Password.argon2 [] (.folder []) s = .ok d ∧
      s.Refuses "MALLORY" ∧
      ∀ (outside : Outside Nat) (state : DirectoryState) (asked : Nat),
        serve d Password.argon2 outside request state asked = ((legalNotice, state), asked) := by
  intro s request
  have hsetUp : ((Directory.ofSettings Password.argon2 [] (.folder []) s).toOption.any fun d =>
      d.formats.get? "sh" = some .script) = true := by
    decide +kernel
  have hrefuses : s.Refuses "MALLORY" := by decide +kernel
  have hpath : Route.ofPath request.path = .keys ⟨"MALLORY", "sh"⟩ := by decide +kernel
  rcases h : Directory.ofSettings Password.argon2 [] (.folder []) s with failure | d
  · rw [h] at hsetUp
    cases hsetUp
  · rw [h] at hsetUp
    have hlaw := legalBlock_decides (ω := Nat) h rfl hpath (of_decide_eq_true hsetUp)
    refine ⟨d, rfl, hrefuses, fun outside state asked => ?_⟩
    exact (hlaw.2.1 hrefuses outside state asked).1

end Server

end KeyDirectory
