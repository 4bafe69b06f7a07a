import KeyDirectory.Server.Dispatch
import Mathlib.Data.List.Induction
import Mathlib.Tactic.Lemma
import Mathlib.Tactic.SplitIfs

/-!
# Which requests look an identity up

* `get?_ofRegistrations_iff`: the format of an extension.
* `ofPath_eq_keys_iff`: the paths that lead to keys.
* `answer_eq_answerWith`: the answering of a directory is the one with its own lookup.
* `answerWith_of_asksFor`, `answerWith_of_not_asksFor`: the requests that need a lookup, and the
  others.
* `answerTelling_of_asksFor`: which identity is looked up.
* `answerWith_failingWith`: failures without details.
* `answer_dispatches`: all of it together.
-/

namespace KeyDirectory

/-! ## Formats -/

/-- A format is found under every spelling of its name, and under no other name. -/
lemma FormatTable.get?_register (t : FormatTable) (name extension : String) (format : Format) :
    (t.register name format).get? extension =
      if Text.lowerCase name = Text.lowerCase extension then some format else t.get? extension := by
  rw [register, get?, List.lookup_cons]
  split_ifs with h
  · rw [h, beq_self_eq_true]
  · rw [beq_eq_false_iff_ne.mpr (Ne.symm h)]
    rfl

/-- The last registration decides when it is for the extension, and the others before it when it
is not. -/
lemma registered_concat_iff {registrations : List (String × Format)} {name extension : String}
    {format format' : Format} :
    Registered (registrations ++ [(name, format')]) extension format ↔
      if Text.lowerCase name = Text.lowerCase extension then format' = format
      else Registered registrations extension format := by
  constructor
  · rintro ⟨before, after, name', heq, hname', hafter⟩
    rcases List.eq_nil_or_concat after with rfl | ⟨after, last, rfl⟩
    · obtain ⟨-, hlast⟩ := List.append_inj' heq rfl
      simp only [List.cons.injEq, Prod.mk.injEq, and_true] at hlast
      rw [if_pos (hlast.1 ▸ hname')]
      exact hlast.2
    · rw [List.concat_eq_append] at heq hafter
      rw [← List.cons_append, ← List.append_assoc] at heq
      obtain ⟨rfl, hlast⟩ := List.append_inj' heq rfl
      obtain rfl := List.head_eq_of_cons_eq hlast
      rw [List.forall_mem_append, List.forall_mem_singleton] at hafter
      rw [if_neg hafter.2]
      exact ⟨before, after, name', rfl, hname', hafter.1⟩
  · split_ifs with hname
    · rintro rfl
      exact ⟨registrations, [], name, rfl, hname, by simp⟩
    · rintro ⟨before, after, name', rfl, hname', hafter⟩
      refine ⟨before, after ++ [(name, format')], name', by simp, hname', ?_⟩
      rw [List.forall_mem_append, List.forall_mem_singleton]
      exact ⟨hafter, hname⟩

/-- A format is found by the last registration for its extension. -/
lemma FormatTable.get?_ofRegistrations_iff {registrations : List (String × Format)}
    {extension : String} {format : Format} :
    (ofRegistrations registrations).get? extension = some format ↔
      Registered registrations extension format := by
  induction registrations using List.reverseRecOn with
  | nil =>
      constructor
      · intro h
        simp [ofRegistrations, empty, get?] at h
      · rintro ⟨before, after, name, h, -⟩
        simp at h
  | append_singleton registrations last ih =>
      obtain ⟨name, format'⟩ := last
      have hlast : ofRegistrations (registrations ++ [(name, format')]) =
          (ofRegistrations registrations).register name format' := by
        rw [ofRegistrations, List.foldl_append]
        rfl
      rw [hlast, get?_register, registered_concat_iff]
      split_ifs
      · exact Option.some_inj
      · exact ih

/-- The formats that a directory offers are registered one after the other. -/
lemma FormatTable.standard_eq (suffix : List UInt8) :
    standard suffix = ofRegistrations (standardRegistrations suffix) := rfl

namespace Server

/-! ## Paths -/

/-- The paths that lead to keys: the others are reserved, or lie below the reserved folder, or are
no key paths. -/
lemma Route.ofPath_eq_keys_iff {path : String} {keyPath : KeyPath} :
    Route.ofPath path = .keys keyPath ↔
      path ∉ reservedPaths ∧ ¬ "/_/".toList <+: path.toList ∧
        KeyPath.parse? path = some keyPath := by
  unfold Route.ofPath reservedPaths
  simp only [List.mem_cons, List.not_mem_nil, or_false, not_or]
  split_ifs with hindex hrobots hicon hupload
  · constructor
    · intro h
      cases h
    · rintro ⟨⟨hempty, hslash, hindex', -⟩, -⟩
      rcases hindex with h | h | h <;> contradiction
  · constructor
    · intro h
      cases h
    · rintro ⟨⟨-, -, -, hrobots', -⟩, -⟩
      exact absurd hrobots hrobots'
  · constructor
    · intro h
      cases h
    · rintro ⟨⟨-, -, -, -, hicon'⟩, -⟩
      exact absurd hicon hicon'
  · have hprefix : "/_/".toList <+: path.toList := by
      rcases hupload with rfl | rfl <;> decide +kernel
    constructor
    · intro h
      cases h
    · rintro ⟨-, hbelow, -⟩
      exact absurd hprefix hbelow
  · simp only [not_or] at hindex
    cases hbelow : Text.afterBeginning? "/_/".toList path.toList with
    | some relative =>
        have hprefix : "/_/".toList <+: path.toList :=
          ⟨relative, (Text.afterBeginning?_eq_some_iff.mp hbelow).symm⟩
        constructor
        · intro h
          cases h
        · rintro ⟨-, hbelow', -⟩
          exact absurd hprefix hbelow'
    | none =>
        have hprefix : ¬ "/_/".toList <+: path.toList := by
          rintro ⟨relative, h⟩
          rw [Text.afterBeginning?_eq_some_iff.mpr h.symm] at hbelow
          exact absurd hbelow (by simp)
        cases KeyPath.parse? path with
        | none => simp
        | some keyPath' =>
            simp only [Route.keys.injEq, Option.some.injEq]
            constructor
            · intro h
              exact ⟨⟨hindex.1, hindex.2.1, hindex.2.2, hrobots, hicon⟩, hprefix, h⟩
            · rintro ⟨-, -, h⟩
              exact h

/-! ## Answering -/

section

variable {m : Type → Type} [Monad m] {d : Directory} {scheme : Password.Scheme} {request : Request}

/-- Answering is answering with the directory's own resolution. -/
lemma answer_eq_answerWith [LawfulMonad m] (d : Directory) (scheme : Password.Scheme)
    (now : m Moment) (today : m Timestamp) (exchange : Remote.Request → m Remote.Outcome)
    (request : Request) :
    answer d scheme now today exchange request = (do
      let files := (← get).files
      answerWith d scheme files (d.resolve now exchange) (StateT.lift today) request) := by
  unfold answer answerWith
  split_ifs
  · ext state
    simp
  · apply bind_congr
    intro state
    cases Route.ofPath request.path <;> rfl

/-- A listing is answered with its body, its content type and the name of its file, if any. -/
lemma listingResponse_eq (r : Rendered) : listingResponse r =
    ⟨200, ("content-type", r.contentType) ::
      (r.contentDisposition.map fun value => ("content-disposition", value)).toList, r.body⟩ := by
  unfold listingResponse
  cases r.contentDisposition <;> rfl

/-- A request for keys needs one lookup, of the identity that its path names, and is answered with
what comes of it. -/
lemma answerWith_of_asksFor {registrations : List (String × Format)} {path : KeyPath}
    {format : Format} (hformats : d.formats = .ofRegistrations registrations)
    (h : AsksFor registrations request path format) (files : Files.Node)
    (look : String → m Answer) (today : m Timestamp) :
    answerWith d scheme files look today request = (do
      match ← look path.identity with
      | .error failure => return failureResponse failure
      | .ok record =>
        let client := Client.ofUserAgent (request.header? "user-agent")
        return listingResponse (format.render ⟨path.identity, record, client, ← today⟩)) := by
  have hroute := Route.ofPath_eq_keys_iff.mpr ⟨h.notReserved, h.notBelow, h.parsed⟩
  have hformat := FormatTable.get?_ofRegistrations_iff.mpr h.registered
  rw [← hformats] at hformat
  unfold answerWith keysResponseWith
  rw [if_neg (by simp [h.method]), hroute]
  dsimp only
  split
  case h_1 hnone => exact absurd (hformat.symm.trans hnone) (by simp)
  case h_2 found hsome =>
    obtain rfl := Option.some.inj (hformat.symm.trans hsome)
    rfl

/-- What is written down of that lookup is the identity, whatever comes of it. -/
lemma answerTelling_of_asksFor [LawfulMonad m] {registrations : List (String × Format)}
    {path : KeyPath} {format : Format} (hformats : d.formats = .ofRegistrations registrations)
    (h : AsksFor registrations request path format) (files : Files.Node)
    (look : String → m Answer) (today : m Timestamp) :
    answerTelling d scheme files look today request = (do
      match ← look path.identity with
      | .error failure => return (failureResponse failure, [path.identity])
      | .ok record =>
        let client := Client.ofUserAgent (request.header? "user-agent")
        return (listingResponse (format.render ⟨path.identity, record, client, ← today⟩),
          [path.identity])) := by
  rw [answerTelling, answerWith_of_asksFor hformats h, StateT.run_bind]
  simp only [recordingLookups, StateT.run_bind, StateT.run_modify, pure_bind, StateT.run_lift,
    bind_assoc]
  apply bind_congr
  intro answer
  cases answer with
  | error failure => rfl
  | ok record =>
      simp only [StateT.run_bind, StateT.run_lift, bind_assoc, pure_bind, StateT.run_pure]
      rfl

/-- Any other request is answered without a lookup. -/
lemma answerWith_of_not_asksFor {registrations : List (String × Format)}
    (hformats : d.formats = .ofRegistrations registrations)
    (h : ∀ path format, ¬ AsksFor registrations request path format) (files : Files.Node) :
    ∃ response, ∀ (n : Type → Type) [Monad n] (look : String → n Answer) (today : n Timestamp),
      answerWith d scheme files look today request = pure response := by
  unfold answerWith
  by_cases hmethod : request.method ≠ "GET"
  · refine ⟨methodNotAllowed, fun n _ look today => ?_⟩
    rw [if_pos hmethod]
  simp only [if_neg hmethod]
  cases hroute : Route.ofPath request.path with
  | keys path =>
      obtain ⟨hreserved, hbelow, hparsed⟩ := Route.ofPath_eq_keys_iff.mp hroute
      have hformat : d.formats.get? path.extension = none := by
        rw [Option.eq_none_iff_forall_ne_some]
        intro format hformat
        rw [hformats, FormatTable.get?_ofRegistrations_iff] at hformat
        exact h path format ⟨not_not.mp hmethod, hreserved, hbelow, hparsed, hformat⟩
      refine ⟨.notFound, fun n _ look today => ?_⟩
      simp only [keysResponseWith, hformat]
  | _ => exact ⟨_, fun n _ look today => rfl⟩

end

/-! ## Failures without details -/

/-- Hidden failures are all answered alike. -/
lemma failureResponse_of_isHidden {failure failure' : Failure} (h : failure.IsHidden)
    (h' : failure'.IsHidden) : failureResponse failure = failureResponse failure' := by
  obtain ⟨detail, h⟩ := h
  obtain ⟨detail', h'⟩ := h'
  rcases h with rfl | rfl | rfl | rfl | rfl | rfl <;>
    rcases h' with rfl | rfl | rfl | rfl | rfl | rfl <;> rfl

/-- No request tells two failures without details apart. -/
lemma answerWith_failingWith {m : Type → Type} [Monad m] [LawfulMonad m] {d : Directory}
    {registrations : List (String × Format)} (hformats : d.formats = .ofRegistrations registrations)
    {failure failure' : Failure} (h : failure.IsHidden) (h' : failure'.IsHidden)
    (scheme : Password.Scheme) (files : Files.Node) (before : String → m Unit)
    (today : m Timestamp) (request : Request) :
    answerWith d scheme files (failingWith before failure) today request =
      answerWith d scheme files (failingWith before failure') today request := by
  by_cases hasks : ∃ path format, AsksFor registrations request path format
  · obtain ⟨path, format, hasks⟩ := hasks
    rw [answerWith_of_asksFor hformats hasks, answerWith_of_asksFor hformats hasks]
    simp only [failingWith, bind_assoc, pure_bind, failureResponse_of_isHidden h h']
  · simp only [not_exists] at hasks
    obtain ⟨response, hresponse⟩ := answerWith_of_not_asksFor hformats hasks files
    rw [hresponse, hresponse]

/-- **Dispatch.**  Whatever formats were registered, and however identities are looked up: a request
for the keys of an identity in a format that is registered looks that identity up, once, and is
answered with the file in that format, or with the status of the failure.  Any other request has a
response that no lookup has a part in.  A method other than `GET` is refused before anything is
read.  No two failures of which clients are told nothing can be told apart by a response. -/
theorem answer_dispatches {m : Type → Type} [Monad m] [LawfulMonad m] {d : Directory}
    {registrations : List (String × Format)} (hformats : d.formats = .ofRegistrations registrations)
    (scheme : Password.Scheme) (request : Request) (files : Files.Node) (today : m Timestamp) :
    -- What the directory does is what is said below, with its own way to look an identity up.
    (∀ now exchange, answer d scheme now today exchange request = (do
      let files := (← get).files
      answerWith d scheme files (d.resolve now exchange) (StateT.lift today) request)) ∧
    -- The requests that look an identity up.
    (∀ path format, AsksFor registrations request path format → ∀ look : String → m Answer,
      answerTelling d scheme files look today request = (do
        match ← look path.identity with
        | .error failure =>
          return (.ofText failure.status failure.clientText, [path.identity])
        | .ok record =>
          let client := Client.ofUserAgent (request.header? "user-agent")
          let rendered := format.render ⟨path.identity, record, client, ← today⟩
          return (⟨200, ("content-type", rendered.contentType) ::
              (rendered.contentDisposition.map fun value => ("content-disposition", value)).toList,
            rendered.body⟩, [path.identity]))) ∧
    -- The requests that look nobody up.
    ((∀ path format, ¬ AsksFor registrations request path format) →
      ∃ response, ∀ look : String → m Answer,
        answerWith d scheme files look today request = pure response ∧
          answerTelling d scheme files look today request = pure (response, [])) ∧
    -- Other methods.
    (request.method ≠ "GET" → ∃ response : Response, response.status = 405 ∧
      response.headers.lookup "allow" = some "GET" ∧
        ∀ now exchange, answer d scheme now today exchange request = pure response) ∧
    -- Failures that are not told.
    ∀ failure failure' : Failure, failure.IsHidden → failure'.IsHidden →
      ∀ before : String → m Unit,
        answerWith d scheme files (failingWith before failure) today request =
          answerWith d scheme files (failingWith before failure') today request := by
  refine ⟨?_, ?_, ?_, ?_, ?_⟩
  · intro now exchange
    exact answer_eq_answerWith d scheme now today exchange request
  · intro path format h look
    rw [answerTelling_of_asksFor hformats h]
    apply bind_congr
    rintro (failure | record)
    · rfl
    · simp only [listingResponse_eq]
  · intro h
    obtain ⟨response, hresponse⟩ := answerWith_of_not_asksFor hformats h files
    refine ⟨response, fun look => ⟨hresponse m look today, ?_⟩⟩
    rw [answerTelling, hresponse]
    rfl
  · intro hmethod
    refine ⟨methodNotAllowed, rfl, rfl, fun now exchange => ?_⟩
    rw [answer, if_pos hmethod]
  · intro failure failure' h h' before
    exact answerWith_failingWith hformats h h' scheme files before today request

/-- The path to a script with capital letters and a slash at its end, and an identity that is not
available. -/
theorem answer_dispatches_script :
    let request : Request := ⟨"GET", "/Alice.SH/", []⟩
    let look : String → StateM Nat Answer := fun name => return .error (.unavailable name)
    ∃ d : Directory, d.formats = .ofRegistrations (standardRegistrations []) ∧
      answerTelling d Password.argon2 (.folder []) look (return .ofSeconds 0) request =
        return (.ofText 451 "Unavailable for legal reasons", ["Alice"]) := by
  intro request look
  have hsetUp : ((Directory.ofSettings Password.argon2 [] (.folder []) .standard).toOption.any
      fun d => d.formats = .standard []) = true := by
    decide +kernel
  have hregistered : Registered (standardRegistrations []) "SH" .script :=
    ⟨[("", .byClient []), ("authorized_keys", .keyFile)], [("html", .page [])], "sh", rfl,
      by decide +kernel, by decide +kernel⟩
  have hasks : AsksFor (standardRegistrations []) request ⟨"Alice", "SH"⟩ .script :=
    ⟨rfl, by decide +kernel, by decide +kernel, by decide +kernel, hregistered⟩
  rcases h : Directory.ofSettings Password.argon2 [] (.folder []) .standard with failure | d
  · rw [h] at hsetUp
    cases hsetUp
  · rw [h] at hsetUp
    have hformats := of_decide_eq_true hsetUp
    rw [FormatTable.standard_eq] at hformats
    have hlaw := answer_dispatches (m := StateM Nat) hformats Password.argon2 request (.folder [])
      (return .ofSeconds 0)
    exact ⟨d, hformats, hlaw.2.1 _ _ hasks look⟩

end Server

end KeyDirectory
