import KeyDirectory.Proofs.Request.KeyPath
import KeyDirectory.Proofs.Server.Dispatch
import KeyDirectory.Proofs.Server.LegalBlock
import KeyDirectory.Proofs.Upload.Identity

/-!
# Uploaded keys can be asked for

An identity that was generated makes a path that leads to it and nowhere else, because of what the
settings allow it to begin with and what is drawn for the rest.  Its keys are found before any other
source is asked.

* `ofPath_text`: where the path of a generated identity leads.
* `FormatTable.get?_of_spelling`: the format of an extension in any letter case.
* `resolve_of_upload`, `resolveTelling_of_upload`: who is asked for uploaded keys.
-/

namespace KeyDirectory

/-! ## The path -/

/-- Settings without a fault give a beginning that identities can have. -/
lemma Settings.beginning_of_fault {s : Settings} (h : s.fault = none) :
    ∀ c ∈ s.uploadBeginning.toList, KeyPath.isIdentityChar c = true := by
  unfold fault at h
  split at h
  · cases h
  · split_ifs at h with htimeout hbeginning
    have hall : s.uploadBeginning.toList.all isBeginningChar = true := by
      simp only [Bool.or_eq_true, not_or] at hbeginning
      simpa using hbeginning.2
    exact List.all_eq_true.mp hall

namespace Upload

variable {beginning identity : String}

/-- A minted identity is not empty and consists of identity characters. -/
lemma Minted.identityChars (h : Minted beginning identity)
    (hbeginning : ∀ c ∈ beginning.toList, KeyPath.isIdentityChar c = true) :
    identity.toList ≠ [] ∧ ∀ c ∈ identity.toList, KeyPath.isIdentityChar c = true := by
  obtain ⟨tail, hidentity, hne, htail⟩ := h
  rw [hidentity]
  refine ⟨List.append_ne_nil_of_right_ne_nil _ hne, fun c hc => ?_⟩
  rcases List.mem_append.mp hc with hc | hc
  · exact hbeginning c hc
  have halphanum : c.isAlphanum = true := by
    rcases htail with ⟨-, hall⟩ | hall
    · exact hall c hc
    · simp [Char.isAlphanum, hall c hc]
  simp [KeyPath.isIdentityChar, halphanum]

/-- The identities that the reserved paths would name. -/
def reservedNames : List String := ["index", "robots", "favicon"]

/-- A generated identity is longer than those names, or ends in a digit. -/
lemma Minted.not_mem_reservedNames (h : Minted beginning identity) :
    identity ∉ reservedNames := by
  intro hmem
  have hshape : identity.toList.length < identityLength ∧
      ∀ c, identity.toList.getLast? = some c → c.isDigit = false := by
    have hshapes : ∀ name ∈ reservedNames, name.toList.length < identityLength ∧
        name.toList.getLast?.all (!·.isDigit) = true := by decide
    obtain ⟨hlength, hlast⟩ := hshapes identity hmem
    refine ⟨hlength, fun c hc => ?_⟩
    simpa [hc] using hlast
  obtain ⟨tail, hidentity, hne, htail⟩ := h
  rw [hidentity, List.getLast?_append_of_ne_nil _ hne, List.length_append] at hshape
  obtain ⟨hlength, hlast⟩ := hshape
  rcases htail with ⟨htail, -⟩ | hdigits
  · omega
  · have hlastDigit := hdigits (tail.getLast hne) (List.getLast_mem hne)
    rw [hlast _ (List.getLast?_eq_some_getLast hne)] at hlastDigit
    cases hlastDigit

end Upload

namespace Server

/-- The reserved paths would name identities that are no generated ones. -/
lemma identity_of_reserved {path : String} (h : path ∈ reservedPaths) {p : KeyPath}
    (hp : KeyPath.parse? path = some p) : p.identity ∈ Upload.reservedNames := by
  have hnames : ∀ path ∈ reservedPaths,
      (KeyPath.parse? path).all (·.identity ∈ Upload.reservedNames) = true := by decide +kernel
  have hname := hnames path h
  rw [hp] at hname
  exact of_decide_eq_true hname

/-- A path written out is not below the folder that is reserved. -/
lemma not_below {p : KeyPath} (h : p.IsProper) (slash : Bool) :
    ¬ "/_/".toList <+: (p.text slash).toList := by
  obtain ⟨c, rest, hidentity⟩ := List.exists_cons_of_ne_nil h.identity_ne
  have hc : KeyPath.isIdentityChar c = true :=
    h.identity c (hidentity ▸ List.mem_cons_self)
  have hbelow : "/_/".toList = ['/', '_', '/'] := rfl
  rw [KeyPath.toList_text, KeyPath.between, hidentity, hbelow]
  intro hprefix
  have hsecond : '_' = c := (List.cons_prefix_cons.mp (List.cons_prefix_cons.mp hprefix).2).1
  exact (KeyPath.isIdentityChar_ne hc).2.2.2.2 hsecond.symm

/-- The path of a generated identity leads to its keys. -/
lemma ofPath_text {p : KeyPath} (hproper : p.IsProper) {beginning : String}
    (hminted : Upload.Minted beginning p.identity) (slash : Bool) :
    Route.ofPath (p.text slash) = .keys p := by
  have hparsed := hproper.parse?_text slash
  refine Route.ofPath_eq_keys_iff.mpr ⟨fun hreserved => ?_, not_below hproper slash, hparsed⟩
  exact hminted.not_mem_reservedNames (identity_of_reserved hreserved hparsed)

end Server

/-! ## The format -/

/-- The names of the formats are written small, and differ. -/
lemma isSpelling_of_registration {suffix : List UInt8} {name : String} {format : Format}
    (h : (name, format) ∈ standardRegistrations suffix) :
    IsSpelling name name ∧ ∀ c ∈ name.toList, KeyPath.isExtensionChar c = true := by
  have hnames : ∀ name ∈ ["", "authorized_keys", "sh", "html"],
      IsSpelling name name ∧ name.toList.all KeyPath.isExtensionChar = true := by
    decide
  obtain ⟨hname, hchars⟩ := hnames name (List.mem_map_of_mem (f := Prod.fst) h)
  exact ⟨hname, List.all_eq_true.mp hchars⟩

/-- The standard formats have different names. -/
lemma nodup_registrations (suffix : List UInt8) :
    ((standardRegistrations suffix).map fun r => Text.lowerCase r.1).Nodup := by
  have hnames : (["", "authorized_keys", "sh", "html"].map Text.lowerCase).Nodup := by
    decide +kernel
  exact hnames

/-- The format of an extension is found in any letter case. -/
lemma FormatTable.get?_of_spelling {suffix : List UInt8} {name extension : String}
    {format : Format} (h : (name, format) ∈ standardRegistrations suffix)
    (hspelling : IsSpelling name extension) :
    (standard suffix).get? extension = some format := by
  obtain ⟨hname, hchars⟩ := isSpelling_of_registration h
  have hlower : Text.lowerCase name = Text.lowerCase extension :=
    (hname.lowerCase_eq hchars).trans (hspelling.lowerCase_eq hchars).symm
  obtain ⟨before, after, hsplit⟩ := List.append_of_mem h
  have hdistinct := nodup_registrations suffix
  rw [hsplit, List.map_append, List.map_cons, List.nodup_middle, List.nodup_cons,
    List.mem_append, not_or] at hdistinct
  rw [standard_eq, get?_ofRegistrations_iff]
  refine ⟨before, after, name, hsplit, hlower, fun other hother heq => hdistinct.1.2 ?_⟩
  rw [hlower, ← heq]
  exact List.mem_map_of_mem (f := fun r : String × Format => Text.lowerCase r.1) hother

/-! ## The sources -/

namespace Directory

/-- With uploads enabled there is a point to upload at. -/
lemma isSome_of_uploadPoint {scheme : Password.Scheme} {salt suffix : List UInt8} {s : Settings}
    {point : Option UploadPoint} (huploads : s.uploadsEnabled = true)
    (h : uploadPoint scheme salt suffix s = .ok point) : point.isSome = true := by
  unfold uploadPoint at h
  rw [if_pos huploads] at h
  split at h
  · cases h
    rfl
  · next credentials _ =>
    rcases haccess : Upload.Access.ofCredentials scheme salt credentials with failure | access <;>
      rw [haccess] at h <;> cases h
    rfl

variable {ω : Type} {d : Directory} {identity : String} {state : DirectoryState}
  {record : KeyRecord}

/-- Where keys can be uploaded, the uploads are asked first. -/
lemma exists_sources_eq (h : d.uploads.isSome = true) : ∃ rest, d.sources = .uploads :: rest := by
  unfold sources
  rw [if_pos h]
  exact ⟨_, rfl⟩

/-- A search of an identity that is not barred begins with the uploads, whoever asks. -/
lemma exists_resolve_eq {m : Type → Type} [Monad m] (huploads : d.uploads.isSome = true)
    (hopen : d.blocklist.bars identity = false) (ask : Source → String → m Answer) :
    ∃ others : Answer → m Answer, d.chain.resolve ask identity = (do
      let answer ← ask .uploads identity
      if Chain.fallsThrough answer then others answer else pure answer) := by
  obtain ⟨rest, hsources⟩ := exists_sources_eq huploads
  unfold chain
  rw [Chain.resolve, if_neg (Bool.eq_false_iff.mp hopen), hsources, List.map_cons, Chain.resolve,
    Chain.resolveFirst, Chain.resolve]
  exact ⟨_, rfl⟩

/-- An identity on the roster is resolved from there. -/
lemma resolve_of_upload (huploads : d.uploads.isSome = true)
    (hopen : d.blocklist.bars identity = false) (hget : state.roster.get identity = .ok record)
    (outside : Server.Outside ω) (world : ω) :
    ((d.resolve outside.now outside.exchange identity).run state).run world =
      ((.ok record, state), world) := by
  obtain ⟨others, hresolve⟩ :=
    exists_resolve_eq huploads hopen (d.ask outside.now outside.exchange)
  rw [resolve, hresolve]
  show (((if Chain.fallsThrough (state.roster.get identity) then others _ else pure _ :
    StateT DirectoryState (StateM ω) Answer)).run state).run world = _
  rw [hget]
  rfl

/-- An identity on the roster is asked of the roster alone. -/
lemma resolveTelling_of_upload (huploads : d.uploads.isSome = true)
    (hopen : d.blocklist.bars identity = false) (hget : state.roster.get identity = .ok record)
    (outside : Server.Outside ω) (world : ω) :
    d.resolveTelling outside identity state world =
      (((.ok record, [(.uploads, identity)]), state), world) := by
  obtain ⟨others, hresolve⟩ :=
    exists_resolve_eq huploads hopen (Chain.recording (d.ask outside.now outside.exchange))
  rw [resolveTelling, hresolve]
  show ((((if Chain.fallsThrough (state.roster.get identity) then others _ else pure _ :
    StateT (List (Source × String)) (StateT DirectoryState (StateM ω)) Answer)).run
      [(.uploads, identity)]).run state).run world = _
  rw [hget]
  rfl

end Directory

/-! ## The answer -/

namespace Server

variable {ω : Type} {d : Directory} {scheme : Password.Scheme} {request : Request}

/-- A request for the keys of an upload is answered with them. -/
lemma serve_of_upload {path : KeyPath} {format : Format} {state : DirectoryState}
    {record : KeyRecord} (hget : request.method = "GET")
    (hpath : Route.ofPath request.path = .keys path)
    (hformat : d.formats.get? path.extension = some format) (huploads : d.uploads.isSome = true)
    (hopen : d.blocklist.bars path.identity = false)
    (hrecord : state.roster.get path.identity = .ok record) (outside : Outside ω) (world : ω) :
    serve d scheme outside request state world =
      let rendered := format.render ⟨path.identity, record,
        Client.ofUserAgent (request.header? "user-agent"), (outside.today.run world).1⟩
      ((⟨200, ("content-type", rendered.contentType) ::
          (rendered.contentDisposition.map fun value => ("content-disposition", value)).toList,
        rendered.body⟩, state), (outside.today.run world).2) := by
  have hresolve := Directory.resolve_of_upload huploads hopen hrecord outside world
  simp only [← listingResponse_eq]
  rw [serve_keys hget hpath hformat, StateT.run_bind, StateT.run_bind]
  dsimp only [bind]
  rw [hresolve]
  rfl

/-- A request for keys looks one identity up, and responds to what comes of it. -/
lemma exists_respond {m : Type → Type} [Monad m] [LawfulMonad m]
    {registrations : List (String × Format)} {path : KeyPath} {format : Format}
    (hformats : d.formats = .ofRegistrations registrations)
    (h : AsksFor registrations request path format) (files : Files.Node)
    (look : String → m Answer) (today : m Timestamp) :
    ∃ respond : Answer → m Response, answerTelling d scheme files look today request = (do
      let answer ← look path.identity
      let response ← respond answer
      return (response, [path.identity])) := by
  refine ⟨fun answer => answerWith d scheme files (fun _ => pure answer) today request, ?_⟩
  rw [answerTelling_of_asksFor hformats h]
  refine bind_congr fun answer => ?_
  dsimp only
  rw [answerWith_of_asksFor hformats h]
  cases answer with
  | error failure => simp
  | ok record => simp

/-- **Uploaded keys are reachable under their generated identities.**  In every directory that
settings without a fault set up and in which keys can be uploaded, and after any registering,
revoking and dropping: the path that an identity given out makes, alone or with the extension of a
format in any letter case, with or without a slash at its end, leads to no reserved place, and a
`GET` of it, with a query or without, looks up that identity and no other.  As long as the lease is
live, and unless the settings refuse the identity, the response has status 200 and lists the keys
that were registered, as uploaded, whatever the files, the cache, the clock and the remote directory
hold; nobody but the uploads is asked, and nothing changes. -/
theorem serve_uploads {salt : List UInt8} {files : Files.Node} {s : Settings}
    (hvalid : s.fault = none) (huploads : s.uploadsEnabled = true)
    (hsetUp : Directory.ofSettings scheme salt files s = .ok d)
    (ops : List Upload.Tenancy.Operation) :
    let t := (Upload.Tenancy.opened s.uploadBeginning).run ops
    ∃ suffix, Directory.readSuffix files s.suffixFile = .ok suffix ∧
      ∀ (i : Nat) (lease : Upload.Lease), t.leases[i]? = some (some lease) →
      ∀ name format extension, (name, format) ∈ standardRegistrations suffix →
        IsSpelling name extension →
      ∀ slash query, IsQuery query → ∀ request : Request, request.method = "GET" →
        request.target = KeyPath.text ⟨lease.identity, extension⟩ slash ++ query →
      -- The path leads to the keys of that identity, which alone is looked up.
      AsksFor (standardRegistrations suffix) request ⟨lease.identity, extension⟩ format ∧
      Route.ofPath request.path = .keys ⟨lease.identity, extension⟩ ∧
      (∀ (m : Type → Type) [Monad m] [LawfulMonad m] (today : m Timestamp),
        (∀ now exchange, answer d scheme now today exchange request = (do
          let files := (← get).files
          answerWith d scheme files (d.resolve now exchange) (StateT.lift today) request)) ∧
        ∀ (look : String → m Answer) (files : Files.Node), ∃ respond : Answer → m Response,
          answerTelling d scheme files look today request = (do
            let answer ← look lease.identity
            let response ← respond answer
            return (response, [lease.identity]))) ∧
      -- As long as the lease is live, the registered keys are listed.
      ∀ keys, (Upload.Tenancy.ledger ops)[i]? = some (some keys) → ¬ s.Refuses lease.identity →
        ∀ (outside : Outside ω) (state : DirectoryState) (world : ω), state.roster = t.roster →
          let rendered := format.render ⟨lease.identity, ⟨.upload, keys⟩,
            Client.ofUserAgent (request.header? "user-agent"), (outside.today.run world).1⟩
          serve d scheme outside request state world =
              ((⟨200, ("content-type", rendered.contentType) ::
                  (rendered.contentDisposition.map fun value =>
                    ("content-disposition", value)).toList,
                rendered.body⟩, state), (outside.today.run world).2) ∧
            d.resolveTelling outside lease.identity state world =
              (((.ok ⟨.upload, keys⟩, [(.uploads, lease.identity)]), state), world) := by
  intro t
  obtain ⟨suffix, point, remote, hsuffix, hpoint, -, rfl⟩ :=
    Directory.ofSettings_eq_ok_iff.mp hsetUp
  refine ⟨suffix, hsuffix, fun i lease hlease name format extension hformat hspelling slash query
    hquery request hget htarget => ?_⟩
  have hminted := (Upload.Tenancy.minted_run s.uploadBeginning ops).leases lease
    (List.mem_of_getElem? hlease)
  have hproper : KeyPath.IsProper ⟨lease.identity, extension⟩ := by
    obtain ⟨hne, hchars⟩ := hminted.identityChars (Settings.beginning_of_fault hvalid)
    exact ⟨hne, hchars, hspelling.isExtension (isSpelling_of_registration hformat).2⟩
  have hroute : Route.ofPath request.path = .keys ⟨lease.identity, extension⟩ := by
    rw [hproper.path_of_target hquery htarget]
    exact ofPath_text hproper hminted slash
  have hfound := FormatTable.get?_of_spelling hformat hspelling
  obtain ⟨hreserved, hbelow, hparsed⟩ := Route.ofPath_eq_keys_iff.mp hroute
  have hasks : AsksFor (standardRegistrations suffix) request ⟨lease.identity, extension⟩ format :=
    ⟨hget, hreserved, hbelow, hparsed, FormatTable.get?_ofRegistrations_iff.mp hfound⟩
  refine ⟨hasks, hroute, fun m _ _ today => ⟨fun now exchange => ?_, fun look files => ?_⟩,
    fun keys hkeys hopen outside state world hroster => ?_⟩
  · exact answer_eq_answerWith _ scheme now today exchange request
  · exact exists_respond (FormatTable.standard_eq suffix) hasks files look today
  have hsome := Directory.isSome_of_uploadPoint huploads hpoint
  have hbars : (Blocklist.ofNames s.blockedNames).bars lease.identity = false :=
    Bool.eq_false_iff.mpr fun h => hopen (Settings.bars_blockedNames_iff.mp h)
  have hrecord : state.roster.get lease.identity = .ok ⟨.upload, keys⟩ := by
    obtain ⟨lease', hlease', hrecord⟩ := (Upload.Tenancy.sound_run
      (Upload.Tenancy.sound_opened s.uploadBeginning) ops).agrees.leased i keys hkeys
    obtain rfl : lease' = lease := Option.some.inj (Option.some.inj (hlease'.symm.trans hlease))
    rw [hroster]
    exact hrecord
  exact ⟨serve_of_upload hget hroute hfound hsome hbars hrecord outside world,
    Directory.resolveTelling_of_upload hsome hbars hrecord outside world⟩

/-- The script of an upload, its extension in mixed case, with a slash at the end of the path: the
response with all its lines, of which the keys are those of the upload. -/
theorem serve_uploads_script :
    let s : Settings := { Settings.standard with allowUploads := true }
    let request : Request := ⟨"GET", "/uploaded-AAAAAAAAAA.Sh/", []⟩
    s.fault = none ∧ s.uploadsEnabled = true ∧
      ∃ d, Directory.ofSettings Password.argon2 [] (.folder []) s = .ok d ∧
        ∀ (keys : List PublicKey) (outside : Outside Nat) (state : DirectoryState) (asked : Nat),
          state.roster = ((Upload.Tenancy.opened s.uploadBeginning).run
            [.register ⟨0, 0⟩ [List.replicate 32 0] keys]).roster →
          (serve d Password.argon2 outside request state asked).1.1 =
            ⟨200, [("content-type", "text/x-shellscript"),
                ("content-disposition", "attachment; filename=\"authorized_keys.sh\"")],
              Text.Utf8.encodeText (String.join ((
                ["#!/bin/sh", "# authorized_keys.sh for uploaded-AAAAAAAAAA (ephemeral), generated "
                  ++ (outside.today.run asked).1.text] ++
                Listing.scriptOpening ++ keys.map PublicKey.canonical ++ ["AUTHORIZEDKEYS"] ++
                Listing.scriptClosing).map (· ++ "\n")))⟩ := by
  intro s request
  have hvalid : s.fault = none := by decide +kernel
  have hsetUp :
      (Directory.ofSettings Password.argon2 [] (.folder []) s).toOption.isSome = true := by
    decide +kernel
  refine ⟨hvalid, rfl, ?_⟩
  rcases h : Directory.ofSettings Password.argon2 [] (.folder []) s with failure | d
  · rw [h] at hsetUp
    cases hsetUp
  refine ⟨d, rfl, fun keys outside state asked hroster => ?_⟩
  obtain ⟨suffix, -, hserve⟩ := serve_uploads (ω := Nat) hvalid rfl h
    [.register ⟨0, 0⟩ [List.replicate 32 0] keys]
  have htarget : request.target = KeyPath.text ⟨"uploaded-AAAAAAAAAA", "Sh"⟩ true ++ "" := by
    decide +kernel
  have hrefused : ¬ s.Refuses "uploaded-AAAAAAAAAA" := by decide +kernel
  obtain ⟨-, -, -, hlive⟩ := hserve 0 ⟨"uploaded-AAAAAAAAAA", false⟩ rfl "sh" .script "Sh"
    (by simp [standardRegistrations]) (by decide) true "" (.inl rfl) request rfl htarget
  refine (congrArg (·.1.1) (hlive keys rfl hrefused outside state asked hroster).1).trans ?_
  have hheading : "# authorized_keys.sh for " ++ Listing.summary ⟨"uploaded-AAAAAAAAAA",
      ⟨.upload, keys⟩, Client.ofUserAgent none, (outside.today.run asked).1⟩ =
      "# authorized_keys.sh for uploaded-AAAAAAAAAA (ephemeral), generated " ++
        (outside.today.run asked).1.text := by
    simp only [Listing.summary, ← String.append_assoc]
    rfl
  rw [← hheading]
  rfl

end Server

end KeyDirectory
