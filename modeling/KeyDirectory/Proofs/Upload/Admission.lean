import KeyDirectory.Proofs.Text.Base64
import KeyDirectory.Proofs.Text.Line
import KeyDirectory.Proofs.Text.Utf8
import KeyDirectory.Server.Answer
import KeyDirectory.Upload.Admission

/-!
# Uploads admit who has the credentials, and nobody else

* `parse?_eq_some_iff`: the headers that carry a user and a password.
* `ofCredentials_eq_ok_iff`: the credentials that guard uploads, and what is kept of them.
* `check_eq_ok_iff`: the headers that are let through.
* `answer_upload`: what the upload point answers.
* `access_admits`: all of it together.
-/

namespace KeyDirectory

/-! ## Headers -/

/-- Credentials are the user name, a colon and the password. -/
lemma pair_toList (user password : String) :
    (user ++ ":" ++ password).toList = user.toList ++ ':' :: password.toList := by
  simp

/-- A header is read when it carries a user and a password, and as those. -/
lemma BasicCredentials.parse?_eq_some_iff {header : String} {given : BasicCredentials} :
    parse? header = some given ↔ CarriesBasic header given.user given.password := by
  simp only [parse?, parseChars?, Option.bind_eq_bind, Option.bind_eq_some_iff, Prod.exists,
    Option.ite_none_right_eq_some, Text.cutAtFirst_eq_some_iff, Text.Base64.decode?_eq_some_iff,
    Text.Utf8.decode?_eq_some_iff, ofPair?, Option.map_eq_some_iff]
  constructor
  · rintro ⟨word, encoded, ⟨htrim, -⟩, hword, bytes, hencoded, text, rfl, user, password,
      ⟨rfl, huser⟩, rfl⟩
    refine ⟨by simpa using huser, word, encoded, htrim, hword, ?_⟩
    rw [hencoded, Text.Utf8.encodeText_eq, pair_toList, String.toList_ofList, String.toList_ofList]
  · rintro ⟨huser, word, encoded, htrim, hword, hencoded⟩
    have hspace : ' ' ∉ word := by
      intro hmem
      have hlower := List.mem_map_of_mem (f := Char.toLower) hmem
      rw [hword] at hlower
      exact absurd hlower (by decide)
    refine ⟨word, encoded, ⟨htrim, hspace⟩, hword, _, hencoded, _, Text.Utf8.encodeText_eq _,
      given.user.toList, given.password.toList, ⟨pair_toList _ _, huser⟩, ?_⟩
    simp

/-! ## Credentials -/

/-- Credentials are cut at their first colon. -/
lemma isPair_iff {credentials user password : String} : IsPair credentials user password ↔
    Text.cutText ':' credentials = some (user, password) ∧ user ≠ "" := by
  simp only [IsPair, Text.cutText, Option.map_eq_some_iff, Prod.exists,
    Text.cutAtFirst_eq_some_iff, Prod.mk.injEq]
  constructor
  · rintro ⟨rfl, hne, huser⟩
    exact ⟨⟨user.toList, password.toList, ⟨pair_toList _ _, huser⟩, String.ofList_toList,
      String.ofList_toList⟩, hne⟩
  · rintro ⟨⟨before, after, ⟨hcut, hbefore⟩, rfl, rfl⟩, hne⟩
    refine ⟨String.toList_inj.mp ?_, hne, by simpa using hbefore⟩
    rw [hcut, pair_toList, String.toList_ofList, String.toList_ofList]

/-- The first colon splits the credentials, so there is one way to read them. -/
lemma isPair_unique {credentials user user' password password' : String}
    (h : IsPair credentials user password) (h' : IsPair credentials user' password') :
    user = user' ∧ password = password' := by
  rw [isPair_iff] at h h'
  exact Prod.mk.inj (Option.some.inj (h.1.symm.trans h'.1))

/-- The settings are at fault over their credentials unless those are a user and a password. -/
lemma Settings.credentialsFault_eq_none_iff {s : Settings} {credentials : String}
    (h : s.uploadCredentials = some credentials) :
    s.credentialsFault = none ↔ ∃ user password, IsPair credentials user password := by
  simp only [credentialsFault, h, isPair_iff]
  cases Text.cutText ':' credentials with
  | none => simp
  | some parts =>
      obtain ⟨user, password⟩ := parts
      by_cases hempty : user = "" <;> simp [hempty]

/-- Faults over the credentials are told before all others, and in words of their own. -/
lemma Settings.fault_ne_iff {s : Settings} :
    (s.fault ≠ some "UPLOAD_AUTH must be of the form user:password" ∧
      s.fault ≠ some "UPLOAD_AUTH username must not be empty") ↔ s.credentialsFault = none := by
  unfold fault
  cases hfault : s.credentialsFault with
  | none =>
      simp only [iff_true]
      split_ifs <;> simp
  | some fault =>
      have hwords : fault = "UPLOAD_AUTH must be of the form user:password" ∨
          fault = "UPLOAD_AUTH username must not be empty" := by
        unfold credentialsFault at hfault
        split at hfault
        · cases hfault
        · split at hfault
          · exact .inl (Option.some.inj hfault).symm
          · split_ifs at hfault
            exact .inr (Option.some.inj hfault).symm
      rcases hwords with rfl | rfl <;> simp

namespace Upload.Access

variable {scheme : Password.Scheme} {salt : List UInt8} {access : Access}

/-- The credentials that guard uploads, and what is kept of them. -/
lemma ofCredentials_eq_ok_iff (hlaw : scheme.IsLawful salt) {credentials : String} :
    ofCredentials scheme salt credentials = .ok access ↔
      ∃ password, IsPair credentials access.username password ∧
        ((Password.IsEncodedHash password ∧ access.kept = password) ∨
          (¬ Password.IsEncodedHash password ∧ scheme.hash salt password = .ok access.kept)) := by
  obtain ⟨username, kept⟩ := access
  simp only [ofCredentials, isPair_iff, ← hlaw.recognises]
  cases Text.cutText ':' credentials with
  | none => simp
  | some parts =>
      obtain ⟨user, password⟩ := parts
      constructor
      · intro h
        simp only [String.isEmpty_iff] at h
        split_ifs at h with hempty hkept
        · cases h
          exact ⟨_, ⟨rfl, hempty⟩, .inl ⟨hkept, rfl⟩⟩
        · split at h
          case h_1 hash hhash =>
            cases h
            exact ⟨password, ⟨rfl, hempty⟩, .inr ⟨hkept, hhash⟩⟩
          case h_2 => cases h
      · rintro ⟨password', ⟨hparts, hne⟩, h⟩
        obtain ⟨rfl, rfl⟩ := Prod.mk.inj (Option.some.inj hparts)
        simp only [String.isEmpty_iff, if_neg hne]
        rcases h with ⟨hkept, rfl⟩ | ⟨hkept, hhash⟩
        · rw [if_pos hkept]
        · rw [if_neg hkept, hhash]

/-- Some access comes of credentials that are a user and a password. -/
lemma exists_ofCredentials_iff (hlaw : scheme.IsLawful salt) {credentials : String} :
    (∃ access, ofCredentials scheme salt credentials = .ok access) ↔
      ∃ user password, IsPair credentials user password := by
  constructor
  · rintro ⟨access, h⟩
    obtain ⟨password, hpair, -⟩ := (ofCredentials_eq_ok_iff hlaw).mp h
    exact ⟨access.username, password, hpair⟩
  · rintro ⟨user, password, hpair⟩
    by_cases hkept : Password.IsEncodedHash password
    · exact ⟨⟨user, password⟩,
        (ofCredentials_eq_ok_iff hlaw).mpr ⟨password, hpair, .inl ⟨hkept, rfl⟩⟩⟩
    · obtain ⟨kept, hhash⟩ := hlaw.hashes password
      exact ⟨⟨user, kept⟩,
        (ofCredentials_eq_ok_iff hlaw).mpr ⟨password, hpair, .inr ⟨hkept, hhash⟩⟩⟩

/-- A password is accepted iff the scheme verifies it against the kept text. -/
lemma accepts_iff {given : String} :
    access.accepts scheme given = true ↔ scheme.verify given access.kept = .ok true := by
  unfold accepts
  split <;> simp_all

/-- The headers that are let through. -/
lemma check_eq_ok_iff {authorization : Option String} :
    access.check scheme authorization = .ok () ↔ ∃ header given, authorization = some header ∧
      CarriesBasic header access.username given ∧
        scheme.verify given access.kept = .ok true := by
  have hread : access.check scheme authorization = .ok () ↔
      ∃ given, authorization.bind BasicCredentials.parse? = some given ∧
        access.accepts scheme given.password = true ∧ given.user = access.username := by
    unfold check
    cases authorization.bind BasicCredentials.parse? <;> simp
  simp only [hread, Option.bind_eq_some_iff, BasicCredentials.parse?_eq_some_iff, accepts_iff]
  constructor
  · rintro ⟨given, ⟨header, rfl, hcarries⟩, hverify, huser⟩
    exact ⟨header, given.password, rfl, huser ▸ hcarries, hverify⟩
  · rintro ⟨header, given, rfl, hcarries, hverify⟩
    exact ⟨⟨access.username, given⟩, ⟨header, rfl, hcarries⟩, hverify, rfl⟩

/-- A header that is not let through is refused for its credentials. -/
lemma check_eq_unauthorized {authorization : Option String}
    (h : access.check scheme authorization ≠ .ok ()) :
    ∃ detail, access.check scheme authorization = .error (.unauthorized detail) := by
  unfold check at h ⊢
  split
  case h_1 => exact ⟨_, rfl⟩
  case h_2 given hgiven =>
    simp only [hgiven] at h
    rw [if_neg fun hfits => h (if_pos hfits)]
    exact ⟨_, rfl⟩

end Upload.Access

/-- An access that comes of a user and a password lets through whoever has these. -/
lemma Upload.check_iff_opens {scheme : Password.Scheme} {salt : List UInt8}
    (hlaw : scheme.IsLawful salt) {credentials user password : String} {access : Upload.Access}
    (h : Upload.Access.ofCredentials scheme salt credentials = .ok access)
    (hpair : IsPair credentials user password) (authorization : Option String) :
    access.check scheme authorization = .ok () ↔ Opens scheme user password authorization := by
  obtain ⟨password', hpair', hkept⟩ := (Access.ofCredentials_eq_ok_iff hlaw).mp h
  obtain ⟨rfl, rfl⟩ := isPair_unique hpair' hpair
  have hfits : ∀ given, scheme.verify given access.kept = .ok true ↔
      scheme.Fits password' given := by
    intro given
    rcases hkept with ⟨hencoded, hkept⟩ | ⟨hencoded, hhash⟩
    · rw [hkept]
      constructor
      · intro hverify
        exact .inl ⟨hencoded, hverify⟩
      · rintro (⟨-, hverify⟩ | ⟨hplain, -⟩)
        · exact hverify
        · exact absurd hencoded hplain
    · rw [hlaw.verifies hhash]
      constructor
      · intro heq
        exact .inr ⟨hencoded, heq⟩
      · rintro (⟨hencoded', -⟩ | ⟨-, heq⟩)
        · exact absurd hencoded' hencoded
        · exact heq
  rw [Access.check_eq_ok_iff]
  simp only [hfits, Opens]

/-! ## The upload point -/

namespace Server

/-- Upload point requests. -/
lemma Route.ofPath_upload {path : String} (h : path = "/_/upload" ∨ path = "/_/upload/") :
    Route.ofPath path = .upload := by
  rcases h with rfl | rfl <;> decide +kernel

/-- A handshake is answered with a switch of protocols. -/
lemma status_handshake {request : Request} {response : Response}
    (h : request.handshake? = some response) : response.status = 101 := by
  simp only [Request.handshake?, Option.bind_eq_bind, Option.bind_eq_some_iff,
    Option.ite_none_right_eq_some, Option.some.injEq] at h
  obtain ⟨key, -, -, rfl⟩ := h
  rfl

/-- Where nobody is refused, no response has the status of a refusal. -/
lemma status_uploadResponse_open (scheme : Password.Scheme) (suffix : List UInt8)
    (request : Request) : (uploadResponse scheme (some ⟨none, suffix⟩) request).status ≠ 401 := by
  simp only [uploadResponse, Bool.not_true, Bool.false_eq_true, if_false]
  split_ifs
  · exact (by decide : 200 ≠ 401)
  · split
    case h_1 response hresponse =>
      rw [status_handshake hresponse]
      decide
    case h_2 => exact (by decide : 400 ≠ 401)

/-- A refused request is asked for credentials; any other is answered as where nobody is refused. -/
lemma uploadResponse_guarded (scheme : Password.Scheme) (access : Upload.Access)
    (suffix : List UInt8) (request : Request) :
    (access.check scheme (request.header? "authorization") = .ok () →
      uploadResponse scheme (some ⟨some access, suffix⟩) request =
        uploadResponse scheme (some ⟨none, suffix⟩) request) ∧
    (access.check scheme (request.header? "authorization") ≠ .ok () →
      uploadResponse scheme (some ⟨some access, suffix⟩) request =
        ⟨401, [("content-type", "text/plain; charset=utf-8"),
          ("www-authenticate", Upload.Access.challenge)],
          Text.Utf8.encodeText "Unauthorized"⟩) := by
  constructor
  · intro h
    simp only [uploadResponse, h]
    rfl
  · intro h
    obtain ⟨detail, hrefused⟩ := Upload.Access.check_eq_unauthorized h
    simp only [uploadResponse, hrefused]
    rfl

variable {m : Type → Type} [Monad m] [LawfulMonad m]

/-- The upload point answers without a change and without asking anything outside. -/
lemma answer_upload {d : Directory} {request : Request} (hget : request.method = "GET")
    (hpath : request.path = "/_/upload" ∨ request.path = "/_/upload/") (scheme : Password.Scheme)
    (now : m Moment) (today : m Timestamp) (exchange : Remote.Request → m Remote.Outcome) :
    answer d scheme now today exchange request =
      pure (uploadResponse scheme d.uploads request) := by
  unfold answer
  rw [if_neg (by simp [hget])]
  ext state
  simp [Route.ofPath_upload hpath]

end Server

/-- **Uploads admit exactly who has the credentials.**  Credentials guard uploads when they are a
user and a password, and the settings are at fault over any others.  A header is let through when it
carries that user and a password that fits, and every other header, or none, is refused.  The upload
point answers a request that is let through as if it had no credentials, with which nobody is
refused, and any other request with a refusal that asks for credentials. -/
theorem access_admits {scheme : Password.Scheme} {salt : List UInt8}
    (hlaw : scheme.IsLawful salt) {m : Type → Type} [Monad m] [LawfulMonad m]
    (credentials : String) :
    ((∃ access, Upload.Access.ofCredentials scheme salt credentials = .ok access) ↔
      ∃ user password, IsPair credentials user password) ∧
    (∀ s : Settings, s.uploadCredentials = some credentials →
      ((∃ user password, IsPair credentials user password) ↔
        s.fault ≠ some "UPLOAD_AUTH must be of the form user:password" ∧
          s.fault ≠ some "UPLOAD_AUTH username must not be empty")) ∧
    (∀ (d : Directory) (suffix : List UInt8) (request : Server.Request) (now : m Moment)
      (today : m Timestamp) (exchange : Remote.Request → m Remote.Outcome),
      d.uploads = some ⟨none, suffix⟩ → request.method = "GET" →
        request.path = "/_/upload" ∨ request.path = "/_/upload/" →
          ∃ response, Server.answer d scheme now today exchange request = pure response ∧
            response.status ≠ 401) ∧
    ∀ access user password, Upload.Access.ofCredentials scheme salt credentials = .ok access →
      IsPair credentials user password →
        access.username = user ∧
        (∀ authorization,
          (Upload.Opens scheme user password authorization →
            access.check scheme authorization = .ok ()) ∧
          (¬ Upload.Opens scheme user password authorization →
            ∃ detail, access.check scheme authorization = .error (.unauthorized detail))) ∧
        ∀ (d : Directory) (suffix : List UInt8) (request : Server.Request) (now : m Moment)
          (today : m Timestamp) (exchange : Remote.Request → m Remote.Outcome),
          d.uploads = some ⟨some access, suffix⟩ → request.method = "GET" →
            request.path = "/_/upload" ∨ request.path = "/_/upload/" →
              ∃ response, Server.answer d scheme now today exchange request = pure response ∧
                (Upload.Opens scheme user password (request.header? "authorization") →
                  response.status ≠ 401 ∧
                    Server.answer { d with uploads := some ⟨none, suffix⟩ } scheme now today
                      exchange request = pure response) ∧
                (¬ Upload.Opens scheme user password (request.header? "authorization") →
                  response = ⟨401, [("content-type", "text/plain; charset=utf-8"),
                    ("www-authenticate", "Basic realm=\"keyway upload\"")],
                    Text.Utf8.encodeText "Unauthorized"⟩) := by
  refine ⟨Upload.Access.exists_ofCredentials_iff hlaw, ?_, ?_,
    fun access user password hok hpair => ⟨?_, ?_, ?_⟩⟩
  · intro s hs
    rw [Settings.fault_ne_iff, Settings.credentialsFault_eq_none_iff hs]
  · intro d suffix request now today exchange huploads hget hpath
    refine ⟨_, Server.answer_upload hget hpath scheme now today exchange, ?_⟩
    rw [huploads]
    exact Server.status_uploadResponse_open scheme suffix request
  · obtain ⟨password', hpair', -⟩ := (Upload.Access.ofCredentials_eq_ok_iff hlaw).mp hok
    exact (isPair_unique hpair' hpair).1
  · intro authorization
    rw [← Upload.check_iff_opens hlaw hok hpair]
    exact ⟨id, Upload.Access.check_eq_unauthorized⟩
  · intro d suffix request now today exchange huploads hget hpath
    have hguarded := Server.uploadResponse_guarded scheme access suffix request
    rw [ne_eq, Upload.check_iff_opens hlaw hok hpair, ← huploads] at hguarded
    refine ⟨_, Server.answer_upload hget hpath scheme now today exchange, fun hopens => ?_,
      fun hcloses => ?_⟩
    · rw [hguarded.1 hopens, Server.answer_upload hget hpath]
      exact ⟨Server.status_uploadResponse_open scheme suffix request, rfl⟩
    · rw [hguarded.2 hcloses]
      rfl

/-! ## A way to keep passwords -/

namespace Password

/-- The texts kept are the encoded hashes. -/
lemma Argon2.isKept_iff (s : String) : isKept s = true ↔ IsEncodedHash s := by
  have hbeginning : (Text.afterBeginning? "$argon2".toList s.toList).isSome = true ↔
      "$argon2".toList <+: s.toList := by
    rw [Option.isSome_iff_exists]
    exact exists_congr fun rest => Text.afterBeginning?_eq_some_iff.trans eq_comm
  rw [isKept, Bool.and_eq_true, hbeginning, IsEncodedHash]

/-- What stands before the salt in a kept text of the scheme in use. -/
def Argon2.beginning : String := "$argon2id$v=19$m=19456,t=2,p=1$"

/-- A scheme that hides nothing.  It keeps texts of the form of the one in use and refuses the salts
that this one refuses, but the tag at the end is the password itself, behind zeros that make it long
enough; all other texts it takes as the one in use does. -/
def openly : Scheme where
  hash salt password :=
    if salt.length < 8 then .error (.internal "Failed to hash password: salt too short")
    else .ok (Argon2.beginning ++ String.ofList (Text.Base64.encodeUnpadded salt) ++ "$" ++
      String.ofList (Text.Base64.encodeUnpadded (tag password)))
  verify given kept :=
    match (Text.afterBeginning? Argon2.beginning.toList kept.toList).bind
        (Text.cutAtFirst '$') with
    | some (_, field) => .ok (field = Text.Base64.encodeUnpadded (tag given))
    | none => Argon2.verify given kept
  isKept := Argon2.isKept
where
  /-- The tag of a password. -/
  tag (password : String) : List UInt8 :=
    List.replicate 10 0 ++ Text.Utf8.encodeText password

/-- Different passwords have different tags. -/
lemma openly.tag_injective {password password' : String} (h : tag password = tag password') :
    password = password' :=
  Text.Utf8.encodeText_injective (List.append_cancel_left h)

/-- Salts that are long enough are all that the scheme needs. -/
lemma isLawful_openly {salt : List UInt8} (hsalt : 8 ≤ salt.length) : openly.IsLawful salt where
  hashes _ := ⟨_, if_neg (Nat.not_lt.mpr hsalt)⟩
  recognises := Argon2.isKept_iff
  verifies {password kept} h given := by
    have hmark : '$' ∉ Text.Base64.encodeUnpadded salt := by
      intro hmem
      rcases Text.Base64.mem_encodeUnpadded hmem with h | h | h <;> revert h <;> decide
    simp only [openly, if_neg (Nat.not_lt.mpr hsalt)] at h
    obtain rfl := Except.ok.inj h
    have hfields : (Text.afterBeginning? Argon2.beginning.toList
        (Argon2.beginning ++ String.ofList (Text.Base64.encodeUnpadded salt) ++ "$" ++
          String.ofList (Text.Base64.encodeUnpadded (openly.tag password))).toList).bind
            (Text.cutAtFirst '$') =
        some (Text.Base64.encodeUnpadded salt,
          Text.Base64.encodeUnpadded (openly.tag password)) := by
      rw [Option.bind_eq_some_iff]
      refine ⟨_, Text.afterBeginning?_eq_some_iff.mpr ?_,
        Text.cutAtFirst_eq_some_iff.mpr ⟨rfl, hmark⟩⟩
      simp
    simp only [openly, hfields, Except.ok.injEq, decide_eq_true_eq]
    constructor
    · intro heq
      exact (openly.tag_injective (Text.Base64.encodeUnpadded_injective heq)).symm
    · rintro rfl
      rfl

end Password

/-- A password with a colon, kept with a salt of the size that is drawn.  A header with capital
letters and blanks is let through; one with another password is not, and neither is no header. -/
theorem access_admits_colon :
    ∃ access, Upload.Access.ofCredentials Password.openly ((List.range 16).map UInt8.ofNat)
        "admin:pa:ss" = .ok access ∧
      access.kept =
        "$argon2id$v=19$m=19456,t=2,p=1$AAECAwQFBgcICQoLDA0ODw$AAAAAAAAAAAAAHBhOnNz" ∧
      Password.IsEncodedHash access.kept ∧
      access.check Password.openly (some " bASIC  YWRtaW46cGE6c3M= ") = .ok () ∧
      (∃ detail, access.check Password.openly (some "Basic YWRtaW46cGE=") =
        .error (.unauthorized detail)) ∧
      ∃ detail, access.check Password.openly none = .error (.unauthorized detail) := by
  have hpair : IsPair "admin:pa:ss" "admin" "pa:ss" := by
    unfold IsPair
    decide +kernel
  have hplain : ¬ Password.IsEncodedHash "pa:ss" := by
    rw [← Password.Argon2.isKept_iff]
    decide +kernel
  have hopens : Upload.Opens Password.openly "admin" "pa:ss"
      (some " bASIC  YWRtaW46cGE6c3M= ") := by
    refine ⟨_, "pa:ss", rfl, ⟨by decide +kernel, "bASIC".toList, " YWRtaW46cGE6c3M=".toList, ?_⟩,
      .inr ⟨hplain, rfl⟩⟩
    rw [Text.Utf8.encodeText_eq]
    decide +kernel
  have hother : ¬ Upload.Opens Password.openly "admin" "pa:ss" (some "Basic YWRtaW46cGE=") := by
    rintro ⟨header, given, h, hcarries, hfits⟩
    obtain rfl := Option.some.inj h
    have hread := BasicCredentials.parse?_eq_some_iff.mpr
      (show CarriesBasic _ (BasicCredentials.mk "admin" given).user _ from hcarries)
    have hgiven : BasicCredentials.parse? "Basic YWRtaW46cGE=" = some ⟨"admin", "pa"⟩ := by
      decide +kernel
    obtain rfl : "pa" = given :=
      congrArg BasicCredentials.password (Option.some.inj (hgiven.symm.trans hread))
    rcases hfits with ⟨hencoded, -⟩ | ⟨-, hsame⟩
    · exact hplain hencoded
    · exact absurd hsame (by decide)
  have hnone : ¬ Upload.Opens Password.openly "admin" "pa:ss" none := by
    rintro ⟨header, given, h, -⟩
    cases h
  have hlaw : Password.openly.IsLawful ((List.range 16).map UInt8.ofNat) :=
    Password.isLawful_openly (by decide)
  obtain ⟨hguards, -, -, hadmits⟩ := access_admits hlaw (m := StateM Nat) "admin:pa:ss"
  obtain ⟨access, haccess⟩ := hguards.mpr ⟨_, _, hpair⟩
  have hkept : access.kept =
      "$argon2id$v=19$m=19456,t=2,p=1$AAECAwQFBgcICQoLDA0ODw$AAAAAAAAAAAAAHBhOnNz" := by
    obtain ⟨password, hpair', hkept⟩ :=
      (Upload.Access.ofCredentials_eq_ok_iff hlaw).mp haccess
    obtain ⟨-, rfl⟩ := isPair_unique hpair' hpair
    obtain ⟨hencoded, -⟩ | ⟨-, hhash⟩ := hkept
    · exact absurd hencoded hplain
    · rw [← Except.ok.inj hhash, Password.openly.tag, Text.Utf8.encodeText_eq]
      decide +kernel
  obtain ⟨-, hcheck, -⟩ := hadmits access _ _ haccess hpair
  refine ⟨access, haccess, hkept, ?_, (hcheck _).1 hopens, (hcheck _).2 hother,
    (hcheck _).2 hnone⟩
  rw [hkept, ← Password.Argon2.isKept_iff]
  decide +kernel

end KeyDirectory
