import KeyDirectory.Proofs.Upload.Party

/-!
# The session of an upload

What each call of an upload session does to its connection and to the desk.  Only registering and
revoking change the roster, and only telling queues a message; every other call is silent.

* `advances_of_call`, `advances_of_silent_call`: what has to be shown of a call.
* `advances_registering`, `advances_telling`, `advances_revoking`: the calls that are not silent.
* `advances_move`: whatever the move, a connection advances.
-/

namespace KeyDirectory.Upload.Party

open Connection Roster

variable {desk : Desk} {p : Party} {stage : Stage}

/-! ## Calls -/

/-- A sound party stands where its session says. -/
lemma Sound.standsAt {roster : Roster} (h : p.Sound roster)
    (hstage : p.connection.session = .running stage) : p.StandsAt stage := by
  have hstands := h.stands
  rw [hstage] at hstands
  exact hstands

/-- The lease that a session holds at a stage is listed. -/
lemma Sound.listedAt {roster : Roster} (h : p.Sound roster)
    (hstage : p.connection.session = .running stage) {lease : Lease}
    (hlease : stage.lease? = some lease) : p.Listed roster lease := by
  refine h.listed lease ?_
  unfold lease?
  rw [hstage]
  exact hlease

/-- A call that the session makes, when it does not have to wait. -/
lemma move_work (hstage : p.connection.session = .running stage) {desk' : Desk}
    {moved : Moved Stage} (hcall : makeCall desk p.connection stage.call = some (desk', moved)) :
    p.move desk .work =
      (desk', ⟨moved.1, p.heard ++ [], p.said ++ moved.2.filterMap accepted?⟩) := by
  refine move_of_step ?_
  unfold step step? work?
  rw [hstage]
  show (makeCall desk p.connection stage.call).getD _ = _
  rw [hcall, Option.getD_some]

/-- A call that the session has to wait for changes nothing. -/
lemma advances_of_waiting_call (h : p.Sound desk.roster)
    (hstage : p.connection.session = .running stage)
    (hcall : makeCall desk p.connection stage.call = none) :
    Advances desk p (p.move desk .work).1 (p.move desk .work).2 := by
  have hquiet : Quiet p.connection (p.connection, []) :=
    .of_same rfl rfl rfl rfl rfl (by simp)
  refine advances_of_quiet h ?_ hquiet rfl
  unfold step step? work?
  rw [hstage]
  show (makeCall desk p.connection stage.call).getD _ = (desk, p.connection, [])
  rw [hcall, Option.getD_none]

/-- What has to be shown of a call: where it leads, that the lease is listed there, how it changes
the roster, and what it tells. -/
lemma advances_of_call (h : p.Sound desk.roster)
    (hstage : p.connection.session = .running stage) {desk' : Desk} {moved : Moved Stage}
    (hcall : makeCall desk p.connection stage.call = some (desk', moved))
    (hliveness : moved.1.liveness = p.connection.liveness)
    (hjoiner : moved.1.joiner = p.connection.joiner)
    (hstands : ∀ p' : Party, p'.connection = moved.1 → p'.heard = p.heard ++ [] →
      p'.said = p.said ++ moved.2.filterMap accepted? →
      (∀ key, p.key? = some key → p'.key? = some key) → p'.Stands moved.1.session)
    (hlisted : ∀ p' : Party, (∀ key, p.key? = some key → p'.key? = some key) →
      ∀ lease, leaseOf moved.1.session = some lease → p'.Listed desk'.roster lease)
    (hchanges : Changes desk.roster stage.lease? desk'.roster (leaseOf moved.1.session))
    (htold : moved.2.filterMap accepted? = [] ∨ ∃ lease, p.said = [] ∧
      moved.2.filterMap accepted? = [lease.identity] ∧ stage.lease? = some lease) :
    Advances desk p (p.move desk .work).1 (p.move desk .work).2 := by
  have hlease : p.lease? = stage.lease? := by
    unfold lease?
    rw [hstage]
    rfl
  have hkey : ∀ key, p.key? = some key → Party.key?
      ⟨moved.1, p.heard ++ [], p.said ++ moved.2.filterMap accepted?⟩ = some key :=
    fun key => key?_of_heard hliveness rfl
  rw [move_work hstage hcall]
  refine ⟨⟨hstands _ rfl rfl rfl hkey, hlisted _ hkey, fun hdone => ?_⟩, ?_, hkey, ?_⟩
  · -- The session was not over, so the joiner was not done, and it has not moved.
    have hbefore : p.connection.isDone = true := by
      unfold isDone at *
      rwa [show moved.1.joiner = p.connection.joiner from hjoiner] at hdone
    have hended := h.joined hbefore
    rw [hstage] at hended
    cases hended
  · rw [hlease]
    exact hchanges
  · rcases htold with hnone | ⟨lease, hsilent, hone, hheld⟩
    · refine .inl ?_
      rw [hnone]
      exact List.append_nil p.said
    · refine .inr ⟨lease, hsilent, ?_, hlease.trans hheld⟩
      rw [hone, hsilent]
      rfl

/-- A silent call only leads from one stage to another with the same lease. -/
lemma advances_of_silent_call (h : p.Sound desk.roster)
    (hstage : p.connection.session = .running stage) {moved : Moved Stage}
    (hcall : makeCall desk p.connection stage.call = some (desk, moved))
    (hliveness : moved.1.liveness = p.connection.liveness)
    (hjoiner : moved.1.joiner = p.connection.joiner)
    (hlease : leaseOf moved.1.session = stage.lease?)
    (hsilent : moved.2.filterMap accepted? = [])
    (hstands : ∀ p' : Party, p'.connection = moved.1 → p'.heard = p.heard ++ [] →
      p'.said = p.said → (∀ key, p.key? = some key → p'.key? = some key) →
      p'.Stands moved.1.session) :
    Advances desk p (p.move desk .work).1 (p.move desk .work).2 := by
  refine advances_of_call h hstage hcall hliveness hjoiner ?_ ?_ ?_ (.inl hsilent)
  · intro p' hconnection hheard hsaid hkey
    rw [hsilent, List.append_nil] at hsaid
    exact hstands p' hconnection hheard hsaid hkey
  · intro p' hkey lease hl
    rw [hlease] at hl
    exact (h.listedAt hstage hl).mono hkey
  · rw [hlease]
    exact .same _ _

/-! ## Stage by stage -/

/-- A session that arrives goes on to wait for a key. -/
lemma advances_arriving (h : p.Sound desk.roster)
    (hstage : p.connection.session = .running .arriving) :
    Advances desk p (p.move desk .work).1 (p.move desk .work).2 := by
  obtain ⟨hsaid, hwaiting⟩ : p.StandsAt .arriving := h.standsAt hstage
  refine advances_of_silent_call h hstage rfl rfl rfl rfl rfl ?_
  intro p' hconnection hheard hsilent hkey
  refine ⟨hsilent.trans hsaid, hwaiting.mono ?_ hheard ?_ fun hrunning => ⟨?_, rfl⟩⟩
  · rw [hconnection]
    rfl
  · rw [hconnection]
    rfl
  · rw [hconnection] at hrunning
    exact hrunning

/-- The session takes the submission, and what becomes of it depends on whether it is a key. -/
lemma advances_awaitingKey (h : p.Sound desk.roster)
    (hstage : p.connection.session = .running .awaitingKey) :
    Advances desk p (p.move desk .work).1 (p.move desk .work).2 := by
  obtain ⟨hsaid, hwaiting⟩ : p.StandsAt .awaitingKey := h.standsAt hstage
  rcases hcancelled : p.connection.link.cancelled with _ | _
  · rcases hinbox : p.connection.inbox with _ | line
    · refine advances_of_waiting_call h hstage ?_
      simp [Stage.call, makeCall, hcancelled, hinbox]
    · rcases hparsed : Key.parse line with failure | key
      · have hcall : makeCall desk p.connection Stage.awaitingKey.call = some (desk,
            { p.connection with inbox := none }.resume .leaving, [.took (some line)]) := by
          simp [Stage.call, makeCall, hcancelled, hinbox, Stage.ofMessage, hparsed]
        refine advances_of_silent_call h hstage hcall rfl rfl rfl rfl ?_
        exact fun p' _ _ hsilent _ => .inl (hsilent.trans hsaid)
      · have hcall : makeCall desk p.connection Stage.awaitingKey.call = some (desk,
            { p.connection with inbox := none }.resume (.registering key),
            [.took (some line)]) := by
          simp [Stage.call, makeCall, hcancelled, hinbox, Stage.ofMessage, hparsed]
        have hsubmitted : p.key? = some key := by
          unfold key?
          rw [hwaiting.1 line hinbox, Option.bind_some, hparsed]
          rfl
        refine advances_of_silent_call h hstage hcall rfl rfl rfl rfl ?_
        exact fun p' _ _ hsilent hkey => ⟨hsilent.trans hsaid, hkey key hsubmitted⟩
  · have hcall : makeCall desk p.connection Stage.awaitingKey.call =
        some (desk, p.connection.resume .leaving, [.took none]) := by
      simp [Stage.call, makeCall, hcancelled]
    refine advances_of_silent_call h hstage hcall rfl rfl rfl rfl ?_
    exact fun p' _ _ hsilent _ => .inl (hsilent.trans hsaid)

/-- Registering puts the key that was submitted on the roster. -/
lemma advances_registering (h : p.Sound desk.roster) {key : PublicKey}
    (hstage : p.connection.session = .running (.registering key)) :
    Advances desk p (p.move desk .work).1 (p.move desk .work).2 := by
  obtain ⟨hsaid, hsubmitted⟩ : p.StandsAt (.registering key) := h.standsAt hstage
  obtain ⟨⟨desk', lease⟩, hregister⟩ := Option.isSome_iff_exists.mp (desk.register_isSome [key])
  have hcall : makeCall desk p.connection (Stage.registering key).call =
      some (desk', p.connection.resume (.registered lease), []) := by
    simp [Stage.call, makeCall, hregister]
  obtain ⟨identity, counted, hvacant, hroster, rfl⟩ := Desk.register_eq_some hregister
  refine advances_of_call h hstage hcall rfl rfl ?_ ?_ ?_ (.inl rfl)
  · intro p' _ _ hsilent _
    exact (hsilent.trans (List.append_nil _)).trans hsaid
  · intro p' hkey lease hl
    cases hl
    have hentry : desk'.roster.entry? identity = some ⟨[key], desk.today⟩ := by
      rw [hroster, entry?_enlist, if_pos rfl]
    exact ⟨rfl, key, _, hkey key hsubmitted, hentry, rfl⟩
  · rw [hroster]
    exact .entered counted _ hvacant

/-- A session that has registered goes on to tell the identity. -/
lemma advances_registered (h : p.Sound desk.roster) {lease : Lease}
    (hstage : p.connection.session = .running (.registered lease)) :
    Advances desk p (p.move desk .work).1 (p.move desk .work).2 := by
  have hsaid : p.said = [] := h.standsAt hstage
  refine advances_of_silent_call h hstage rfl rfl rfl rfl rfl ?_
  exact fun p' _ _ hsilent _ => hsilent.trans hsaid

/-- The identity is queued while its entry is on the roster, or refused. -/
lemma advances_telling (h : p.Sound desk.roster) {lease : Lease}
    (hstage : p.connection.session = .running (.telling lease)) :
    Advances desk p (p.move desk .work).1 (p.move desk .work).2 := by
  have hsaid : p.said = [] := h.standsAt hstage
  rcases hcancelled : p.connection.link.cancelled with _ | _
  · rcases houtbox : p.connection.outbox with _ | waiting
    · have hcall : makeCall desk p.connection (Stage.telling lease).call = some (desk,
          { p.connection with outbox := some lease.identity }.resume (.holding lease),
          [.accepted lease.identity]) := by
        simp [Stage.call, makeCall, hcancelled, houtbox]
      refine advances_of_call h hstage hcall rfl rfl ?_ ?_ (.same _ _)
        (.inr ⟨lease, hsaid, rfl, rfl⟩)
      · intro p' _ _ htold _
        rw [hsaid] at htold
        exact htold
      · intro p' hkey lease' hl
        exact (h.listedAt hstage hl).mono hkey
    · refine advances_of_waiting_call h hstage ?_
      simp [Stage.call, makeCall, hcancelled, houtbox]
  · have hcall : makeCall desk p.connection (Stage.telling lease).call = some (desk,
        p.connection.resume (.revoking lease), [.refused lease.identity]) := by
      simp [Stage.call, makeCall, hcancelled]
    refine advances_of_silent_call h hstage hcall rfl rfl rfl rfl ?_
    exact fun p' _ _ hsilent _ => .inl (hsilent.trans hsaid)

/-- The identity is held until the connection is cancelled. -/
lemma advances_holding (h : p.Sound desk.roster) {lease : Lease}
    (hstage : p.connection.session = .running (.holding lease)) :
    Advances desk p (p.move desk .work).1 (p.move desk .work).2 := by
  have hsaid : p.said = [lease.identity] := h.standsAt hstage
  rcases hcancelled : p.connection.link.cancelled with _ | _
  · refine advances_of_waiting_call h hstage ?_
    simp [Stage.call, makeCall, hcancelled]
  · have hcall : makeCall desk p.connection (Stage.holding lease).call =
        some (desk, p.connection.resume (.revoking lease), []) := by
      simp [Stage.call, makeCall, hcancelled]
    refine advances_of_silent_call h hstage hcall rfl rfl rfl rfl ?_
    exact fun p' _ _ hsilent _ => .inr (hsilent.trans hsaid)

/-- Revoking takes the entry of the lease away. -/
lemma advances_revoking (h : p.Sound desk.roster) {lease : Lease}
    (hstage : p.connection.session = .running (.revoking lease)) :
    Advances desk p (p.move desk .work).1 (p.move desk .work).2 := by
  have hsaid : p.said = [] ∨ p.said = [lease.identity] := h.standsAt hstage
  obtain ⟨hlive, key, entry, hsubmitted, -⟩ := h.listedAt hstage rfl
  refine advances_of_call h hstage rfl rfl rfl ?_ (fun _ _ _ hl => (nomatch hl)) ?_ (.inl rfl)
  · intro p' _ _ hsilent hkey
    have hsame : p'.said = p.said := hsilent.trans (List.append_nil _)
    rcases hsaid with hnone | hone
    · exact .inl (hsame.trans hnone)
    · exact .inr ⟨lease.identity, key, hsame.trans hone, hkey key hsubmitted⟩
  · rw [Desk.revoke_roster desk hlive]
    exact .left _ lease

/-- A session that leaves has no lease any more, and ends. -/
lemma advances_leaving (h : p.Sound desk.roster)
    (hstage : p.connection.session = .running .leaving) :
    Advances desk p (p.move desk .work).1 (p.move desk .work).2 := by
  have htold : p.HasToldOnce := h.standsAt hstage
  refine advances_of_silent_call h hstage rfl rfl rfl rfl rfl ?_
  exact fun p' _ _ hsilent hkey => htold.mono hsilent hkey

/-- The session goes on from whatever stage it is at. -/
lemma advances_of_work (h : p.Sound desk.roster) :
    Advances desk p (p.move desk .work).1 (p.move desk .work).2 := by
  rcases hsession : p.connection.session with stage | ⟨wake, stage⟩ | _
  · cases stage with
    | arriving => exact advances_arriving h hsession
    | awaitingKey => exact advances_awaitingKey h hsession
    | registering key => exact advances_registering h hsession
    | registered lease => exact advances_registered h hsession
    | telling lease => exact advances_telling h hsession
    | holding lease => exact advances_holding h hsession
    | revoking lease => exact advances_revoking h hsession
    | leaving => exact advances_leaving h hsession
  · have hstands := h.stands
    rw [hsession] at hstands
    exact hstands.elim
  · have hquiet : Quiet p.connection (p.connection, []) :=
      .of_same rfl rfl rfl rfl rfl (by simp)
    refine advances_of_quiet h ?_ hquiet rfl
    simp [step, step?, work?, hsession]

/-! ## All moves -/

/-- Whatever the move, a connection advances. -/
lemma advances_move (h : p.Sound desk.roster) (m : Move) :
    Advances desk p (p.move desk m).1 (p.move desk m).2 := by
  by_cases hwork : m = .work
  · subst hwork
    exact advances_of_work h
  · by_cases hreceive : ∃ inbound, m = .receive inbound
    · obtain ⟨inbound, rfl⟩ := hreceive
      exact advances_of_receive h inbound
    · exact advances_of_others h hwork fun inbound heq => hreceive ⟨inbound, heq⟩

/-- A connection that begins has neither heard nor said anything. -/
lemma sound_start (roster : Roster) (liveness : Liveness) (identifier : Identifier) (link : Link)
    (now : Moment) : Sound roster (.start liveness identifier link now) where
  stands := ⟨rfl, fun _ hinbox => (nomatch hinbox), fun _ _ => rfl⟩
  listed := fun _ hlease => (nomatch hlease)
  joined := fun hdone => (nomatch hdone)

end KeyDirectory.Upload.Party
