import KeyDirectory.Proofs.Upload.Work

/-!
# All connections at the upload point

The roster and the connections agree in every run, in whatever order the connections move.  Each
connection is sound by itself, and since an entry is made under an identity that is vacant and
taken away by its own lease, no move touches the entry of another connection.

* `Changes.entry?_eq`: the frame condition of a move.
* `Hall.Sound`, `Hall.sound_run`: the invariant of the hall.
* `key_lives_with_session`: the result.
-/

namespace KeyDirectory.Upload

open Connection Roster

/-! ## What a sound connection has -/

namespace Party

variable {roster : Roster} {p : Party}

/-- A connection has queued at most one message, and none without a key. -/
lemma Sound.hasToldOnce (h : p.Sound roster) : p.HasToldOnce := by
  rcases hsession : p.connection.session with stage | ⟨wake, stage⟩ | _
  · have hstands := h.standsAt hsession
    cases stage with
    | arriving => exact .inl hstands.1
    | awaitingKey => exact .inl hstands.1
    | registering key => exact .inl hstands.1
    | registered lease => exact .inl hstands
    | telling lease => exact .inl hstands
    | holding lease =>
        obtain ⟨-, key, -, hkey, -⟩ := h.listedAt hsession rfl
        exact .inr ⟨lease.identity, key, hstands, hkey⟩
    | revoking lease =>
        obtain ⟨-, key, -, hkey, -⟩ := h.listedAt hsession rfl
        exact Or.imp_right (fun hone => ⟨lease.identity, key, hone, hkey⟩) hstands
    | leaving => exact hstands
  · have hstands := h.stands
    rw [hsession] at hstands
    exact hstands.elim
  · have hstands := h.stands
    rw [hsession] at hstands
    exact hstands

/-- A party is told one identity at most. -/
lemma Sound.length_said_le (h : p.Sound roster) : p.said.length ≤ 1 := by
  rcases h.hasToldOnce with hnone | ⟨identity, key, hone, -⟩
  · rw [hnone]
    exact Nat.zero_le 1
  · rw [hone]
    exact Nat.le_refl 1

/-- Without a key there is no lease, and nothing is said. -/
lemma Sound.unlisted (h : p.Sound roster) (hkey : p.key? = none) :
    p.lease? = none ∧ p.said = [] := by
  constructor
  · rcases hlease : p.lease? with _ | lease
    · rfl
    · obtain ⟨-, key, -, hsome, -⟩ := h.listed lease hlease
      rw [hkey] at hsome
      cases hsome
  · rcases h.hasToldOnce with hnone | ⟨identity, key, -, hsome⟩
    · exact hnone
    · rw [hkey] at hsome
      cases hsome

/-- A connection that is served no longer holds nothing. -/
lemma Sound.served (h : p.Sound roster) (hdone : p.connection.isDone = true) :
    p.lease? = none := by
  have hended := h.joined hdone
  unfold lease?
  rcases hsession : p.connection.session with stage | ⟨wake, stage⟩ | _
  · rw [hsession] at hended
    cases hended
  · rw [hsession] at hended
    cases hended
  · rfl

/-- Whoever looks the identity of a lease up finds the key that was submitted. -/
lemma Sound.get_eq (h : p.Sound roster) {lease : Lease} (hlease : p.lease? = some lease) :
    ∃ key, p.key? = some key ∧ roster.get lease.identity = .ok ⟨.upload, [key]⟩ := by
  obtain ⟨-, key, entry, hkey, hentry, hkeys⟩ := h.listed lease hlease
  exact ⟨key, hkey, hkeys ▸ Roster.get_of_entry? hentry⟩

end Party

/-! ## The frame of a move -/

namespace Changes

variable {roster roster' : Roster} {lease lease' : Option Lease}

/-- An entry that is not the one of the lease stays. -/
lemma entry?_eq (h : Changes roster lease roster' lease') {name : String} {entry : Entry}
    (hentry : roster.entry? name = some entry)
    (hother : ∀ l, lease = some l → l.identity ≠ name) : roster'.entry? name = some entry := by
  cases h with
  | same => exact hentry
  | @entered identity counted new hvacant =>
      have hne : name ≠ identity := by
        rintro rfl
        rw [hentry] at hvacant
        cases hvacant
      rw [entry?_enlist, if_neg hne]
      exact hentry
  | left l =>
      rw [entry?_erase, if_neg (hother l rfl).symm]
      exact hentry

/-- A change of the roster keeps its names apart. -/
lemma nodup (h : Changes roster lease roster' lease')
    (hnodup : (roster.entries.map Prod.fst).Nodup) :
    (roster'.entries.map Prod.fst).Nodup := by
  cases h with
  | same => exact hnodup
  | entered counted new hvacant => exact nodup_enlist counted new hnodup hvacant
  | left l => exact nodup_erase l.identity hnodup

/-- An entry that is there afterwards is that of the lease, or was there before and is not that of
the lease before. -/
lemma entry?_cases (h : Changes roster lease roster' lease') {name : String} {entry : Entry}
    (hentry : roster'.entry? name = some entry) :
    (∃ l, lease' = some l ∧ l.identity = name) ∨
      roster.entry? name = some entry ∧ ∀ l, lease = some l → l.identity ≠ name := by
  cases h with
  | same =>
      by_cases hown : ∃ l, lease = some l ∧ l.identity = name
      · exact .inl hown
      · exact .inr ⟨hentry, fun l hlease heq => hown ⟨l, hlease, heq⟩⟩
  | @entered identity counted new hvacant =>
      rw [entry?_enlist] at hentry
      split_ifs at hentry with hname
      · exact .inl ⟨⟨identity, false⟩, rfl, hname.symm⟩
      · exact .inr ⟨hentry, fun l hlease => (nomatch hlease)⟩
  | left l =>
      rw [entry?_erase] at hentry
      split_ifs at hentry with hname
      refine .inr ⟨hentry, fun l' hlease heq => hname ?_⟩
      cases hlease
      exact heq.symm

/-- A lease that is new is of an identity that was vacant. -/
lemma lease_cases (h : Changes roster lease roster' lease') {l : Lease} (hlease : lease' = some l) :
    lease = some l ∨ roster.entry? l.identity = none := by
  cases h with
  | same => exact .inl hlease
  | entered counted new hvacant =>
      cases hlease
      exact .inr hvacant
  | left => cases hlease

/-- Without a lease before and after, the roster stays as it is. -/
lemma roster_eq (h : Changes roster lease roster' lease') (hbefore : lease = none)
    (hafter : lease' = none) : roster' = roster := by
  cases h with
  | same => rfl
  | entered counted new hvacant => cases hafter
  | left l => cases hbefore

end Changes

/-- A connection whose entry is not touched stays sound. -/
lemma Party.Sound.of_changes {roster roster' : Roster} {lease lease' : Option Lease} {q : Party}
    (h : q.Sound roster) (hchanges : Changes roster lease roster' lease')
    (hother : ∀ l m, lease = some l → q.lease? = some m → l.identity ≠ m.identity) :
    q.Sound roster' where
  stands := h.stands
  listed := by
    intro m hm
    obtain ⟨hlive, key, entry, hkey, hentry, hkeys⟩ := h.listed m hm
    exact ⟨hlive, key, entry, hkey,
      hchanges.entry?_eq hentry fun l hl => hother l m hl hm, hkeys⟩
  joined := h.joined

namespace Hall

/-! ## The invariant -/

/-- Every connection is sound, every entry is that of a lease, and no two connections hold leases
of one identity. -/
structure Sound (h : Hall) : Prop where
  parties : ∀ p ∈ h.parties, p.Sound h.desk.roster
  once : (h.desk.roster.entries.map Prod.fst).Nodup
  held : ∀ identity entry, h.desk.roster.entry? identity = some entry →
    ∃ (i : Nat) (p : Party) (lease : Lease),
      h.parties[i]? = some p ∧ p.lease? = some lease ∧ lease.identity = identity
  apart : ∀ (i j : Nat) (p q : Party) (l m : Lease),
    h.parties[i]? = some p → h.parties[j]? = some q → p.lease? = some l → q.lease? = some m →
    l.identity = m.identity → i = j

/-- A sound hall is exact. -/
lemma Sound.isExact {h : Hall} (hsound : h.Sound) : h.IsExact where
  once := hsound.once
  held := hsound.held
  listed := fun p hp _ hlease => ((hsound.parties p hp).listed _ hlease).2
  apart := hsound.apart
  toldOnce := fun p hp => (hsound.parties p hp).length_said_le
  unlisted := fun p hp hkey => (hsound.parties p hp).unlisted hkey
  served := fun p hp hdone => (hsound.parties p hp).served hdone

/-- An empty hall is sound. -/
lemma sound_opened (beginning : String) (today : Timestamp) (randomness : List (List UInt8)) :
    (opened beginning today randomness).Sound where
  parties := fun _ hp => absurd hp List.not_mem_nil
  once := List.nodup_nil
  held := fun _ _ hentry => (nomatch hentry)
  apart := fun _ _ _ _ _ _ hp => (nomatch hp)

/-! ## A move of one connection -/

section Move

variable {h : Hall} {i : Nat} {p : Party}

/-- A move changes the desk and the party that moves. -/
lemma move_eq (hp : h.parties[i]? = some p) (m : Move) :
    h.move i m = ⟨(p.move h.desk m).1, h.parties.set i (p.move h.desk m).2⟩ := by
  unfold move
  rw [hp]

/-- A move changes the connection that makes it, and no other. -/
lemma getElem?_move (hp : h.parties[i]? = some p) (m : Move) (j : Nat) :
    (h.move i m).parties[j]? =
      if j = i then some (p.move h.desk m).2 else h.parties[j]? := by
  obtain ⟨hlt, -⟩ := List.getElem?_eq_some_iff.mp hp
  rw [move_eq hp]
  by_cases hj : j = i
  · subst hj
    rw [if_pos rfl]
    exact List.getElem?_set_self hlt
  · rw [if_neg hj]
    exact List.getElem?_set_ne fun heq => hj heq.symm

/-- The lease that a connection holds after a move is not of the identity of another one. -/
lemma lease_ne_of_move (hsound : h.Sound) (hp : h.parties[i]? = some p) (m : Move) {j : Nat}
    (hj : j ≠ i) {q : Party} (hq : h.parties[j]? = some q) {l k : Lease}
    (hl : (p.move h.desk m).2.lease? = some l) (hk : q.lease? = some k) :
    l.identity ≠ k.identity := by
  intro heq
  have hadvances := Party.advances_move (hsound.parties p (List.mem_of_getElem? hp)) m
  rcases hadvances.changes.lease_cases hl with hbefore | hvacant
  · exact hj (hsound.apart i j p q l k hp hq hbefore hk heq).symm
  · obtain ⟨-, -, entry, -, hentry, -⟩ := (hsound.parties q (List.mem_of_getElem? hq)).listed k hk
    rw [heq, hentry] at hvacant
    cases hvacant

/-- A move of one connection keeps the hall sound. -/
lemma sound_move (hsound : h.Sound) (hp : h.parties[i]? = some p) (m : Move) :
    (h.move i m).Sound := by
  have hadvances := Party.advances_move (hsound.parties p (List.mem_of_getElem? hp)) m
  have hroster : (h.move i m).desk.roster = (p.move h.desk m).1.roster := by
    rw [move_eq hp]
  refine ⟨fun q hq => ?_, ?_, fun identity entry hentry => ?_, ?_⟩
  · obtain ⟨j, hj⟩ := List.mem_iff_getElem?.mp hq
    rw [getElem?_move hp] at hj
    rw [hroster]
    split_ifs at hj with hji
    · cases hj
      exact hadvances.sound
    · refine (hsound.parties q (List.mem_of_getElem? hj)).of_changes hadvances.changes ?_
      intro l k hl hk heq
      exact hji (hsound.apart i j p q l k hp hj hl hk heq).symm
  · rw [hroster]
    exact hadvances.changes.nodup hsound.once
  · rw [hroster] at hentry
    rcases hadvances.changes.entry?_cases hentry with ⟨l, hl, hname⟩ | ⟨hbefore, hnot⟩
    · exact ⟨i, _, l, by rw [getElem?_move hp, if_pos rfl], hl, hname⟩
    · obtain ⟨j, q, k, hq, hk, hname⟩ := hsound.held identity entry hbefore
      have hji : j ≠ i := by
        rintro rfl
        rw [hp] at hq
        cases hq
        exact hnot k hk hname
      exact ⟨j, q, k, by rw [getElem?_move hp, if_neg hji, hq], hk, hname⟩
  · intro j k q r l l' hq hr hl hl' heq
    rw [getElem?_move hp] at hq hr
    split_ifs at hq hr with hji hki hki
    · exact hji.trans hki.symm
    · cases hq
      exact absurd heq (lease_ne_of_move hsound hp m hki hr hl hl')
    · cases hr
      exact absurd heq.symm (lease_ne_of_move hsound hp m hji hq hl' hl)
    · exact hsound.apart j k q r l l' hq hr hl hl' heq

/-- A move leaves the other connections and their entries alone, and tells nothing but the identity
of the lease. -/
lemma moveIsFair (hsound : h.Sound) (hp : h.parties[i]? = some p) (m : Move) :
    h.MoveIsFair i p m := by
  have hparty := hsound.parties p (List.mem_of_getElem? hp)
  have hadvances := Party.advances_move hparty m
  have hroster : (h.move i m).desk.roster = (p.move h.desk m).1.roster := by
    rw [move_eq hp]
  refine ⟨fun j q hji hq => ⟨?_, fun k hk => ?_⟩, ?_, fun hkey => ?_⟩
  · rw [getElem?_move hp, if_neg hji, hq]
  · obtain ⟨-, -, entry, -, hentry, -⟩ := (hsound.parties q (List.mem_of_getElem? hq)).listed k hk
    rw [hroster, hentry]
    refine hadvances.changes.entry?_eq hentry fun l hl heq => ?_
    exact hji (hsound.apart i j p q l k hp hq hl hk heq).symm
  · refine hadvances.told.imp_right ?_
    rintro ⟨lease, hsilent, htold, hlease⟩
    obtain ⟨key, hkey, hget⟩ := hparty.get_eq hlease
    exact ⟨lease, key, hsilent, htold, hlease, hkey, hget⟩
  · have hkey' : p.key? = none := by
      rcases hsome : p.key? with _ | key
      · rfl
      · rw [hadvances.key key hsome] at hkey
        cases hkey
    rw [hroster]
    exact hadvances.changes.roster_eq (hparty.unlisted hkey').1 (hadvances.sound.unlisted hkey).1

end Move

/-! ## Whole runs -/

/-- A connection that enters holds no lease. -/
lemma sound_enter {h : Hall} (hsound : h.Sound) (liveness : Liveness) (identifier : Identifier)
    (link : Link) (now : Moment) : (h.step (.enter liveness identifier link now)).Sound := by
  have hold : ∀ (j : Nat) (q : Party) (l : Lease),
      (h.parties ++ [Party.start liveness identifier link now])[j]? = some q →
      q.lease? = some l → h.parties[j]? = some q := by
    intro j q l hq hl
    rw [List.getElem?_append] at hq
    split_ifs at hq with hlt
    · exact hq
    · obtain rfl := List.mem_singleton.mp (List.mem_of_getElem? hq)
      cases hl
  refine ⟨fun q hq => ?_, hsound.once, fun identity entry hentry => ?_, ?_⟩
  · rcases List.mem_append.mp hq with hbefore | hlast
    · exact hsound.parties q hbefore
    · obtain rfl := List.mem_singleton.mp hlast
      exact Party.sound_start _ liveness identifier link now
  · obtain ⟨j, q, l, hq, hl, hname⟩ := hsound.held identity entry hentry
    obtain ⟨hlt, -⟩ := List.getElem?_eq_some_iff.mp hq
    exact ⟨j, q, l, (List.getElem?_append_left hlt).trans hq, hl, hname⟩
  · intro i j p q l k hp hq hl hk
    exact hsound.apart i j p q l k (hold i p l hp hl) (hold j q k hq hk) hl hk

/-- Whatever the turn, the hall stays sound. -/
lemma sound_step {h : Hall} (hsound : h.Sound) (turn : Turn) : (h.step turn).Sound := by
  cases turn with
  | enter liveness identifier link now => exact sound_enter hsound liveness identifier link now
  | move i m =>
      rcases hp : h.parties[i]? with _ | p
      · have hstill : h.step (.move i m) = h := by
          unfold step move
          simp only [hp]
        rw [hstill]
        exact hsound
      · exact sound_move hsound hp m
  | lookup identity => exact hsound
  | supply today randomness => exact ⟨hsound.parties, hsound.once, hsound.held, hsound.apart⟩

/-- Every run keeps the hall sound. -/
lemma sound_run {h : Hall} (hsound : h.Sound) (turns : List Turn) : (h.run turns).Sound := by
  induction turns generalizing h with
  | nil => exact hsound
  | cons turn turns ih => exact ih (sound_step hsound turn)

/-- In every run of the upload point, for any number of connections with any limits, and with the
moves, the messages, the cancellations and the lookups in any order: at every moment the roster
has exactly one entry for each connection that has registered and not yet revoked, with the one
key that it submitted, and no other; a connection is told at most one identity, its own, after
that can be looked up; its entry is gone when it is served no longer; and no move touches the
entry of another connection, or the roster at all while no key was submitted. -/
theorem key_lives_with_session (beginning : String) (today : Timestamp)
    (randomness : List (List UInt8)) (turns : List Turn) :
    ((opened beginning today randomness).run turns).IsExact ∧
      ∀ (i : Nat) (p : Party) (m : Move),
        ((opened beginning today randomness).run turns).parties[i]? = some p →
          ((opened beginning today randomness).run turns).MoveIsFair i p m := by
  have hsound := sound_run (sound_opened beginning today randomness) turns
  exact ⟨hsound.isExact, fun i p m hp => moveIsFair hsound hp m⟩

/-- Two connections in turn, of which the first submits a key and the second does not. -/
def twoVisitors : List Turn :=
  [.enter .standard ⟨[]⟩ .fresh 0, .enter .standard ⟨[]⟩ .fresh 0, .move 0 .work, .move 1 .work,
    .move 0 (.receive (.message (.text
      "ssh-ed25519 AAAAC3NzaC1lZDI1NTE5AAAAIGUdUNqRHa0eh/90qPnUIxpDcS5s+Fn5fnA8qQ3prKwu me"))),
    .move 1 (.receive (.message (.text "good morning"))), .move 0 .work, .move 1 .work,
    .move 0 .work, .move 1 .work, .move 0 .work, .move 0 .work]

/-- The one is told the identity of the only entry, and the other nothing. -/
theorem key_lives_with_session_twoVisitors :
    let h := (opened "u-" ⟨0, 0⟩ [List.replicate 32 0]).run twoVisitors
    (h.parties.map (·.said) = [["u-AAAAAAAAAA"], []] ∧ h.desk.roster.size = 1) ∧ h.IsExact ∧
      ∀ (i : Nat) (p : Party) (m : Move), h.parties[i]? = some p → h.MoveIsFair i p m :=
  ⟨by decide +kernel, key_lives_with_session "u-" ⟨0, 0⟩ [List.replicate 32 0] twoVisitors⟩

end Hall

end KeyDirectory.Upload
