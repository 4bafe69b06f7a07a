import KeyDirectory.Proofs.Upload.Tenancy

/-!
# What generated identities look like

* `Minted`: the beginning that the settings give, and then ten letters and digits, or the digits of
  a count.
* `minted_register`, `minted_run`: so is every identity that keys are registered under.
-/

namespace KeyDirectory.Upload

/-! ## Drawing -/

/-- The alphabet is letters and digits. -/
lemma isAlphanum_of_mem_alphabet : ∀ c ∈ alphabet, c.isAlphanum = true :=
  List.all_eq_true.mp (by decide)

/-- Every character drawn is a letter or a digit. -/
lemma isAlphanum_of_charOfByte? {b : UInt8} {c : Char} (h : charOfByte? b = some c) :
    c.isAlphanum = true := by
  unfold charOfByte? at h
  split_ifs at h
  exact isAlphanum_of_mem_alphabet c (List.mem_of_getElem? h)

/-- What is drawn are as many letters and digits as were asked for. -/
lemma draw_eq_some {n : Nat} {reads rest : List (List UInt8)} {chars : List Char}
    (h : draw n reads = some (chars, rest)) :
    chars.length = n ∧ ∀ c ∈ chars, c.isAlphanum = true := by
  induction reads generalizing n chars with
  | nil =>
      cases n with
      | zero =>
          cases h
          exact ⟨rfl, by simp⟩
      | succ n => cases h
  | cons read reads ih =>
      cases n with
      | zero =>
          cases h
          exact ⟨rfl, by simp⟩
      | succ n =>
          unfold draw at h
          obtain ⟨⟨more, left⟩, hmore, heq⟩ := Option.map_eq_some_iff.mp h
          cases heq
          obtain ⟨hlength, halphanum⟩ := ih hmore
          have hfirst : ((read.filterMap charOfByte?).take (n + 1)).length ≤ n + 1 :=
            List.length_take_le ..
          refine ⟨by rw [List.length_append, hlength]; omega, fun c hc => ?_⟩
          rcases List.mem_append.mp hc with hc | hc
          · obtain ⟨b, -, hb⟩ := List.mem_filterMap.mp (List.mem_of_mem_take hc)
            exact isAlphanum_of_charOfByte? hb
          · exact halphanum c hc

/-! ## Generated identities -/

/-- The identity is the beginning and then either drawn or counted. -/
def Minted (beginning identity : String) : Prop :=
  ∃ tail : List Char, identity.toList = beginning.toList ++ tail ∧ tail ≠ [] ∧
    ((tail.length = identityLength ∧ ∀ c ∈ tail, c.isAlphanum = true) ∨
      ∀ c ∈ tail, c.isDigit = true)

namespace Roster

/-- The next identity is minted. -/
lemma minted_nextIdentity {r r' : Roster} {identity : String} {reads rest : List (List UInt8)}
    (h : r.nextIdentity reads = (identity, r', rest)) : Minted r.beginning identity := by
  unfold nextIdentity drawIdentity at h
  rcases hdraw : draw identityLength reads with _ | ⟨chars, left⟩
  · rw [hdraw] at h
    cases h
    refine ⟨Nat.toDigits 10 r.counted, ?_, Nat.toDigits_ne_nil, .inr fun c hc => ?_⟩
    · rw [String.toList_append, Nat.toString_eq_ofList_toDigits, String.toList_ofList]
    · exact Nat.isDigit_of_mem_toDigits (by decide) (by decide) hc
  · rw [hdraw] at h
    cases h
    obtain ⟨hlength, halphanum⟩ := draw_eq_some hdraw
    refine ⟨chars, by simp, ?_, .inl ⟨hlength, halphanum⟩⟩
    rintro rfl
    cases hlength

/-- However many tries it takes, the identity registered is minted. -/
lemma minted_registerGo {r r' : Roster} {entry : Entry} {lease : Lease} {tries : Nat}
    {reads rest : List (List UInt8)}
    (h : register.go entry tries r reads = some (r', lease, rest)) :
    Minted r.beginning lease.identity ∧ r'.beginning = r.beginning := by
  induction tries generalizing r reads with
  | zero => cases h
  | succ tries ih =>
      unfold register.go at h
      split at h
      next identity counting left hnext =>
        have hminted := minted_nextIdentity hnext
        obtain ⟨counted, rfl⟩ := exists_counted_of_nextIdentity hnext
        split at h
        · next given hgiven =>
          cases h
          obtain ⟨-, rfl, rfl⟩ := registerAs_eq_some hgiven
          exact ⟨hminted, rfl⟩
        · have hlater := ih h
          exact hlater

/-- The identity registered is minted, and the beginning stays. -/
lemma minted_register {r r' : Roster} {entry : Entry} {lease : Lease}
    {reads rest : List (List UInt8)} (h : r.register reads entry = some (r', lease, rest)) :
    Minted r.beginning lease.identity ∧ r'.beginning = r.beginning :=
  minted_registerGo h

/-- Revoking leaves the beginning of identities alone. -/
lemma beginning_revoke (r : Roster) (lease : Lease) :
    (r.revoke lease).1.beginning = r.beginning := by
  unfold revoke
  split_ifs <;> rfl

/-- A revoked lease keeps its identity. -/
lemma identity_revoke (r : Roster) (lease : Lease) :
    (r.revoke lease).2.identity = lease.identity := by
  unfold revoke
  split_ifs <;> rfl

end Roster

namespace Tenancy

/-- All leases are of identities that were generated. -/
structure AllMinted (beginning : String) (t : Tenancy) : Prop where
  beginning_eq : t.roster.beginning = beginning
  leases : ∀ lease, some lease ∈ t.leases → Minted beginning lease.identity

variable {beginning : String} {t : Tenancy}

/-- An operation leaves all identities minted. -/
lemma minted_step (h : t.AllMinted beginning) (op : Operation) :
    (t.step op).AllMinted beginning := by
  cases op with
  | register today reads keys =>
      obtain ⟨hbeginning, hleases⟩ := h
      unfold step register
      dsimp only
      split
      · next roster lease rest hregister =>
        obtain ⟨hminted, hsame⟩ := Roster.minted_register hregister
        refine ⟨hsame.trans hbeginning, fun other hother => ?_⟩
        rcases List.mem_append.mp hother with hother | hother
        · exact hleases other hother
        · obtain rfl := Option.some.inj (List.mem_singleton.mp hother)
          exact hbeginning ▸ hminted
      · exact ⟨hbeginning, hleases⟩
  | revoke i =>
      unfold step revoke
      dsimp only
      split
      · next lease hlease =>
        refine ⟨(Roster.beginning_revoke ..).trans h.beginning_eq, fun other hother => ?_⟩
        rcases List.mem_or_eq_of_mem_set hother with hother | hother
        · exact h.leases other hother
        · obtain rfl := Option.some.inj hother
          rw [Roster.identity_revoke]
          exact h.leases lease (List.mem_of_getElem? hlease)
      · exact h
  | drop i =>
      unfold step drop
      dsimp only
      split
      · next lease hlease =>
        refine ⟨(Roster.beginning_revoke ..).trans h.beginning_eq, fun other hother => ?_⟩
        rcases List.mem_or_eq_of_mem_set hother with hother | hother
        · exact h.leases other hother
        · cases hother
      · exact h
  | get identity => exact h

/-- Every run leaves all identities minted. -/
lemma minted_run (beginning : String) (ops : List Operation) :
    ((opened beginning).run ops).AllMinted beginning := by
  have hrun : ∀ t : Tenancy, t.AllMinted beginning → (t.run ops).AllMinted beginning := by
    induction ops with
    | nil => exact fun _ h => h
    | cons op ops ih => exact fun t h => ih _ (minted_step h op)
  exact hrun _ ⟨rfl, fun _ h => absurd h List.not_mem_nil⟩

end Tenancy

end KeyDirectory.Upload
