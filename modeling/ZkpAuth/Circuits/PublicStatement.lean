import ZkpAuth.Circuits.AuthDecision

/-!
# What an accepted proof says about the prover

A verifier of `main` sees seven public signals.  This file computes which values they can take,
and what two satisfying assignments with related signals have in common: whether the public
statement determines the account, the role and the attested attributes.

## Main definitions

* `Auth.Decision.Admissible` — the decisions that some request leads to.
* `Auth.requestFor` — a request that leads to a given admissible decision.

## Main results

* `Auth.exists_publicSignals_iff` — the public statements that have a satisfying assignment.
* `Auth.storedHashes_eq` — how far the public statement binds the stored hashes.
* `Auth.privileged_isAuthenticated_iff` — what a privilege implies for the authentication.
* `Auth.account_outputs_eq_iff` — which outputs a fixed account, role and secrets determine.
* `Auth.role_of_flags` — how far the role flags determine the role.
-/

set_option relaxedAutoImplicit false
set_option autoImplicit false

open Bn254 BitDecomposition

namespace Auth

/-! ## The public statements that can be proved -/

/-- The decisions that the circuit can reach. -/
structure Decision.Admissible (d : Decision) : Prop where
  /-- A doctor is not an expert. -/
  doctor_or_expert : ¬(d.isDoctor = true ∧ d.isExpert = true)
  /-- Only a doctor may request an expert. -/
  request_doctor : d.canRequestExpert = true → d.isDoctor = true
  /-- An adult patient is neither a doctor nor an expert. -/
  adult_patient : d.isAdultPatient = true → d.isDoctor = false ∧ d.isExpert = false

/-- Every decision is admissible: the three roles are distinct. -/
lemma decision_admissible (H : Fr → Fr) (i : Inputs) : (decision H i).Admissible where
  doctor_or_expert := by
    simp only [decision, decide_eq_true_eq]
    rintro ⟨hdoctor, hexpert⟩
    exact absurd (hdoctor.symm.trans hexpert) (by decide)
  request_doctor := by
    simp only [decision, decide_eq_true_eq]
    exact And.left
  adult_patient := by
    simp only [decision, decide_eq_true_eq, decide_eq_false_iff_not]
    rintro ⟨hpatient, -⟩
    rw [hpatient]
    exact ⟨by decide, by decide⟩

/-- The role that shows the flags of a decision. -/
def Decision.role (d : Decision) : Fr :=
  if d.isDoctor then roleDoctor else if d.isExpert then roleExpert
  else if d.isAdultPatient then rolePatient else 0

/-- The role of an admissible decision shows exactly its flags.

**Proof sketch.** The three roles and the default `0` are distinct, so the role tells which branch
was taken; admissibility excludes the combinations in which an earlier branch hides a later
flag. -/
lemma Decision.Admissible.role_eq_iff {d : Decision} (hd : d.Admissible) :
    (d.role = roleDoctor ↔ d.isDoctor = true) ∧ (d.role = roleExpert ↔ d.isExpert = true) ∧
      (d.role = rolePatient ↔ d.isAdultPatient = true) := by
  obtain ⟨hdoctor, -, hadult⟩ := hd
  unfold Decision.role
  cases hA : d.isAdultPatient with
  | true =>
    obtain ⟨hD, hE⟩ := hadult hA
    rw [hD, hE]
    decide
  | false =>
    cases hD : d.isDoctor with
    | true =>
      have hE : d.isExpert = false := Bool.eq_false_iff.mpr fun hE => hdoctor ⟨hD, hE⟩
      rw [hE]
      decide
    | false => cases d.isExpert <;> decide

/-- A request that leads to the decision `d` under the policy `requiredSpecialty`,
`requiredMinAge`.  The age equals the required one, so that it is sufficient and in range for
every policy. -/
def requestFor (H : Fr → Fr) (d : Decision) (requiredSpecialty requiredMinAge : Fr) : Inputs where
  requiredSpecialty := requiredSpecialty
  requiredMinAge := requiredMinAge
  role := d.role
  password := 0
  secretLicense := 0
  age := requiredMinAge
  expertSpecialty := if d.canRequestExpert then requiredSpecialty else requiredSpecialty + 1
  storedRoleHash := H d.role
  storedPwdHash := if d.isAuthenticated then H 0 else H 0 + 1
  storedLicenseHash := H 0

/-- The constructed request is in range for every policy. -/
lemma requestFor_mem_ageInRange (H : Fr → Fr) (d : Decision) (spec minAge : Fr) :
    requestFor H d spec minAge ∈ ageInRange := by
  change (minAge - 1 - minAge + 2 ^ 32).val < 2 ^ 33
  rw [show minAge - 1 - minAge + 2 ^ 32 = ((2 ^ 32 - 1 : ℕ) : Fr) by
    rw [Nat.cast_sub (by norm_num)]
    push_cast
    ring]
  rw [ZMod.val_cast_of_lt (by norm_num [r])]
  norm_num

/-- The constructed request leads to the given decision, if it is admissible. -/
lemma decision_requestFor (H : Fr → Fr) {d : Decision} (hd : d.Admissible)
    (spec minAge : Fr) : decision H (requestFor H d spec minAge) = d := by
  obtain ⟨hdoctor, hexpert, hpatient⟩ := hd.role_eq_iff
  ext
  · cases hA : d.isAuthenticated <;> simp [decision, Inputs.licensed, requestFor, hA]
  · simp [decision, requestFor, hdoctor]
  · simp [decision, requestFor, hexpert]
  · cases hR : d.canRequestExpert
    · simp [decision, requestFor, hR]
    · simp [decision, Inputs.licensed, requestFor, hR, hdoctor, hd.request_doctor hR]
  · simp [decision, Inputs.adult, requestFor, hpatient]

/-- The public signals of a decision under a policy. -/
def Decision.publicSignals (d : Decision) (spec minAge : Fr) : PublicSignals where
  isAuthenticated := toField d.isAuthenticated
  isDoctor := toField d.isDoctor
  isExpert := toField d.isExpert
  canRequestExpert := toField d.canRequestExpert
  isAdultPatient := toField d.isAdultPatient
  requiredSpecialty := spec
  requiredMinAge := minAge

/-- The provable public statements are those of the admissible decisions. -/
lemma exists_publicSignals_iff_admissible (P : Hasher) (x : PublicSignals) :
    (∃ s : Signals P, Constraints s ∧ s.publicSignals = x) ↔
      ∃ d : Decision, d.Admissible ∧ d.publicSignals x.requiredSpecialty x.requiredMinAge = x := by
  have hproj := (implements P).exists_iff publicOf x
  refine hproj.trans ⟨?_, ?_⟩
  · rintro ⟨i, -, rfl⟩
    exact ⟨decision P.H i, decision_admissible P.H i, rfl⟩
  · rintro ⟨d, hd, hx⟩
    refine ⟨requestFor P.H d x.requiredSpecialty x.requiredMinAge,
      requestFor_mem_ageInRange _ _ _ _, ?_⟩
    rw [decision_requestFor P.H hd]
    exact hx

/-- **The provable public statements.** A public statement has a satisfying assignment exactly
when its five flags are bits, it does not show both a doctor and an expert, it lets only doctors
request experts, and it shows an adult patient only when it shows neither of the other roles. -/
theorem exists_publicSignals_iff (P : Hasher) (x : PublicSignals) :
    (∃ s : Signals P, Constraints s ∧ s.publicSignals = x) ↔
      ((x.isAuthenticated = 0 ∨ x.isAuthenticated = 1) ∧ (x.isDoctor = 0 ∨ x.isDoctor = 1) ∧
        (x.isExpert = 0 ∨ x.isExpert = 1) ∧
        (x.canRequestExpert = 0 ∨ x.canRequestExpert = 1) ∧
        (x.isAdultPatient = 0 ∨ x.isAdultPatient = 1)) ∧
      ¬(x.isDoctor = 1 ∧ x.isExpert = 1) ∧
      (x.canRequestExpert = 1 → x.isDoctor = 1) ∧
      (x.isAdultPatient = 1 → x.isDoctor = 0 ∧ x.isExpert = 0) := by
  obtain ⟨auth, doctor, expert, request, adult, spec, minAge⟩ := x
  rw [exists_publicSignals_iff_admissible]
  simp only [Decision.publicSignals, PublicSignals.mk.injEq, and_true]
  constructor
  · rintro ⟨d, hd, rfl, rfl, rfl, rfl, rfl⟩
    have hbit : ∀ b : Bool, b = false ∨ b = true := by decide
    simp only [toField_eq_one, toField_eq_zero]
    exact ⟨⟨hbit _, hbit _, hbit _, hbit _, hbit _⟩, hd.doctor_or_expert, hd.request_doctor,
      hd.adult_patient⟩
  · rintro ⟨⟨hauth, hdoctor, hexpert, hrequest, hadult⟩, hde, hrd, hap⟩
    obtain ⟨a, rfl⟩ := exists_toField_iff.mpr hauth
    obtain ⟨b, rfl⟩ := exists_toField_iff.mpr hdoctor
    obtain ⟨c, rfl⟩ := exists_toField_iff.mpr hexpert
    obtain ⟨d, rfl⟩ := exists_toField_iff.mpr hrequest
    obtain ⟨e, rfl⟩ := exists_toField_iff.mpr hadult
    simp only [toField_eq_one, toField_eq_zero] at hde hrd hap
    exact ⟨⟨a, b, c, d, e⟩, ⟨hde, hrd, hap⟩, rfl, rfl, rfl, rfl, rfl⟩

/-! ## Registered users -/

/-- The request of a user of the given role whose account stores the hashes of the role and of
both secrets, under the policy of the input file. -/
def registered (H : Fr → Fr) (role password secretLicense age : Fr) : Inputs where
  requiredSpecialty := 1
  requiredMinAge := (18 : ℕ)
  role := role
  password := password
  secretLicense := secretLicense
  age := age
  expertSpecialty := 1
  storedRoleHash := H role
  storedPwdHash := H password
  storedLicenseHash := H secretLicense

/-- A registered user is authenticated, whatever the role. -/
lemma decision_registered (H : Fr → Fr) (role password secretLicense age : Fr) :
    decision H (registered H role password secretLicense age) =
      { isAuthenticated := true
        isDoctor := decide (role = roleDoctor)
        isExpert := decide (role = roleExpert)
        canRequestExpert := decide (role = roleDoctor)
        isAdultPatient := decide (role = rolePatient ∧ (age - 18).val < 2 ^ 32) } := by
  ext1
  · exact decide_eq_true ⟨rfl, rfl, fun _ => rfl⟩
  · rfl
  · rfl
  · exact decide_eq_decide.mpr ⟨And.left, fun h => ⟨h, rfl, rfl⟩⟩
  · rfl

/-- A registered user of an age of 32 bits can compute a witness. -/
lemma constraints_registered (P : Hasher) (role password secretLicense : Fr) {age : Fr}
    (hage : age.val < 2 ^ 32) :
    Constraints (compute P (registered P.H role password secretLicense age)) :=
  constraints_compute P (mem_ageInRange_of_lt (show (18 : Fr).val < 2 ^ 32 by decide) hage)

/-- The outputs of a registered user's witness. -/
lemma outputs_registered (P : Hasher) (role password secretLicense : Fr) {age : Fr}
    (hage : age.val < 2 ^ 32) :
    (compute P (registered P.H role password secretLicense age)).toOutputs =
      { isAuthenticated := 1
        isDoctor := toField (decide (role = roleDoctor))
        isExpert := toField (decide (role = roleExpert))
        canRequestExpert := toField (decide (role = roleDoctor))
        isAdultPatient := toField (decide (role = rolePatient ∧ (age - 18).val < 2 ^ 32)) } := by
  rw [(constraints_registered P role password secretLicense hage).toOutputs_eq]
  exact congrArg Outputs.ofDecision (decision_registered P.H role password secretLicense age)

/-! ## What the public statement says about the account -/

/-- The same request of another user, whose account stores the hashes of the role and the
password. -/
def Inputs.withAccount (H : Fr → Fr) (i : Inputs)
    (role age password secretLicense storedLicenseHash : Fr) : Inputs :=
  { i with
    role := role
    age := age
    password := password
    secretLicense := secretLicense
    storedRoleHash := H role
    storedPwdHash := H password
    storedLicenseHash := storedLicenseHash }

/-- Another user with the same flags leads to the same decision as an authenticated request.  Only a
doctor's licence has to be registered. -/
lemma decision_withAccount {H : Fr → Fr} {i : Inputs} {role age : Fr} (password : Fr)
    {secretLicense storedLicenseHash : Fr} (hrole : H i.role = i.storedRoleHash)
    (hpwd : H i.password = i.storedPwdHash) (hlicense : i.role = roleDoctor → i.licensed H)
    (hdoctor : role = roleDoctor ↔ i.role = roleDoctor)
    (hexpert : role = roleExpert ↔ i.role = roleExpert)
    (hadult : role = rolePatient ∧ (age - i.requiredMinAge).val < 2 ^ 32 ↔
      i.role = rolePatient ∧ i.adult)
    (hstored : role = roleDoctor → H secretLicense = storedLicenseHash) :
    decision H (i.withAccount H role age password secretLicense storedLicenseHash) =
      decision H i := by
  ext1
  · exact decide_eq_decide.mpr ⟨fun _ => ⟨hrole, hpwd, hlicense⟩, fun _ => ⟨rfl, rfl, hstored⟩⟩
  · exact decide_eq_decide.mpr hdoctor
  · exact decide_eq_decide.mpr hexpert
  · refine decide_eq_decide.mpr ⟨fun h => ?_, fun h => ?_⟩
    · exact ⟨hdoctor.mp h.1, hlicense (hdoctor.mp h.1), h.2.2⟩
    · exact ⟨hdoctor.mpr h.1, hstored (hdoctor.mpr h.1), h.2.2⟩
  · exact decide_eq_decide.mpr hadult

section Account

variable {P : Hasher} {s : Signals P} (h : Constraints s) (hauth : s.isAuthenticated = 1)

include h hauth

/-- The statement of an authenticated assignment can be proved by another user with the same
flags. -/
lemma exists_withAccount {role : Fr} (age password : Fr) {secretLicense storedLicenseHash : Fr}
    (hage : s.toInputs.withAccount P.H role age password secretLicense storedLicenseHash ∈
      ageInRange)
    (hdoctor : role = roleDoctor ↔ s.role = roleDoctor)
    (hexpert : role = roleExpert ↔ s.role = roleExpert)
    (hadult : role = rolePatient ∧ (age - s.requiredMinAge).val < 2 ^ 32 ↔
      s.role = rolePatient ∧ s.adult)
    (hstored : role = roleDoctor → P.H secretLicense = storedLicenseHash) :
    ∃ t : Signals P, Constraints t ∧ t.publicSignals = s.publicSignals ∧ t.role = role ∧
      t.storedRoleHash = P.H role ∧ t.password = password ∧ t.secretLicense = secretLicense ∧
      t.storedPwdHash = P.H password ∧ t.storedLicenseHash = storedLicenseHash := by
  obtain ⟨hrole, hpwd, hlicense⟩ := h.isAuthenticated_eq_one_iff.mp hauth
  set i := s.toInputs.withAccount P.H role age password secretLicense storedLicenseHash
  have hout : (compute P i).toOutputs = s.toOutputs := by
    rw [h.toOutputs_eq, ← decision_withAccount password hrole hpwd hlicense hdoctor hexpert hadult
      hstored]
    exact (implements P).output_compute hage
  refine ⟨compute P i, constraints_compute P hage, ?_, rfl, rfl, rfl, rfl, rfl, rfl⟩
  rw [Signals.publicSignals, hout]
  rfl

/-- Other secrets of the same user.  The licence has to be registered for a doctor only. -/
lemma exists_withSecrets (password : Fr) {secretLicense storedLicenseHash : Fr}
    (hstored : s.isDoctor = 1 → P.H secretLicense = storedLicenseHash) :
    ∃ t : Signals P, Constraints t ∧ t.publicSignals = s.publicSignals ∧ t.role = s.role ∧
      t.password = password ∧ t.secretLicense = secretLicense ∧
      t.storedPwdHash = P.H password ∧ t.storedLicenseHash = storedLicenseHash := by
  obtain ⟨t, ht, hpub, hrole, -, hrest⟩ := exists_withAccount h hauth s.age password
    (show s.toInputs.withAccount P.H s.role s.age _ _ _ ∈ ageInRange from h.mem_ageInRange)
    Iff.rfl Iff.rfl Iff.rfl (fun hrole => hstored (h.isDoctor_eq_one_iff.mpr hrole))
  exact ⟨t, ht, hpub, hrole, hrest⟩

/-- A user of any other role than the doctor's and the expert's, when no flag is set.  The age just
misses the required one, so that a patient is no adult. -/
lemma exists_withRole (hdoctor : s.isDoctor = 0) (hexpert : s.isExpert = 0)
    (hadult : s.isAdultPatient = 0) {role : Fr} (hne₁ : role ≠ roleDoctor)
    (hne₂ : role ≠ roleExpert) (password secretLicense storedLicenseHash : Fr) :
    ∃ t : Signals P, Constraints t ∧ t.publicSignals = s.publicSignals ∧ t.role = role ∧
      t.storedRoleHash = P.H role ∧ t.password = password ∧ t.secretLicense = secretLicense ∧
      t.storedPwdHash = P.H password ∧ t.storedLicenseHash = storedLicenseHash := by
  have hnot : ∀ {x : Fr}, x = 0 → ¬x = 1 := fun hx => by rw [hx]; decide
  have hage : s.requiredMinAge - 1 - (s.requiredMinAge - 1) + 2 ^ 32 = ((2 ^ 32 : ℕ) : Fr) := by
    push_cast
    ring
  have hyoung : ¬(s.requiredMinAge - 1 - s.requiredMinAge).val < 2 ^ 32 := by
    rw [sub_right_comm, sub_self, zero_sub]
    decide
  refine exists_withAccount h hauth (s.requiredMinAge - 1) password ?_ ?_ ?_ ?_ (absurd · hne₁)
  · change (s.requiredMinAge - 1 - (s.requiredMinAge - 1) + 2 ^ 32).val < 2 ^ 33
    rw [hage, ZMod.val_cast_of_lt (by norm_num [r])]
    norm_num
  · exact iff_of_false hne₁ (mt h.isDoctor_eq_one_iff.mpr (hnot hdoctor))
  · exact iff_of_false hne₂ (mt h.isExpert_eq_one_iff.mpr (hnot hexpert))
  · exact iff_of_false (fun hpatient => hyoung hpatient.2)
      (mt h.isAdultPatient_eq_one_iff.mpr (hnot hadult))

end Account

/-- **What binds the stored hashes.** Two authenticated assignments with the same public signals
agree on the stored role hash if they agree on the role, which the flag of a doctor, an expert or
an adult patient already fixes; on the stored password hash if they agree on the password; and on
the stored licence hash if they show a doctor and agree on the licence.

Nothing else binds them.  The statement can be proved with any other password, registered under
its own hash, and with any licence and stored licence hash, which have to match for a doctor only.
When no flag is set, it can be proved in any role but the doctor's and the expert's.

**Proof sketch.** The flags of the two statements are the same, so they fix the role on both
sides; the checks turn equal secrets into equal hashes.  What is free is shown by an assignment
computed from other inputs. -/
theorem storedHashes_eq {P : Hasher} (s s' : Signals P) (h : Constraints s) (h' : Constraints s')
    (hpub : s.publicSignals = s'.publicSignals) (hauth : s.isAuthenticated = 1) :
    (s.role = s'.role ∨ s.isDoctor = 1 ∨ s.isExpert = 1 ∨ s.isAdultPatient = 1 →
      s.storedRoleHash = s'.storedRoleHash) ∧
    (s.password = s'.password → s.storedPwdHash = s'.storedPwdHash) ∧
    (s.isDoctor = 1 → s.secretLicense = s'.secretLicense →
      s.storedLicenseHash = s'.storedLicenseHash) ∧
    (∀ password secretLicense storedLicenseHash : Fr,
      (s.isDoctor = 1 → P.H secretLicense = storedLicenseHash) →
      ∃ t : Signals P, Constraints t ∧ t.publicSignals = s.publicSignals ∧ t.role = s.role ∧
        t.password = password ∧ t.secretLicense = secretLicense ∧
        t.storedPwdHash = P.H password ∧ t.storedLicenseHash = storedLicenseHash) ∧
    (s.isDoctor = 0 → s.isExpert = 0 → s.isAdultPatient = 0 →
      ∀ role password secretLicense storedLicenseHash : Fr, role ≠ roleDoctor → role ≠ roleExpert →
      ∃ t : Signals P, Constraints t ∧ t.publicSignals = s.publicSignals ∧ t.role = role ∧
        t.storedRoleHash = P.H role ∧ t.password = password ∧ t.secretLicense = secretLicense ∧
        t.storedPwdHash = P.H password ∧ t.storedLicenseHash = storedLicenseHash) := by
  have hauth' : s'.isAuthenticated = 1 := by
    rw [← hauth]
    exact (congrArg PublicSignals.isAuthenticated hpub).symm
  have hdoctor : s.isDoctor = s'.isDoctor := congrArg PublicSignals.isDoctor hpub
  have hexpert : s.isExpert = s'.isExpert := congrArg PublicSignals.isExpert hpub
  have hadult : s.isAdultPatient = s'.isAdultPatient := congrArg PublicSignals.isAdultPatient hpub
  obtain ⟨hrole, hpwd, hlicense⟩ := h.isAuthenticated_eq_one_iff.mp hauth
  obtain ⟨hrole', hpwd', hlicense'⟩ := h'.isAuthenticated_eq_one_iff.mp hauth'
  refine ⟨fun hr => ?_, fun hp => ?_, fun hd hl => ?_,
    fun password _ _ hstored => exists_withSecrets h hauth password hstored,
    fun hd he ha _ _ _ _ hne₁ hne₂ => exists_withRole h hauth hd he ha hne₁ hne₂ _ _ _⟩
  · have hsame : s.role = s'.role := by
      rcases hr with hr | hd | he | ha
      · exact hr
      · rw [h.isDoctor_eq_one_iff.mp hd, h'.isDoctor_eq_one_iff.mp (hdoctor ▸ hd)]
      · rw [h.isExpert_eq_one_iff.mp he, h'.isExpert_eq_one_iff.mp (hexpert ▸ he)]
      · rw [(h.isAdultPatient_eq_one_iff.mp ha).1,
          (h'.isAdultPatient_eq_one_iff.mp (hadult ▸ ha)).1]
    rw [← hrole, ← hrole', hsame]
  · rw [← hpwd, ← hpwd', hp]
  · have hl1 : P.H s.secretLicense = s.storedLicenseHash :=
      hlicense (h.isDoctor_eq_one_iff.mp hd)
    have hl2 : P.H s'.secretLicense = s'.storedLicenseHash :=
      hlicense' (h'.isDoctor_eq_one_iff.mp (hdoctor ▸ hd))
    rw [← hl1, ← hl2, hl]

/-- Two registered users of one role and age prove the same statement, whatever their secrets. -/
lemma publicSignals_registered (P : Hasher) (role password password' secretLicense
    secretLicense' : Fr) {age : Fr} (hage : age.val < 2 ^ 32) :
    (compute P (registered P.H role password secretLicense age)).publicSignals =
      (compute P (registered P.H role password' secretLicense' age)).publicSignals :=
  congrArg (publicOf (registered P.H role password secretLicense age))
    ((outputs_registered P role password secretLicense hage).trans
      (outputs_registered P role password' secretLicense' hage).symm)

/-- The public statement does not bind the stored hashes: two patients with different passwords
prove the same statement. -/
theorem storedHashes_not_bound :
    ¬∀ s s' : Signals Hasher.poseidon, Constraints s → Constraints s' →
      s.publicSignals = s'.publicSignals → s.isAuthenticated = 1 → s'.isAuthenticated = 1 →
      s.storedRoleHash = s'.storedRoleHash ∧ s.storedPwdHash = s'.storedPwdHash ∧
        s.storedLicenseHash = s'.storedLicenseHash := by
  intro hall
  have hage : (20 : Fr).val < 2 ^ 32 := by decide
  have hsame := hall _ _ (constraints_registered Hasher.poseidon rolePatient 123 0 hage)
    (constraints_registered Hasher.poseidon rolePatient 124 0 hage)
    (publicSignals_registered Hasher.poseidon rolePatient 123 124 0 0 hage)
    (congrArg Outputs.isAuthenticated (outputs_registered Hasher.poseidon rolePatient 123 0 hage))
    (congrArg Outputs.isAuthenticated (outputs_registered Hasher.poseidon rolePatient 124 0 hage))
  have hne : Poseidon.H 123 ≠ Poseidon.H 124 := by decide +kernel
  exact hne hsame.2.1

/-- Two adult patients with different passwords share the stored role hash, and their statement can
be proved with a third password and a licence that is not registered. -/
theorem storedHashes_eq_patient :
    (compute Hasher.poseidon (registered Poseidon.H rolePatient 123 0 20)).storedRoleHash =
      (compute Hasher.poseidon (registered Poseidon.H rolePatient 124 0 20)).storedRoleHash ∧
    ∃ t : Signals Hasher.poseidon, Constraints t ∧
      t.publicSignals =
        (compute Hasher.poseidon (registered Poseidon.H rolePatient 123 0 20)).publicSignals ∧
      t.role = rolePatient ∧ t.password = 125 ∧ t.secretLicense = 5 ∧
      t.storedPwdHash = Poseidon.H 125 ∧ t.storedLicenseHash = 0 := by
  have hage : (20 : Fr).val < 2 ^ 32 := by decide
  have hout := outputs_registered Hasher.poseidon rolePatient 123 0 hage
  obtain ⟨hrole, -, -, hsecrets, -⟩ := storedHashes_eq _ _
    (constraints_registered Hasher.poseidon rolePatient 123 0 hage)
    (constraints_registered Hasher.poseidon rolePatient 124 0 hage)
    (publicSignals_registered Hasher.poseidon rolePatient 123 124 0 0 hage)
    (congrArg Outputs.isAuthenticated hout)
  have hpatient (hd : (compute Hasher.poseidon
      (registered Poseidon.H rolePatient 123 0 20)).isDoctor = 1) : False :=
    absurd ((congrArg Outputs.isDoctor hout).symm.trans hd) (by decide)
  have hadult : (compute Hasher.poseidon
      (registered Poseidon.H rolePatient 123 0 20)).isAdultPatient = 1 :=
    congrArg Outputs.isAdultPatient hout
  exact ⟨hrole (.inr (.inr (.inr hadult))), hsecrets 125 5 0 fun hd => (hpatient hd).elim⟩

/-! ## What a privilege says about the authentication -/

/-- **A privilege implies the licence part of the authentication only.** If a satisfying assignment
lets a doctor request an expert or shows an adult patient, it is authenticated exactly when the
role hash and the password hash match the stored ones. -/
theorem privileged_isAuthenticated_iff {P : Hasher} (s : Signals P) (h : Constraints s)
    (hpriv : s.canRequestExpert = 1 ∨ s.isAdultPatient = 1) :
    s.isAuthenticated = 1 ↔
      P.H s.role = s.storedRoleHash ∧ P.H s.password = s.storedPwdHash := by
  have hlicense : s.role = roleDoctor → s.licensed P.H := by
    rcases hpriv with hrequest | hadult
    · exact fun _ => (h.canRequestExpert_eq_one_iff.mp hrequest).2.1
    · intro hdoctor
      have hpatient := (h.isAdultPatient_eq_one_iff.mp hadult).1
      exact absurd (hdoctor.symm.trans hpatient) (by decide)
  rw [h.isAuthenticated_eq_one_iff]
  exact ⟨fun hall => ⟨hall.1, hall.2.1⟩, fun hall => ⟨hall.1, hall.2, hlicense⟩⟩

/-- A registered adult patient who presents a wrong password. -/
def wrongPassword : Inputs :=
  { registered Poseidon.H rolePatient (123 : ℕ) 0 (20 : ℕ) with password := (124 : ℕ) }

/-- The witness of the wrong password: an adult patient who is not authenticated. -/
lemma outputs_wrongPassword :
    Constraints (compute Hasher.poseidon wrongPassword) ∧
      (compute Hasher.poseidon wrongPassword).isAdultPatient = 1 := by
  have hs : Constraints (compute Hasher.poseidon wrongPassword) :=
    constraints_compute _ (mem_ageInRange_of_lt (by decide) (by decide))
  refine ⟨hs, hs.isAdultPatient_eq_one_iff.mpr ⟨rfl, ?_⟩⟩
  change ((20 : Fr) - 18).val < 2 ^ 32
  decide

/-- The authentication of an adult patient who presents a wrong password. -/
theorem privileged_isAuthenticated_iff_wrongPassword :
    (compute Hasher.poseidon wrongPassword).isAuthenticated = 1 ↔
      Poseidon.H rolePatient = Poseidon.H rolePatient ∧ Poseidon.H 124 = Poseidon.H 123 :=
  privileged_isAuthenticated_iff _ outputs_wrongPassword.1 (.inr outputs_wrongPassword.2)

/-- A privilege does not imply authentication. -/
theorem privileged_not_isAuthenticated :
    ¬∀ s : Signals Hasher.poseidon, Constraints s →
      s.canRequestExpert = 1 ∨ s.isAdultPatient = 1 → s.isAuthenticated = 1 := by
  intro hall
  obtain ⟨hs, hadult⟩ := outputs_wrongPassword
  have hpwd := (hs.isAuthenticated_eq_one_iff.mp (hall _ hs (.inr hadult))).2.1
  have hne : Poseidon.H 124 ≠ Poseidon.H 123 := by decide +kernel
  exact hne hpwd

/-! ## What an account says about the outputs -/

/-- **What a fixed account determines.** Two authenticated assignments with the same role and
policy, in particular two of one account and one user, agree on `isAuthenticated`, `isDoctor` and
`isExpert`.  They agree on `isAdultPatient` exactly when a patient's two ages pass or fail the age
test together, and on `canRequestExpert` exactly when a doctor's two specialties match or miss the
required one together. -/
theorem account_outputs_eq_iff {P : Hasher} (s s' : Signals P) (h : Constraints s)
    (h' : Constraints s') (hrole : s.role = s'.role)
    (hspec : s.requiredSpecialty = s'.requiredSpecialty)
    (hmin : s.requiredMinAge = s'.requiredMinAge) (hauth : s.isAuthenticated = 1)
    (hauth' : s'.isAuthenticated = 1) :
    s.isAuthenticated = s'.isAuthenticated ∧ s.isDoctor = s'.isDoctor ∧
    s.isExpert = s'.isExpert ∧
    (s.isAdultPatient = s'.isAdultPatient ↔
      (s.role = rolePatient → ((s.age - s.requiredMinAge).val < 2 ^ 32 ↔
        (s'.age - s.requiredMinAge).val < 2 ^ 32))) ∧
    (s.canRequestExpert = s'.canRequestExpert ↔
      (s.role = roleDoctor → (s.expertSpecialty = s.requiredSpecialty ↔
        s'.expertSpecialty = s.requiredSpecialty))) := by
  have hlicense := (h.isAuthenticated_eq_one_iff.mp hauth).2.2
  have hlicense' := (h'.isAuthenticated_eq_one_iff.mp hauth').2.2
  refine ⟨hauth.trans hauth'.symm, ?_, ?_, ?_, ?_⟩
  · rw [h.isDoctor, h'.isDoctor, hrole]
  · rw [h.isExpert, h'.isExpert, hrole]
  · rw [congrArg Outputs.isAdultPatient h.toOutputs_eq,
      congrArg Outputs.isAdultPatient h'.toOutputs_eq]
    refine (toField_decide_inj _ _).trans ?_
    have hadult' : s'.adult ↔ (s'.age - s.requiredMinAge).val < 2 ^ 32 := by
      rw [hmin]
      rfl
    rw [← hrole, and_congr_right_iff]
    exact forall_congr' fun _ => iff_congr Iff.rfl hadult'
  · rw [congrArg Outputs.canRequestExpert h.toOutputs_eq,
      congrArg Outputs.canRequestExpert h'.toOutputs_eq]
    refine (toField_decide_inj _ _).trans ?_
    rw [← hrole, and_congr_right_iff, ← hspec]
    refine forall_congr' fun hdoctor => ?_
    rw [and_iff_right (hlicense hdoctor), and_iff_right (hlicense' (hrole ▸ hdoctor))]

/-- The outputs of one registered patient at two ages, by the age test. -/
theorem account_outputs_eq_iff_patient :
    (compute Hasher.poseidon (registered Poseidon.H rolePatient 123 0 20)).isAdultPatient =
      (compute Hasher.poseidon (registered Poseidon.H rolePatient 123 0 17)).isAdultPatient ↔
    (rolePatient = rolePatient →
      (((20 : Fr) - 18).val < 2 ^ 32 ↔ ((17 : Fr) - 18).val < 2 ^ 32)) := by
  have hage : (20 : Fr).val < 2 ^ 32 := by decide
  have hage' : (17 : Fr).val < 2 ^ 32 := by decide
  exact (account_outputs_eq_iff _ _
    (constraints_registered Hasher.poseidon rolePatient 123 0 hage)
    (constraints_registered Hasher.poseidon rolePatient 123 0 hage') rfl rfl rfl
    (congrArg Outputs.isAuthenticated
      (outputs_registered Hasher.poseidon rolePatient 123 0 hage))
    (congrArg Outputs.isAuthenticated
      (outputs_registered Hasher.poseidon rolePatient 123 0 hage'))).2.2.2.1

/-- A fixed account does not determine the outputs: a patient who states another age. -/
theorem account_outputs_not_bound :
    ¬∀ s s' : Signals Hasher.poseidon, Constraints s → Constraints s' →
      s.storedRoleHash = s'.storedRoleHash ∧ s.storedPwdHash = s'.storedPwdHash ∧
        s.storedLicenseHash = s'.storedLicenseHash →
      s.role = s'.role ∧ s.password = s'.password ∧ s.secretLicense = s'.secretLicense →
      s.requiredSpecialty = s'.requiredSpecialty ∧ s.requiredMinAge = s'.requiredMinAge →
      s.isAuthenticated = 1 → s'.isAuthenticated = 1 → s.toOutputs = s'.toOutputs := by
  intro hall
  have hage : (20 : Fr).val < 2 ^ 32 := by decide
  have hage' : (17 : Fr).val < 2 ^ 32 := by decide
  have hout := outputs_registered Hasher.poseidon rolePatient 123 0 hage
  have hout' := outputs_registered Hasher.poseidon rolePatient 123 0 hage'
  have hsame := hall _ _ (constraints_registered Hasher.poseidon rolePatient 123 0 hage)
    (constraints_registered Hasher.poseidon rolePatient 123 0 hage') ⟨rfl, rfl, rfl⟩
    ⟨rfl, rfl, rfl⟩ ⟨rfl, rfl⟩ (congrArg Outputs.isAuthenticated hout)
    (congrArg Outputs.isAuthenticated hout')
  rw [hout, hout', Outputs.mk.injEq, toField_decide_inj _ (_ ∧ _)] at hsame
  have hadult := hsame.2.2.2.2
  have hyoung : ¬((17 : Fr) - 18).val < 2 ^ 32 := by decide
  exact hyoung (hadult.mp ⟨rfl, by decide⟩).2

/-! ## What the role flags say about the role -/

/-- The role behind two unset flags. -/
lemma Constraints.role_ne {P : Hasher} {s : Signals P} (h : Constraints s) (hd : s.isDoctor = 0)
    (he : s.isExpert = 0) : s.role ≠ roleDoctor ∧ s.role ≠ roleExpert := by
  rw [h.isDoctor, toField_decide_eq_zero] at hd
  rw [h.isExpert, toField_decide_eq_zero] at he
  exact ⟨hd, he⟩

/-- Every role but the doctor's and the expert's can be authenticated with both flags unset. -/
lemma exists_authenticated_role (P : Hasher) {role : Fr} (hdoctor : role ≠ roleDoctor)
    (hexpert : role ≠ roleExpert) :
    ∃ t : Signals P, Constraints t ∧ t.isAuthenticated = 1 ∧ t.isDoctor = 0 ∧ t.isExpert = 0 ∧
      t.role = role := by
  have hage : (18 : Fr).val < 2 ^ 32 := by decide
  have hout := outputs_registered P role 0 0 hage
  refine ⟨_, constraints_registered P role 0 0 hage, congrArg Outputs.isAuthenticated hout,
    (congrArg Outputs.isDoctor hout).trans ?_, (congrArg Outputs.isExpert hout).trans ?_, rfl⟩
  · exact (toField_decide_eq_zero _).mpr hdoctor
  · exact (toField_decide_eq_zero _).mpr hexpert

/-- **What the role flags determine.** Two authenticated assignments with the same role flags agree
on the role when one flag is set, and then it is the doctor's, with a valid licence in both, or the
expert's.  When no flag is set, each role is some value other than these two, and every such value
occurs in an authenticated assignment. -/
theorem role_of_flags {P : Hasher} (s s' : Signals P) (h : Constraints s) (h' : Constraints s')
    (hauth : s.isAuthenticated = 1) (hauth' : s'.isAuthenticated = 1)
    (hdoctor : s.isDoctor = s'.isDoctor) (hexpert : s.isExpert = s'.isExpert) :
    (s.isDoctor = 1 → (s.role = roleDoctor ∧ s'.role = roleDoctor) ∧
      s.licensed P.H ∧ s'.licensed P.H) ∧
    (s.isExpert = 1 → s.role = roleExpert ∧ s'.role = roleExpert) ∧
    (s.isDoctor = 0 → s.isExpert = 0 →
      (s.role ≠ roleDoctor ∧ s.role ≠ roleExpert) ∧
      (s'.role ≠ roleDoctor ∧ s'.role ≠ roleExpert)) ∧
    ∀ role : Fr, role ≠ roleDoctor → role ≠ roleExpert →
      ∃ t : Signals P, Constraints t ∧ t.isAuthenticated = 1 ∧ t.isDoctor = 0 ∧
        t.isExpert = 0 ∧ t.role = role := by
  refine ⟨fun hd => ?_, fun he => ?_, fun hd he => ?_,
    fun _ hne₁ hne₂ => exists_authenticated_role P hne₁ hne₂⟩
  · have hrole := h.isDoctor_eq_one_iff.mp hd
    have hrole' := h'.isDoctor_eq_one_iff.mp (hdoctor ▸ hd)
    exact ⟨⟨hrole, hrole'⟩, (h.isAuthenticated_eq_one_iff.mp hauth).2.2 hrole,
      (h'.isAuthenticated_eq_one_iff.mp hauth').2.2 hrole'⟩
  · exact ⟨h.isExpert_eq_one_iff.mp he, h'.isExpert_eq_one_iff.mp (hexpert ▸ he)⟩
  · exact ⟨h.role_ne hd he, h'.role_ne (hdoctor ▸ hd) (hexpert ▸ he)⟩

/-- Two registered doctors with different secrets and ages. -/
theorem role_of_flags_doctors :
    ((compute Hasher.poseidon (registered Poseidon.H roleDoctor 123 12345 20)).role = roleDoctor ∧
      (compute Hasher.poseidon (registered Poseidon.H roleDoctor 124 54321 30)).role =
        roleDoctor) ∧
    (compute Hasher.poseidon (registered Poseidon.H roleDoctor 123 12345 20)).licensed
      Poseidon.H ∧
    (compute Hasher.poseidon (registered Poseidon.H roleDoctor 124 54321 30)).licensed
      Poseidon.H := by
  have hage : (20 : Fr).val < 2 ^ 32 := by decide
  have hage' : (30 : Fr).val < 2 ^ 32 := by decide
  have hout := outputs_registered Hasher.poseidon roleDoctor 123 12345 hage
  have hout' := outputs_registered Hasher.poseidon roleDoctor 124 54321 hage'
  have hdoctor := congrArg Outputs.isDoctor hout
  have hexpert := congrArg Outputs.isExpert hout
  exact (role_of_flags _ _ (constraints_registered Hasher.poseidon roleDoctor 123 12345 hage)
    (constraints_registered Hasher.poseidon roleDoctor 124 54321 hage')
    (congrArg Outputs.isAuthenticated hout) (congrArg Outputs.isAuthenticated hout')
    (hdoctor.trans (congrArg Outputs.isDoctor hout').symm)
    (hexpert.trans (congrArg Outputs.isExpert hout').symm)).1 hdoctor

/-- The role flags do not determine the role: an authenticated user of the role `4`, which is none
of the three roles, shows the flags of a patient. -/
theorem role_not_determined :
    ¬∀ s s' : Signals Hasher.poseidon, Constraints s → Constraints s' →
      s.isAuthenticated = 1 → s'.isAuthenticated = 1 → s.isDoctor = s'.isDoctor →
      s.isExpert = s'.isExpert →
      s.role = s'.role ∧ (s.role = rolePatient ∨ s.role = roleDoctor ∨ s.role = roleExpert) := by
  intro hall
  have hage : (20 : Fr).val < 2 ^ 32 := by decide
  have hs := constraints_registered Hasher.poseidon 4 123 0 hage
  have hauth := congrArg Outputs.isAuthenticated
    (outputs_registered Hasher.poseidon 4 123 0 hage)
  have hrole : (4 : Fr) = rolePatient ∨ (4 : Fr) = roleDoctor ∨ (4 : Fr) = roleExpert :=
    (hall _ _ hs hs hauth hauth rfl rfl).2
  exact absurd hrole (by decide)

end Auth
