import ZkpAuth.Circuits.Auth

/-!
# The decision that the authentication circuit computes

What `Auth` is for, stated without field arithmetic: from a request (a role, secrets, attributes)
and an account record (the stored hashes) it decides five questions.  The circuit implements this
decision exactly on the inputs whose age difference fits its comparator.

## Main definitions

* `Auth.Decision`, `Auth.decision` — the five answers as Booleans.
* `Auth.ageInRange` — the inputs for which the constraints are solvable.

## Main results

* `Auth.implements` — the circuit implements `decision` on `ageInRange`.
* `Auth.outputs_eq_decision` — the outputs of every satisfying assignment, written out.
* `Auth.solvable_iff_inRange` — solvability, success of the witness computation and the range
  condition are one condition.
-/

set_option relaxedAutoImplicit false
set_option autoImplicit false

open Bn254 BitDecomposition

namespace Auth

/-! ## The decision -/

/-- The five answers of an authentication request. -/
@[ext]
structure Decision where
  isAuthenticated : Bool
  isDoctor : Bool
  isExpert : Bool
  canRequestExpert : Bool
  isAdultPatient : Bool
  deriving DecidableEq

/-- The answers as signal values. -/
def Outputs.ofDecision (d : Decision) : Outputs where
  isAuthenticated := toField d.isAuthenticated
  isDoctor := toField d.isDoctor
  isExpert := toField d.isExpert
  canRequestExpert := toField d.canRequestExpert
  isAdultPatient := toField d.isAdultPatient

/-- The secret licence hashes to the stored one. -/
def Inputs.licensed (H : Fr → Fr) (i : Inputs) : Prop := H i.secretLicense = i.storedLicenseHash

/-- The age exceeds the required one by less than `2³²`, modulo the field. -/
def Inputs.adult (i : Inputs) : Prop := (i.age - i.requiredMinAge).val < 2 ^ 32

/-- The licence is decided by an equality. -/
instance (H : Fr → Fr) (i : Inputs) : Decidable (i.licensed H) :=
  inferInstanceAs (Decidable (_ = _))

/-- The age is decided by a comparison. -/
instance (i : Inputs) : Decidable i.adult := inferInstanceAs (Decidable (_ < _))

/-- The decision on a request, for the hash function `H`. -/
def decision (H : Fr → Fr) (i : Inputs) : Decision where
  isAuthenticated := decide (H i.role = i.storedRoleHash ∧ H i.password = i.storedPwdHash ∧
    (i.role = roleDoctor → i.licensed H))
  isDoctor := decide (i.role = roleDoctor)
  isExpert := decide (i.role = roleExpert)
  canRequestExpert := decide (i.role = roleDoctor ∧ i.licensed H ∧
    i.expertSpecialty = i.requiredSpecialty)
  isAdultPatient := decide (i.role = rolePatient ∧ i.adult)

/-- The inputs whose age difference fits the 33 bits of the comparator. -/
def ageInRange : Set Inputs :=
  {i | (i.requiredMinAge - 1 - i.age + (2 ^ 32 : ℕ)).val < 2 ^ 33}

/-! ## Reading the comparator -/

/-- Reflecting `[0, N)` inside the field: `N - 1 - x` is below `N` exactly when `x` is. -/
lemma val_sub_lt_iff {N : ℕ} (hN : N ≤ r) (x : Fr) :
    (((N - 1 : ℕ) : Fr) - x).val < N ↔ x.val < N := by
  have hx := ZMod.val_lt x
  rw [val_sub_eq, ZMod.val_cast_of_lt (by omega)]
  split <;> omega

/-- The value that `ageCheck` decomposes. -/
lemma shifted_age (i : Inputs) :
    LessThan.shifted 32 ![i.requiredMinAge - 1, i.age] =
      i.requiredMinAge - 1 - i.age + 2 ^ 32 := by
  have h32 : ((1 <<< 32 : ℕ) : Fr) = 2 ^ 32 := by
    rw [Nat.one_shiftLeft, Nat.cast_pow, Nat.cast_ofNat]
  simp only [LessThan.shifted, Matrix.cons_val_zero, Matrix.cons_val_one, h32]
  ring

/-- The comparator says that the age is sufficient. -/
lemma shifted_age_lt_iff (i : Inputs) :
    (LessThan.shifted 32 ![i.requiredMinAge - 1, i.age]).val < 2 ^ 32 ↔ i.adult := by
  have hsub : LessThan.shifted 32 ![i.requiredMinAge - 1, i.age] =
      ((2 ^ 32 - 1 : ℕ) : Fr) - (i.age - i.requiredMinAge) := by
    rw [shifted_age, Nat.cast_sub (by norm_num)]
    push_cast
    ring
  rw [hsub, val_sub_lt_iff (by norm_num [r])]
  rfl

/-! ## The circuit implements the decision -/

section Outputs

variable {P : Hasher} {s : Signals P} (h : Constraints s)

include h

/-- `isDoctor` of a satisfying assignment. -/
theorem Constraints.isDoctor : s.isDoctor = toField (decide (s.role = roleDoctor)) := by
  rw [h.isDoctor_eq, h.checkDoctor.out_eq]

/-- `isExpert` of a satisfying assignment. -/
theorem Constraints.isExpert : s.isExpert = toField (decide (s.role = roleExpert)) := by
  rw [h.isExpert_eq, h.checkExpert.out_eq]

/-- `isLicensed` of a satisfying assignment. -/
theorem Constraints.isLicensed : s.isLicensed =
    toField (decide (s.role = roleDoctor) && decide (s.licensed P.H)) := by
  rw [h.isLicensed_eq, h.isDoctor, h.licenseValid_eq, h.checkLicense.out_eq,
    h.licenseHasher.output_eq, toField_mul_toField]
  rfl

/-- The inputs of the comparator. -/
lemma Constraints.ageCheck_inp : s.ageCheck.inp = ![s.requiredMinAge - 1, s.age] := by
  funext j
  fin_cases j
  · exact h.ageCheck_inp_zero
  · exact h.ageCheck_inp_one

/-- A satisfying assignment has its age difference in range. -/
theorem Constraints.mem_ageInRange : s.toInputs ∈ ageInRange := by
  have hmem := (LessThan.implements (by norm_num)
    (two_pow_253_le_r.trans' (by norm_num))).input_mem _ h.ageCheck
  change (LessThan.shifted 32 s.ageCheck.inp).val < 2 ^ 33 at hmem
  rwa [h.ageCheck_inp, shifted_age] at hmem

/-- `isAdultPatient` of a satisfying assignment. -/
theorem Constraints.isAdultPatient : s.isAdultPatient =
    toField (decide (s.role = rolePatient) && decide s.adult) := by
  have hout := (LessThan.implements (by norm_num)
    (two_pow_253_le_r.trans' (by norm_num))).output_eq _ h.ageCheck
  change s.ageCheck.out =
    toField (decide ((LessThan.shifted 32 s.ageCheck.inp).val < 2 ^ 32)) at hout
  rw [h.ageCheck_inp, decide_eq_decide.mpr (shifted_age_lt_iff s.toInputs)] at hout
  rw [h.isAdultPatient_eq, h.isPatient_eq, h.checkPatient.out_eq, hout, toField_mul_toField]

/-- `canRequestExpert` of a satisfying assignment. -/
theorem Constraints.canRequestExpert : s.canRequestExpert =
    toField (decide (s.role = roleDoctor) && decide (s.licensed P.H) &&
      decide (s.expertSpecialty = s.requiredSpecialty)) := by
  rw [h.canRequestExpert_eq, h.isLicensed, h.checkSpecialty.out_eq, toField_mul_toField]

/-- `rolePwdValid` of a satisfying assignment. -/
theorem Constraints.rolePwdValid : s.rolePwdValid =
    toField (decide (P.H s.role = s.storedRoleHash) &&
      decide (P.H s.password = s.storedPwdHash)) := by
  rw [h.rolePwdValid_eq, h.checkRoleHash.out_eq, h.checkPwdHash.out_eq, h.roleHasher.output_eq,
    h.pwdHasher.output_eq, toField_mul_toField]

/-- `isAuthenticated` of a satisfying assignment: `doctorCheck` encodes an implication. -/
theorem Constraints.isAuthenticated : s.isAuthenticated =
    toField (decide (P.H s.role = s.storedRoleHash) && decide (P.H s.password = s.storedPwdHash) &&
      (!decide (s.role = roleDoctor) || decide (s.licensed P.H))) := by
  rw [h.isAuthenticated_eq, h.rolePwdValid, h.doctorCheck_eq, h.isDoctor, h.isLicensed,
    one_sub_toField_add, toField_mul_toField]

/-- The outputs of a satisfying assignment are the decision on its inputs. -/
theorem Constraints.toOutputs_eq : s.toOutputs = .ofDecision (decision P.H s.toInputs) := by
  apply Outputs.ext
  · simp only [Outputs.ofDecision, decision, h.isAuthenticated, Bool.decide_and, imp_iff_not_or,
      Bool.decide_or, decide_not, Bool.and_assoc]
  · exact h.isDoctor
  · exact h.isExpert
  · simp only [Outputs.ofDecision, decision, h.canRequestExpert, Bool.decide_and, Bool.and_assoc]
  · simp only [Outputs.ofDecision, decision, h.isAdultPatient, Bool.decide_and]

/-- When a satisfying assignment shows a doctor. -/
theorem Constraints.isDoctor_eq_one_iff : s.isDoctor = 1 ↔ s.role = roleDoctor := by
  rw [h.isDoctor, toField_decide_eq_one]

/-- When a satisfying assignment shows an expert. -/
theorem Constraints.isExpert_eq_one_iff : s.isExpert = 1 ↔ s.role = roleExpert := by
  rw [h.isExpert, toField_decide_eq_one]

/-- When a satisfying assignment shows the right to request an expert. -/
theorem Constraints.canRequestExpert_eq_one_iff : s.canRequestExpert = 1 ↔
    s.role = roleDoctor ∧ s.licensed P.H ∧ s.expertSpecialty = s.requiredSpecialty := by
  rw [congrArg Outputs.canRequestExpert h.toOutputs_eq]
  exact toField_decide_eq_one _

/-- When a satisfying assignment shows an adult patient. -/
theorem Constraints.isAdultPatient_eq_one_iff :
    s.isAdultPatient = 1 ↔ s.role = rolePatient ∧ s.adult := by
  rw [congrArg Outputs.isAdultPatient h.toOutputs_eq]
  exact toField_decide_eq_one _

/-- When a satisfying assignment is authenticated. -/
theorem Constraints.isAuthenticated_eq_one_iff : s.isAuthenticated = 1 ↔
    P.H s.role = s.storedRoleHash ∧ P.H s.password = s.storedPwdHash ∧
      (s.role = roleDoctor → s.licensed P.H) := by
  rw [congrArg Outputs.isAuthenticated h.toOutputs_eq]
  exact toField_decide_eq_one _

end Outputs

/-- The witness computation succeeds when the age difference is in range. -/
theorem constraints_compute (P : Hasher) {i : Inputs} (hi : i ∈ ageInRange) :
    Constraints (compute P i) where
  roleHasher := hashes_compute P _
  pwdHasher := hashes_compute P _
  licenseHasher := hashes_compute P _
  checkDoctor := tests_compute _ _
  isDoctor_eq := rfl
  checkExpert := tests_compute _ _
  isExpert_eq := rfl
  checkPatient := tests_compute _ _
  isPatient_eq := rfl
  checkLicense := tests_compute _ _
  licenseValid_eq := rfl
  isLicensed_eq := rfl
  ageCheck := by
    refine (LessThan.implements (by norm_num)
      (two_pow_253_le_r.trans' (by norm_num))).constraints_compute _ ?_
    change (LessThan.shifted 32 ![i.requiredMinAge - 1, i.age]).val < 2 ^ 33
    rw [shifted_age]
    exact hi
  ageCheck_inp_zero := rfl
  ageCheck_inp_one := rfl
  isAdultPatient_eq := rfl
  checkSpecialty := tests_compute _ _
  canRequestExpert_eq := rfl
  checkRoleHash := tests_compute _ _
  checkPwdHash := tests_compute _ _
  rolePwdValid_eq := rfl
  doctorCheck_eq := rfl
  isAuthenticated_eq := rfl

/-- **The circuit implements the decision**, on the inputs whose age difference is in range and on
no others. -/
theorem implements (P : Hasher) :
    (template P).Implements ageInRange (fun i => .ofDecision (decision P.H i)) where
  input_compute _ := rfl
  input_mem _ h := h.mem_ageInRange
  output_eq _ h := h.toOutputs_eq
  constraints_compute _ hi := constraints_compute P hi

/-- Both operands of the age comparison in the documented 32-bit range are always in range. -/
theorem mem_ageInRange_of_lt {i : Inputs} (hmin : i.requiredMinAge.val < 2 ^ 32)
    (hage : i.age.val < 2 ^ 32) : i ∈ ageInRange := by
  have hcast : i.requiredMinAge - 1 - i.age + 2 ^ 32 =
      ((i.requiredMinAge.val + (2 ^ 32 - 1 - i.age.val) : ℕ) : Fr) := by
    rw [Nat.cast_add, Nat.cast_sub (show i.age.val ≤ 2 ^ 32 - 1 by omega),
      ZMod.natCast_zmod_val, ZMod.natCast_zmod_val]
    push_cast
    ring
  have hr : 2 ^ 33 ≤ r := two_pow_253_le_r.trans' (by norm_num)
  change (i.requiredMinAge - 1 - i.age + 2 ^ 32).val < 2 ^ 33
  rw [hcast, ZMod.val_cast_of_lt (by omega)]
  omega

/-! ## Soundness and completeness of the circuit -/

/-- **Soundness of `Auth`.** In every satisfying assignment, whatever hints the prover chose, the
outputs are the five decisions on the inputs. -/
theorem outputs_eq_decision {P : Hasher} (s : Signals P) (h : Constraints s) :
    s.isDoctor = (if s.role = 2 then 1 else 0) ∧
    s.isExpert = (if s.role = 3 then 1 else 0) ∧
    s.canRequestExpert = (if s.role = 2 ∧ P.H s.secretLicense = s.storedLicenseHash ∧
      s.expertSpecialty = s.requiredSpecialty then 1 else 0) ∧
    s.isAdultPatient =
      (if s.role = 1 ∧ (s.age - s.requiredMinAge).val < 2 ^ 32 then 1 else 0) ∧
    s.isAuthenticated = (if P.H s.role = s.storedRoleHash ∧ P.H s.password = s.storedPwdHash ∧
      (s.role = 2 → P.H s.secretLicense = s.storedLicenseHash) then 1 else 0) := by
  have hout := h.toOutputs_eq
  refine ⟨?_, ?_, ?_, ?_, ?_⟩
  · exact (congrArg Outputs.isDoctor hout).trans (toField_decide _)
  · exact (congrArg Outputs.isExpert hout).trans (toField_decide _)
  · exact (congrArg Outputs.canRequestExpert hout).trans (toField_decide _)
  · exact (congrArg Outputs.isAdultPatient hout).trans (toField_decide _)
  · exact (congrArg Outputs.isAuthenticated hout).trans (toField_decide _)

/-- The inputs of `circuits/input.json`. -/
def inputJson : Inputs where
  requiredSpecialty := 1
  requiredMinAge := (18 : ℕ)
  role := (2 : ℕ)
  password := (123 : ℕ)
  secretLicense := (12345 : ℕ)
  age := 0
  expertSpecialty := 1
  storedRoleHash :=
    (8645981980787649023086883978738420856660271013038108762834452721572614684349 : ℕ)
  storedPwdHash :=
    (5775628323081130438454880527680048092223951747502382549956825669758792159300 : ℕ)
  storedLicenseHash :=
    (20650512488001556873610955543498856263756526379783222319577031368320047076405 : ℕ)

/-- The input file has its ages in range. -/
theorem inputJson_mem_ageInRange : inputJson ∈ ageInRange :=
  mem_ageInRange_of_lt (by decide) (by decide)

/-- Soundness at the input file: the doctor of `circuits/input.json` is not authenticated, as in
`build/public.json`. -/
theorem outputs_eq_inputJson :
    Constraints (compute Hasher.poseidon inputJson) ∧
      (compute Hasher.poseidon inputJson).toOutputs = ⟨0, 1, 0, 0, 0⟩ := by
  have hs := constraints_compute Hasher.poseidon inputJson_mem_ageInRange
  obtain ⟨hdoctor, hexpert, hrequest, hadult, hauth⟩ := outputs_eq_decision _ hs
  have hlicense : Poseidon.H 12345 ≠ inputJson.storedLicenseHash := by decide +kernel
  have hpwd : Poseidon.H 123 ≠ inputJson.storedPwdHash := by decide +kernel
  refine ⟨hs, Outputs.ext ?_ ?_ ?_ ?_ ?_⟩
  · exact hauth.trans (if_neg fun hall => hpwd hall.2.1)
  · exact hdoctor.trans (if_pos rfl)
  · exact hexpert.trans (if_neg (show inputJson.role ≠ 3 by decide))
  · exact hrequest.trans (if_neg fun hall => hlicense hall.2.1)
  · exact hadult.trans (if_neg fun hall => absurd hall.1 (show inputJson.role ≠ 1 by decide))

/-- **Completeness of `Auth`.** For given inputs the following are one condition: the constraints
have a solution, the witness computation, which keeps the inputs, finds one, and the age difference
fits 33 bits, whatever the role is.  Ages of 32 bits always do. -/
theorem solvable_iff_inRange (P : Hasher) (i : Inputs) :
    (compute P i).toInputs = i ∧
    ((∃ s : Signals P, Constraints s ∧ s.toInputs = i) ↔ Constraints (compute P i)) ∧
    (Constraints (compute P i) ↔
      (i.requiredMinAge - 1 - i.age + 2 ^ 32).val < 2 ^ 33) ∧
    (i.requiredMinAge.val < 2 ^ 32 → i.age.val < 2 ^ 32 → Constraints (compute P i)) := by
  have hcompute : Constraints (compute P i) ↔ i ∈ ageInRange :=
    (implements P).constraints_compute_iff i
  refine ⟨rfl, ?_, hcompute, fun hmin hage => hcompute.mpr (mem_ageInRange_of_lt hmin hage)⟩
  exact ((implements P).solvable_iff i).trans hcompute.symm

end Auth
