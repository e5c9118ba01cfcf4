import ZkpAuth.Circomlib.Comparators
import ZkpAuth.Circomlib.PoseidonConstants

/-!
# The authentication circuit

`circuits/auth.circom`: the template `RoleEquality`, the template `Auth` with all its signals and
constraints, the witness computation, and the public signals of `main`.

`Auth` only uses its three `Poseidon(1)` components through their input and output, so it is stated
over any template that computes a function of one input (`Hasher`); circomlib's is
`Hasher.poseidon`.

## Main definitions

* `RoleEquality.template` — the equality test.
* `Hasher` — a template for `Poseidon(1)` with the function it computes.
* `Auth.Inputs`, `Auth.Outputs`, `Auth.Signals`, `Auth.Constraints`, `Auth.compute`,
  `Auth.template` — the circuit.
* `Auth.PublicSignals` — what a verifier sees.

## Main results

* `RoleEquality.implements` — the equality test decides equality.
-/

set_option relaxedAutoImplicit false
set_option autoImplicit false

open Bn254 BitDecomposition

/-! ## Role constants -/

/-- `ROLE_PATIENT()`. -/
def rolePatient : Fr := 1

/-- `ROLE_DOCTOR()`. -/
def roleDoctor : Fr := 2

/-- `ROLE_EXPERT()`. -/
def roleExpert : Fr := 3

/-! ## The equality test -/

namespace RoleEquality

/-- The signals of `RoleEquality`. -/
structure Signals where
  /-- The compared values. -/
  inp : Fin 2 → Fr
  /-- The decision. -/
  out : Fr
  /-- The component `isz = IsZero()`. -/
  isz : IsZero.Signals Fr

/-- The constraints of `RoleEquality`. -/
structure Constraints (s : Signals) : Prop where
  /-- The constraints of the component. -/
  isz : IsZero.Constraints s.isz
  /-- `in[1] - in[0] ==> isz.in`. -/
  isz_inp : s.isz.inp = s.inp 1 - s.inp 0
  /-- `isz.out ==> out`. -/
  out_eq : s.out = s.isz.out

/-- The witness computation of `RoleEquality`. -/
def compute (inp : Fin 2 → Fr) : Signals :=
  let isz := IsZero.compute (inp 1 - inp 0)
  { inp := inp, out := isz.out, isz := isz }

/-- `RoleEquality` as a template. -/
def template : Template (Fin 2 → Fr) Signals Fr where
  input := Signals.inp
  output := Signals.out
  Constraints := Constraints
  compute := compute

/-- **The equality test decides equality**, for every choice of the inverse hint. -/
theorem implements :
    template.Implements Set.univ (fun inp => toField (decide (inp 0 = inp 1))) where
  input_compute _ := rfl
  input_mem _ _ := Set.mem_univ _
  output_eq s h := by
    have hisz : s.isz.out = toField (decide (s.isz.inp = 0)) :=
      IsZero.implements.output_eq _ h.isz
    have hsub : s.inp 1 - s.inp 0 = 0 ↔ s.inp 0 = s.inp 1 := by rw [sub_eq_zero, eq_comm]
    change s.out = toField (decide (s.inp 0 = s.inp 1))
    rw [h.out_eq, hisz, h.isz_inp, decide_eq_decide.mpr hsub]
  constraints_compute _ _ :=
    ⟨IsZero.implements.constraints_compute _ (Set.mem_univ _), rfl, rfl⟩

/-- The output of a satisfied equality test. -/
lemma Constraints.out_eq_toField {s : Signals} (h : Constraints s) :
    s.out = toField (decide (s.inp 0 = s.inp 1)) :=
  implements.output_eq s h

end RoleEquality

/-! ## The hash component -/

/-- A template for `Poseidon(1)`: its constraints force its output to be a function `H` of its
input, and its witness computation always succeeds. -/
structure Hasher where
  /-- The signals of the template. -/
  Signals : Type
  /-- The template. -/
  template : Template (Fin 1 → Fr) Signals Fr
  /-- The function that it computes. -/
  H : Fr → Fr
  /-- It computes this function. -/
  implements : template.Implements Set.univ (fun inputs => H (inputs 0))

/-- The `Poseidon(1)` of circomlib implements the function `H`. -/
lemma Poseidon.implements_H : (Poseidon.template Poseidon.constants2).Implements Set.univ
    (fun inputs => Poseidon.H (inputs 0)) := by
  have hH : (fun inputs : Fin 1 → Fr => Poseidon.H (inputs 0)) =
      Poseidon.hash Poseidon.constants2 := by
    funext inputs
    rw [Poseidon.H]
    congr 1
    funext i
    rw [Subsingleton.elim i 0]
  rw [hH]
  exact Poseidon.implements Poseidon.constants2

/-- The `Poseidon(1)` of circomlib. -/
def Hasher.poseidon : Hasher where
  Signals := Poseidon.Signals Fr 1
  template := Poseidon.template Poseidon.constants2
  H := Poseidon.H
  implements := Poseidon.implements_H

/-! ## The circuit -/

namespace Auth

/-- The ten input signals of `Auth`. -/
structure Inputs where
  requiredSpecialty : Fr
  requiredMinAge : Fr
  role : Fr
  password : Fr
  secretLicense : Fr
  age : Fr
  expertSpecialty : Fr
  storedRoleHash : Fr
  storedPwdHash : Fr
  storedLicenseHash : Fr

/-- The five output signals of `Auth`. -/
@[ext]
structure Outputs where
  isAuthenticated : Fr
  isDoctor : Fr
  isExpert : Fr
  canRequestExpert : Fr
  isAdultPatient : Fr

/-- All signals of `Auth`: inputs, outputs, intermediate signals and components. -/
structure Signals (P : Hasher) extends Inputs, Outputs where
  roleHasher : P.Signals
  pwdHasher : P.Signals
  licenseHasher : P.Signals
  checkDoctor : RoleEquality.Signals
  checkExpert : RoleEquality.Signals
  checkPatient : RoleEquality.Signals
  isPatient : Fr
  checkLicense : RoleEquality.Signals
  licenseValid : Fr
  isLicensed : Fr
  ageCheck : LessThan.Signals r 32
  checkSpecialty : RoleEquality.Signals
  checkRoleHash : RoleEquality.Signals
  checkPwdHash : RoleEquality.Signals
  rolePwdValid : Fr
  doctorCheck : Fr

/-- A component `RoleEquality` is satisfied and its two inputs are wired to `a` and `b`. -/
structure Tests (s : RoleEquality.Signals) (a b : Fr) : Prop where
  /-- The constraints of the component. -/
  constraints : RoleEquality.Constraints s
  /-- `in[0] <== a`. -/
  inp_zero : s.inp 0 = a
  /-- `in[1] <== b`. -/
  inp_one : s.inp 1 = b

/-- A component `Poseidon(1)` is satisfied and its input is wired to `a`. -/
structure Hashes (P : Hasher) (s : P.Signals) (a : Fr) : Prop where
  /-- The constraints of the component. -/
  constraints : P.template.Constraints s
  /-- `inputs[0] <== a`. -/
  inputs_zero : P.template.input s 0 = a

/-- The constraints of `Auth`, in the order of the source. -/
structure Constraints {P : Hasher} (s : Signals P) : Prop where
  /-- `roleHasher.inputs[0] <== role`. -/
  roleHasher : Hashes P s.roleHasher s.role
  /-- `pwdHasher.inputs[0] <== password`. -/
  pwdHasher : Hashes P s.pwdHasher s.password
  /-- `licenseHasher.inputs[0] <== secretLicense`. -/
  licenseHasher : Hashes P s.licenseHasher s.secretLicense
  /-- `checkDoctor.in[0] <== role`, `checkDoctor.in[1] <== ROLE_DOCTOR()`. -/
  checkDoctor : Tests s.checkDoctor s.role roleDoctor
  /-- `isDoctor <== checkDoctor.out`. -/
  isDoctor_eq : s.isDoctor = s.checkDoctor.out
  /-- `checkExpert.in[0] <== role`, `checkExpert.in[1] <== ROLE_EXPERT()`. -/
  checkExpert : Tests s.checkExpert s.role roleExpert
  /-- `isExpert <== checkExpert.out`. -/
  isExpert_eq : s.isExpert = s.checkExpert.out
  /-- `checkPatient.in[0] <== role`, `checkPatient.in[1] <== ROLE_PATIENT()`. -/
  checkPatient : Tests s.checkPatient s.role rolePatient
  /-- `signal isPatient <== checkPatient.out`. -/
  isPatient_eq : s.isPatient = s.checkPatient.out
  /-- `checkLicense.in[0] <== licenseHasher.out`, `checkLicense.in[1] <== storedLicenseHash`. -/
  checkLicense : Tests s.checkLicense (P.template.output s.licenseHasher) s.storedLicenseHash
  /-- `signal licenseValid <== checkLicense.out`. -/
  licenseValid_eq : s.licenseValid = s.checkLicense.out
  /-- `signal isLicensed <== isDoctor * licenseValid`. -/
  isLicensed_eq : s.isLicensed = s.isDoctor * s.licenseValid
  /-- The constraints of `ageCheck = LessThan(32)`. -/
  ageCheck : LessThan.Constraints s.ageCheck
  /-- `ageCheck.in[0] <== requiredMinAge - 1`. -/
  ageCheck_inp_zero : s.ageCheck.inp 0 = s.requiredMinAge - 1
  /-- `ageCheck.in[1] <== age`. -/
  ageCheck_inp_one : s.ageCheck.inp 1 = s.age
  /-- `isAdultPatient <== isPatient * ageCheck.out`. -/
  isAdultPatient_eq : s.isAdultPatient = s.isPatient * s.ageCheck.out
  /-- `checkSpecialty.in[0] <== expertSpecialty`, `checkSpecialty.in[1] <== requiredSpecialty`. -/
  checkSpecialty : Tests s.checkSpecialty s.expertSpecialty s.requiredSpecialty
  /-- `canRequestExpert <== isLicensed * checkSpecialty.out`. -/
  canRequestExpert_eq : s.canRequestExpert = s.isLicensed * s.checkSpecialty.out
  /-- `checkRoleHash.in[0] <== roleHasher.out`, `checkRoleHash.in[1] <== storedRoleHash`. -/
  checkRoleHash : Tests s.checkRoleHash (P.template.output s.roleHasher) s.storedRoleHash
  /-- `checkPwdHash.in[0] <== pwdHasher.out`, `checkPwdHash.in[1] <== storedPwdHash`. -/
  checkPwdHash : Tests s.checkPwdHash (P.template.output s.pwdHasher) s.storedPwdHash
  /-- `signal rolePwdValid <== checkRoleHash.out * checkPwdHash.out`. -/
  rolePwdValid_eq : s.rolePwdValid = s.checkRoleHash.out * s.checkPwdHash.out
  /-- `signal doctorCheck <== 1 - isDoctor + isLicensed`. -/
  doctorCheck_eq : s.doctorCheck = 1 - s.isDoctor + s.isLicensed
  /-- `isAuthenticated <== rolePwdValid * doctorCheck`. -/
  isAuthenticated_eq : s.isAuthenticated = s.rolePwdValid * s.doctorCheck

/-- The witness computation of `Auth`: every signal by the assignment of the source. -/
def compute (P : Hasher) (i : Inputs) : Signals P :=
  let roleHasher := P.template.compute fun _ => i.role
  let pwdHasher := P.template.compute fun _ => i.password
  let licenseHasher := P.template.compute fun _ => i.secretLicense
  let checkDoctor := RoleEquality.compute ![i.role, roleDoctor]
  let checkExpert := RoleEquality.compute ![i.role, roleExpert]
  let checkPatient := RoleEquality.compute ![i.role, rolePatient]
  let checkLicense :=
    RoleEquality.compute ![P.template.output licenseHasher, i.storedLicenseHash]
  let isLicensed := checkDoctor.out * checkLicense.out
  let ageCheck := LessThan.compute ![i.requiredMinAge - 1, i.age]
  let checkSpecialty := RoleEquality.compute ![i.expertSpecialty, i.requiredSpecialty]
  let checkRoleHash := RoleEquality.compute ![P.template.output roleHasher, i.storedRoleHash]
  let checkPwdHash := RoleEquality.compute ![P.template.output pwdHasher, i.storedPwdHash]
  let rolePwdValid := checkRoleHash.out * checkPwdHash.out
  let doctorCheck := 1 - checkDoctor.out + isLicensed
  { i with
    isAuthenticated := rolePwdValid * doctorCheck
    isDoctor := checkDoctor.out
    isExpert := checkExpert.out
    canRequestExpert := isLicensed * checkSpecialty.out
    isAdultPatient := checkPatient.out * ageCheck.out
    roleHasher := roleHasher
    pwdHasher := pwdHasher
    licenseHasher := licenseHasher
    checkDoctor := checkDoctor
    checkExpert := checkExpert
    checkPatient := checkPatient
    isPatient := checkPatient.out
    checkLicense := checkLicense
    licenseValid := checkLicense.out
    isLicensed := isLicensed
    ageCheck := ageCheck
    checkSpecialty := checkSpecialty
    checkRoleHash := checkRoleHash
    checkPwdHash := checkPwdHash
    rolePwdValid := rolePwdValid
    doctorCheck := doctorCheck }

/-- `Auth` as a template. -/
def template (P : Hasher) : Template Inputs (Signals P) Outputs where
  input := Signals.toInputs
  output := Signals.toOutputs
  Constraints := Constraints
  compute := compute P

/-- The public signals of `main`, in the order in which proof and verifier exchange them: the
outputs, then the inputs listed under `public`. -/
@[ext]
structure PublicSignals where
  isAuthenticated : Fr
  isDoctor : Fr
  isExpert : Fr
  canRequestExpert : Fr
  isAdultPatient : Fr
  requiredSpecialty : Fr
  requiredMinAge : Fr

/-- The public signals of given inputs and outputs. -/
def publicOf (i : Inputs) (o : Outputs) : PublicSignals where
  isAuthenticated := o.isAuthenticated
  isDoctor := o.isDoctor
  isExpert := o.isExpert
  canRequestExpert := o.canRequestExpert
  isAdultPatient := o.isAdultPatient
  requiredSpecialty := i.requiredSpecialty
  requiredMinAge := i.requiredMinAge

/-- The public signals of an assignment. -/
def Signals.publicSignals {P : Hasher} (s : Signals P) : PublicSignals :=
  publicOf s.toInputs s.toOutputs

/-! ## What the components of a satisfying assignment output -/

/-- A wired equality test outputs whether its operands are equal. -/
theorem Tests.out_eq {s : RoleEquality.Signals} {a b : Fr} (h : Tests s a b) :
    s.out = toField (decide (a = b)) := by
  rw [h.constraints.out_eq_toField, h.inp_zero, h.inp_one]

/-- A wired hash component outputs the hash of its operand. -/
theorem Hashes.output_eq {P : Hasher} {s : P.Signals} {a : Fr} (h : Hashes P s a) :
    P.template.output s = P.H a := by
  rw [P.implements.output_eq s h.constraints, h.inputs_zero]

/-- The computed equality test is satisfied and wired. -/
theorem tests_compute (a b : Fr) : Tests (RoleEquality.compute ![a, b]) a b :=
  ⟨RoleEquality.implements.constraints_compute _ (Set.mem_univ _), rfl, rfl⟩

/-- The computed hash component is satisfied and wired. -/
theorem hashes_compute (P : Hasher) (a : Fr) : Hashes P (P.template.compute fun _ => a) a :=
  ⟨P.implements.constraints_compute _ (Set.mem_univ _), by rw [P.implements.input_compute]⟩

end Auth
