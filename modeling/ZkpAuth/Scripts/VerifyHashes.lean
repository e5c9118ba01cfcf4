import ZkpAuth.Circuits.PublicStatement

/-!
# The hash script against the circuit

`scripts/verify_hashes.js` computes the three stored hashes of an account from a role and two
strings, and tells the user to copy them into `input.json`.  The witness calculator reads the
strings of `input.json` as decimal numbers.  This file states both readings of a string and
compares the hashes that the script computes with those that `Auth` computes.

The script hashes the list of the character codes, the circuit hashes the value.  For a string of
digits these are never the same list, so with a hash function that separates the two lists the
check of the stored hash fails on every such string.

## Main definitions

* `JsString`, `arrayFrom`, `stringToArray` — JavaScript strings and the encoding of the script.
* `VerifyHashes.poseidon`, `VerifyHashes.main` — the script.
* `DecimalSecret` — a secret of 1 to 16 digits, with its character codes and its value.

## Main results

* `stringToArray_eq_self` — outside the surrogates the encoding returns the code units.
* `DecimalSecret.codes_ne_value` — the two readings of a secret differ.
* `VerifyHashes.computed_checks_fail` — what the circuit says to the hashes of the script.
-/

set_option relaxedAutoImplicit false
set_option autoImplicit false

open Bn254 BitDecomposition

/-! ## JavaScript strings -/

/-- A JavaScript string: its UTF-16 code units. -/
abbrev JsString := List UInt16

/-- A leading surrogate. -/
def isHighSurrogate (u : UInt16) : Prop := 0xD800 ≤ u.toNat ∧ u.toNat ≤ 0xDBFF

/-- A trailing surrogate. -/
def isLowSurrogate (u : UInt16) : Prop := 0xDC00 ≤ u.toNat ∧ u.toNat ≤ 0xDFFF

/-- High surrogates are decided by bounds. -/
instance (u : UInt16) : Decidable (isHighSurrogate u) := inferInstanceAs (Decidable (_ ∧ _))

/-- Low surrogates are decided by bounds. -/
instance (u : UInt16) : Decidable (isLowSurrogate u) := inferInstanceAs (Decidable (_ ∧ _))

/-- A string with at least one code unit, as the string iterator yields them. -/
structure JsChar where
  /-- The code units. -/
  units : JsString
  /-- There is one. -/
  length_pos : 0 < units.length

/-- `Array.from(str)`: the iterator takes a surrogate pair as one element and every other code
unit as an element of its own. -/
def arrayFrom : JsString → List JsChar
  | [] => []
  | [u] => [⟨[u], Nat.one_pos⟩]
  | u :: v :: str =>
    if isHighSurrogate u ∧ isLowSurrogate v then ⟨[u, v], Nat.two_pos⟩ :: arrayFrom str
    else ⟨[u], Nat.one_pos⟩ :: arrayFrom (v :: str)

/-- `c.charCodeAt(0)`: the first code unit. -/
def JsChar.charCodeAtZero (c : JsChar) : UInt16 := c.units.get ⟨0, c.length_pos⟩

/-- `stringToArray`. -/
def stringToArray (str : JsString) : List UInt16 := (arrayFrom str).map JsChar.charCodeAtZero

/-- Without surrogates, the script's encoding of a string is its list of code units. -/
theorem stringToArray_eq_self (str : JsString) (h : ∀ u ∈ str, ¬isHighSurrogate u) :
    stringToArray str = str := by
  fun_induction arrayFrom str with
  | case1 => rfl
  | case2 u => rfl
  | case3 u v str hpair _ => exact absurd hpair.1 (h u List.mem_cons_self)
  | case4 u v str hpair ih =>
    have htail : stringToArray (v :: str) = v :: str :=
      ih fun w hw => h w (List.mem_cons_of_mem u hw)
    rw [stringToArray, arrayFrom, if_neg hpair, List.map_cons]
    exact congrArg (u :: ·) htail

/-! ## The script -/

namespace VerifyHashes

/-- The script's `testValues`. -/
structure TestValues where
  role : ℕ
  password : JsString
  license : JsString

/-- The script's `computed`. -/
structure Computed where
  roleHash : Fr
  pwdHash : Fr
  licenseHash : Fr

/-- `poseidon(arr)` of circomlibjs, with the state `0` and one output.  The permutation is the
parameter `out`. -/
def poseidon (out : List Fr → Fr) (arr : List ℕ) : Except String Fr :=
  if arr.length < 1 ∨ 16 < arr.length then .error "Invalid poseidon size"
  else .ok (out (arr.map (Nat.cast : ℕ → Fr)))

/-- `poseidon(stringToArray(str))`. -/
def secretHash (out : List Fr → Fr) (str : JsString) : Except String Fr :=
  poseidon out ((stringToArray str).map UInt16.toNat)

/-- The hashes that `main` computes and tells the user to copy. -/
def main (out : List Fr → Fr) (testValues : TestValues) : Except String Computed := do
  let roleHash ← poseidon out [testValues.role]
  let pwdHash ← secretHash out testValues.password
  let licenseHash ← secretHash out testValues.license
  return { roleHash := roleHash, pwdHash := pwdHash, licenseHash := licenseHash }

end VerifyHashes

/-! ## Secrets of decimal digits -/

/-- A password or a licence of 1 to 16 decimal digits. -/
structure DecimalSecret where
  /-- The string. -/
  units : JsString
  /-- Every code unit is a digit. -/
  digits : ∀ u ∈ units, 0x30 ≤ u.toNat ∧ u.toNat ≤ 0x39
  /-- The string is not empty. -/
  length_pos : 0 < units.length
  /-- The string has at most 16 digits. -/
  length_le : units.length ≤ 16

namespace DecimalSecret

variable (s : DecimalSecret)

/-- `BigInt(str)`: the value that the witness calculator gives to the input signal. -/
def value : ℕ := s.units.foldl (fun n u => 10 * n + (u.toNat - 0x30)) 0

/-- The list that the script hashes. -/
def codes : List Fr := s.units.map fun u => (u.toNat : Fr)

/-- On digits the script's encoding is the list of code units. -/
lemma stringToArray_units : stringToArray s.units = s.units := by
  refine stringToArray_eq_self s.units fun u hu hhigh => ?_
  have hdigit := (s.digits u hu).2
  have hlow := hhigh.1
  omega

/-- **The script and the circuit never hash the same list.** Two lists of one element would be
needed, and the code of a digit is its value plus 48. -/
theorem codes_ne_value : s.codes ≠ [(s.value : Fr)] := by
  intro heq
  obtain ⟨u, hunits, hcode⟩ := List.map_eq_singleton_iff.mp heq
  have hvalue : s.value = u.toNat - 0x30 := by
    rw [value, hunits]
    exact Nat.zero_add _
  obtain ⟨hlow, hhigh⟩ := s.digits u (hunits ▸ List.mem_singleton_self u)
  have hr : 2 ^ 16 < r := two_pow_253_le_r.trans_lt' (by norm_num)
  have hval := congrArg ZMod.val hcode
  rw [hvalue, ZMod.val_cast_of_lt (by omega), ZMod.val_cast_of_lt (by omega)] at hval
  omega

end DecimalSecret

namespace VerifyHashes

/-- The script computes a hash of every secret of digits: its length is admitted. -/
lemma secretHash_units (out : List Fr → Fr) (s : DecimalSecret) :
    secretHash out s.units = .ok (out s.codes) := by
  have hlength := s.length_pos
  have hlength' := s.length_le
  rw [secretHash, s.stringToArray_units, poseidon, List.length_map, if_neg (by omega),
    List.map_map]
  rfl

/-- The script's hashes for two secrets of digits. -/
lemma main_units (out : List Fr → Fr) (role : ℕ) (password license : DecimalSecret) :
    main out ⟨role, password.units, license.units⟩ =
      .ok ⟨out [(role : Fr)], out password.codes, out license.codes⟩ := by
  rw [main, secretHash_units, secretHash_units]
  rfl

end VerifyHashes

/-! ## What the circuit says to the hashes of the script -/

namespace Auth

/-- The signals of a run of `Auth`: a satisfying assignment, or what the witness computation puts
on the signals, also where it then stops at the age comparison. -/
def IsRun {P : Hasher} (w : Signals P) : Prop := Constraints w ∨ w = compute P w.toInputs

/-- A hash component and the equality test behind it decide whether a value has a given hash. -/
lemma Hashes.check_out {P : Hasher} {hasher : P.Signals} {check : RoleEquality.Signals}
    {a stored : Fr} (h : Hashes P hasher a)
    (htest : Tests check (P.template.output hasher) stored) :
    check.out = toField (decide (P.H a = stored)) := by
  rw [htest.out_eq, h.output_eq]

section Run

variable {P : Hasher} {w : Signals P} (h : IsRun w)

include h

/-- `checkRoleHash` of a run. -/
lemma IsRun.checkRoleHash_out :
    w.checkRoleHash.out = toField (decide (P.H w.role = w.storedRoleHash)) := by
  rcases h with h | h
  · exact h.roleHasher.check_out h.checkRoleHash
  · rw [h]
    exact (hashes_compute P _).check_out (tests_compute _ _)

/-- `checkPwdHash` of a run. -/
lemma IsRun.checkPwdHash_out :
    w.checkPwdHash.out = toField (decide (P.H w.password = w.storedPwdHash)) := by
  rcases h with h | h
  · exact h.pwdHasher.check_out h.checkPwdHash
  · rw [h]
    exact (hashes_compute P _).check_out (tests_compute _ _)

/-- `checkLicense` of a run. -/
lemma IsRun.checkLicense_out :
    w.checkLicense.out = toField (decide (P.H w.secretLicense = w.storedLicenseHash)) := by
  rcases h with h | h
  · exact h.licenseHasher.check_out h.checkLicense
  · rw [h]
    exact (hashes_compute P _).check_out (tests_compute _ _)

/-- `isDoctor` of a run. -/
lemma IsRun.isDoctor_out : w.isDoctor = toField (decide (w.role = roleDoctor)) := by
  rcases h with h | h
  · exact h.isDoctor
  · rw [h]
    exact (tests_compute _ _).out_eq

/-- How `isAuthenticated` of a run combines the four tests. -/
theorem IsRun.isAuthenticated_eq : w.isAuthenticated =
    w.checkRoleHash.out * w.checkPwdHash.out *
      (1 - w.isDoctor + w.isDoctor * w.checkLicense.out) := by
  rcases h with h | h
  · rw [h.isAuthenticated_eq, h.rolePwdValid_eq, h.doctorCheck_eq, h.isLicensed_eq,
      h.licenseValid_eq]
  · rw [h]
    rfl

/-- A run with a wrong password hash is not authenticated. -/
lemma IsRun.isAuthenticated_of_pwd (hpwd : w.checkPwdHash.out = 0) : w.isAuthenticated = 0 := by
  rw [h.isAuthenticated_eq, hpwd, mul_zero, zero_mul]

/-- A doctor's run with a wrong licence hash is not authenticated. -/
lemma IsRun.isAuthenticated_of_license (hlicense : w.checkLicense.out = 0)
    (hrole : w.role = roleDoctor) : w.isAuthenticated = 0 := by
  have hdoctor : w.isDoctor = 1 := by
    rw [h.isDoctor_out]
    exact (toField_decide_eq_one _).mpr hrole
  rw [h.isAuthenticated_eq, hlicense, hdoctor]
  ring

end Run

end Auth

namespace VerifyHashes

variable {P : Hasher} {out : List Fr → Fr}

/-- The permutation is injective on the two lists into which a secret is read. -/
def SeparatesReadings (out : List Fr → Fr) (s : DecimalSecret) : Prop :=
  Set.InjOn out {s.codes, [(s.value : Fr)]}

/-- The script's hash of a secret is not the circuit's. -/
lemma SeparatesReadings.H_value_ne {s : DecimalSecret} (hs : SeparatesReadings out s)
    (hposeidon : ∀ x : Fr, out [x] = P.H x) : P.H (s.value : Fr) ≠ out s.codes := by
  intro heq
  rw [← hposeidon] at heq
  exact s.codes_ne_value (hs (.inl rfl) (.inr rfl) heq.symm)

/-- **The hashes of the script fail the checks of the circuit.** Let the script run on a role and
two secrets of digits.  Its role hash passes the check of that role.  Its password hash fails the
check of that password, on every run of the circuit, and the run is not authenticated; its licence
hash fails the check of that licence, and a doctor's run is not authenticated. -/
theorem computed_checks_fail (hposeidon : ∀ x : Fr, out [x] = P.H x) (role : ℕ)
    (password license : DecimalSecret) (hpassword : SeparatesReadings out password)
    (hlicense : SeparatesReadings out license) :
    ∃ computed : Computed,
      main out ⟨role, password.units, license.units⟩ = .ok computed ∧
      ∀ w : Auth.Signals P, Auth.IsRun w →
        (w.role = role → w.storedRoleHash = computed.roleHash → w.checkRoleHash.out = 1) ∧
        (w.password = password.value → w.storedPwdHash = computed.pwdHash →
          w.checkPwdHash.out = 0 ∧ w.isAuthenticated = 0) ∧
        (w.secretLicense = license.value → w.storedLicenseHash = computed.licenseHash →
          w.checkLicense.out = 0 ∧ (w.role = roleDoctor → w.isAuthenticated = 0)) := by
  refine ⟨_, main_units out role password license, fun w hw => ⟨?_, ?_, ?_⟩⟩
  · intro hvalue hstored
    rw [hw.checkRoleHash_out, hvalue, hstored]
    exact (toField_decide_eq_one _).mpr (hposeidon _).symm
  · intro hvalue hstored
    have hout : w.checkPwdHash.out = 0 := by
      rw [hw.checkPwdHash_out, hvalue, hstored]
      exact (toField_decide_eq_zero _).mpr (hpassword.H_value_ne hposeidon)
    exact ⟨hout, hw.isAuthenticated_of_pwd hout⟩
  · intro hvalue hstored
    have hout : w.checkLicense.out = 0 := by
      rw [hw.checkLicense_out, hvalue, hstored]
      exact (toField_decide_eq_zero _).mpr (hlicense.H_value_ne hposeidon)
    exact ⟨hout, hw.isAuthenticated_of_license hout⟩

/-- The one-digit secret `"7"`. -/
def seven : DecimalSecret where
  units := [0x37]
  digits := List.forall_mem_singleton.mpr (by decide)
  length_pos := by decide
  length_le := by decide

/-- The permutation of one input, on the first element of a list. -/
def headHash (arr : List Fr) : Fr := Poseidon.H (arr.headD 0)

/-- The hashes of the code `55` and of the value `7` differ. -/
lemma separatesReadings_seven : SeparatesReadings headHash seven := by
  have hne : Poseidon.H 55 ≠ Poseidon.H 7 := by decide +kernel
  have hcodes : headHash seven.codes ≠ headHash [(seven.value : Fr)] := hne
  rintro _ (rfl | rfl) _ (rfl | rfl) heq
  · rfl
  · exact absurd heq hcodes
  · exact absurd heq.symm hcodes
  · rfl

/-- A patient with the password and the licence `"7"` who copies the hashes of the script. -/
def sevenInputs : Auth.Inputs :=
  { Auth.registered Poseidon.H rolePatient (7 : ℕ) (7 : ℕ) (20 : ℕ) with
    storedPwdHash := Poseidon.H (55 : ℕ)
    storedLicenseHash := Poseidon.H (55 : ℕ) }

/-- The run of that patient: the password hash fails its check. -/
theorem computed_checks_fail_seven :
    (Auth.compute Hasher.poseidon sevenInputs).checkPwdHash.out = 0 ∧
      (Auth.compute Hasher.poseidon sevenInputs).isAuthenticated = 0 := by
  have hposeidon : ∀ x : Fr, headHash [x] = Hasher.poseidon.H x := fun _ => rfl
  obtain ⟨computed, hmain, hruns⟩ := computed_checks_fail hposeidon 1 seven seven
    separatesReadings_seven separatesReadings_seven
  obtain rfl := Except.ok.inj ((main_units headHash 1 seven seven).symm.trans hmain)
  exact (hruns _ (.inr rfl)).2.1 rfl rfl

/-- The script and the circuit do not agree: the patient with the password `"7"` has a satisfying
assignment with the script's hash, and its check fails. -/
theorem computed_checks_not_pass :
    ¬∀ s : DecimalSecret, SeparatesReadings headHash s →
      ∀ h : Fr, secretHash headHash s.units = .ok h →
      ∀ w : Auth.Signals Hasher.poseidon, Auth.Constraints w →
        Poseidon.H w.role = w.storedRoleHash →
        w.password = s.value → w.storedPwdHash = h → w.checkPwdHash.out = 1 := by
  intro hall
  have hw : Auth.Constraints (Auth.compute Hasher.poseidon sevenInputs) :=
    Auth.constraints_compute _ (Auth.mem_ageInRange_of_lt (by decide) (by decide))
  have hrun : Auth.IsRun (Auth.compute Hasher.poseidon sevenInputs) := .inl hw
  have hpass := hall seven separatesReadings_seven _ (secretHash_units headHash seven) _ hw
    rfl rfl rfl
  rw [hrun.checkPwdHash_out] at hpass
  have hne : Poseidon.H 7 ≠ Poseidon.H 55 := by decide +kernel
  exact hne ((toField_decide_eq_one _).mp hpass)

end VerifyHashes
