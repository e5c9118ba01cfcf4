import ZkpAuth.Circuits.AuthDecision

/-!
# The age decision as an integer comparison

`ageCheck = LessThan(32)` compares `requiredMinAge - 1` with `age` in the field.  Its documented
precondition, that both operands have 32 bits, is enforced nowhere in the circuit.  This file
computes for which ages the decision is nevertheless the comparison of the canonical integers.

The circuit only sees the distance `age - requiredMinAge`.  Its constraints are solvable on a window
of `2 ^ 33` distances around `0`, half of them read as sufficient, and the distances of the window
come from two kinds of operands: those that are close as integers, and those that are close only
across the modulus.

## Main definitions

* `Auth.Inputs.agesClose` — age and required age are at most `2 ^ 32` apart as integers.

## Main results

* `Auth.mem_ageInRange_iff` — the window in which the constraints are solvable.
* `Auth.adult_iff_le_iff` — on this window the comparison is right exactly for close ages.
* `Auth.isAdultPatient_exact_iff` — when the output of a satisfying assignment is right.
-/

set_option relaxedAutoImplicit false
set_option autoImplicit false

open Bn254 BitDecomposition

namespace Auth

/-- The ages differ by at most `2 ^ 32` as canonical integers. -/
def Inputs.agesClose (i : Inputs) : Prop :=
  i.age.val ≤ i.requiredMinAge.val + 2 ^ 32 ∧ i.requiredMinAge.val ≤ i.age.val + 2 ^ 32

/-! ## The window of the comparator -/

/-- The constraints are solvable when the distance is less than `2 ^ 32`, or at most `2 ^ 32` below
the modulus. -/
theorem mem_ageInRange_iff (i : Inputs) :
    i ∈ ageInRange ↔ (i.age - i.requiredMinAge).val < 2 ^ 32 ∨
      r ≤ (i.age - i.requiredMinAge).val + 2 ^ 32 := by
  have hr := two_pow_253_le_r
  have hd := ZMod.val_lt (i.age - i.requiredMinAge)
  have hval : ((2 ^ 32 - 1 : ℕ) : Fr).val = 2 ^ 32 - 1 := ZMod.val_cast_of_lt (by omega)
  have hshift : i.requiredMinAge - 1 - i.age + 2 ^ 32 =
      ((2 ^ 32 - 1 : ℕ) : Fr) - (i.age - i.requiredMinAge) := by
    rw [Nat.cast_sub (by norm_num)]
    push_cast
    ring
  change (i.requiredMinAge - 1 - i.age + 2 ^ 32).val < 2 ^ 33 ↔ _
  rw [hshift, val_sub_eq, hval]
  split <;> omega

/-- The distance is sufficient for two kinds of ages: the age is at least the required one, by less
than `2 ^ 32`, or it is smaller by more than the modulus less `2 ^ 32`. -/
lemma adult_iff (i : Inputs) :
    i.adult ↔ (i.requiredMinAge.val ≤ i.age.val ∧ i.age.val < i.requiredMinAge.val + 2 ^ 32) ∨
      r + i.age.val < i.requiredMinAge.val + 2 ^ 32 := by
  have hr := two_pow_253_le_r
  have hage := ZMod.val_lt i.age
  have hmin := ZMod.val_lt i.requiredMinAge
  change (i.age - i.requiredMinAge).val < 2 ^ 32 ↔ _
  rw [val_sub_eq]
  split <;> omega

/-- **On the window the comparison is right exactly for close ages.** -/
theorem adult_iff_le_iff {i : Inputs} (hi : i ∈ ageInRange) :
    (i.adult ↔ i.requiredMinAge.val ≤ i.age.val) ↔ i.agesClose := by
  have hr := two_pow_253_le_r
  have hage := ZMod.val_lt i.age
  have hmin := ZMod.val_lt i.requiredMinAge
  have hrange := (mem_ageInRange_iff i).mp hi
  rw [val_sub_eq] at hrange
  rw [adult_iff, Inputs.agesClose]
  split at hrange <;> omega

/-! ## The output of the circuit -/

/-- **When the age decision is the integer comparison.** In a satisfying assignment
`isAdultPatient` compares the canonical integers exactly when the role is not the patient's or the
ages are close.  The operands that break it satisfy the constraints because their distance is small
modulo the field only. -/
theorem isAdultPatient_exact_iff {P : Hasher} (s : Signals P) (h : Constraints s) :
    (s.isAdultPatient = 1 ↔ s.role = rolePatient ∧ s.requiredMinAge.val ≤ s.age.val) ↔
      (s.role = rolePatient → s.age.val ≤ s.requiredMinAge.val + 2 ^ 32 ∧
        s.requiredMinAge.val ≤ s.age.val + 2 ^ 32) := by
  have hwindow := adult_iff_le_iff h.mem_ageInRange
  rw [h.isAdultPatient_eq_one_iff]
  by_cases hrole : s.role = rolePatient
  · simpa [hrole, Inputs.agesClose] using hwindow
  · simp [hrole]

/-- A patient of the given age who asks for the attribute under the given policy. -/
def patientRequest (age requiredMinAge : Fr) : Inputs where
  requiredSpecialty := 0
  requiredMinAge := requiredMinAge
  role := rolePatient
  password := 0
  secretLicense := 0
  age := age
  expertSpecialty := 0
  storedRoleHash := 0
  storedPwdHash := 0
  storedLicenseHash := 0

/-- A patient of 20 years under the policy of 18 years is shown to be an adult patient. -/
theorem isAdultPatient_exact_adult :
    (compute Hasher.poseidon (patientRequest (20 : ℕ) (18 : ℕ))).isAdultPatient = 1 ↔
      (patientRequest (20 : ℕ) (18 : ℕ)).role = rolePatient ∧
        (patientRequest (20 : ℕ) (18 : ℕ)).requiredMinAge.val ≤
          (patientRequest (20 : ℕ) (18 : ℕ)).age.val :=
  (isAdultPatient_exact_iff (compute Hasher.poseidon (patientRequest (20 : ℕ) (18 : ℕ)))
    (constraints_compute _ (mem_ageInRange_of_lt (by decide) (by decide)))).mpr
      fun _ => ⟨by decide, by decide⟩

/-- A patient of age `0` satisfies the required age `p - 1`: the two are at distance `1` across the
modulus. -/
theorem newborn_isAdultPatient :
    Constraints (compute Hasher.poseidon (patientRequest 0 (-1))) ∧
      ¬((compute Hasher.poseidon (patientRequest 0 (-1))).isAdultPatient = 1 ↔
        (patientRequest 0 (-1)).role = rolePatient ∧
          (patientRequest 0 (-1)).requiredMinAge.val ≤ (patientRequest 0 (-1)).age.val) := by
  have hs : Constraints (compute Hasher.poseidon (patientRequest 0 (-1))) :=
    constraints_compute _ ((mem_ageInRange_iff _).mpr (.inl (by decide)))
  refine ⟨hs, fun hiff => ?_⟩
  have hadult : (patientRequest 0 (-1)).adult := (adult_iff _).mpr (.inr (by decide))
  have hle := (hiff.mp (hs.isAdultPatient_eq_one_iff.mpr ⟨rfl, hadult⟩)).2
  exact absurd hle (by decide)

end Auth
