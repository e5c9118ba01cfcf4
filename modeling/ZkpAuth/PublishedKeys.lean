import ZkpAuth.Contracts.VerifierSpec
import ZkpAuth.Snarkjs.Groth16Verify

/-!
# The two published keys

`contracts/Verifier.sol` and `build/verification_key.json` publish the verification key of the
circuit.  This file compares their coordinates: they agree in every point but `delta`, and the
contract's `delta` is its `gamma`.

## Main results

* `Bn254.contract_gamma_eq_delta`, `Bn254.json_delta_ne` — the last point of each key.
* `Bn254.json_coordinates_eq` — all other points agree.
* `Bn254.KeyPoints.json_eq` — so the points behind the two keys agree up to `delta`.
-/

set_option relaxedAutoImplicit false
set_option autoImplicit false

namespace Bn254

/-- The constants `gamma` and `delta` of the contract are the same point. -/
theorem contract_gamma_eq_delta :
    Groth16Verifier.coordinates.gamma = Groth16Verifier.coordinates.delta := rfl

/-- The `delta` of the JSON key is another point. -/
theorem json_delta_ne :
    Groth16Verifier.coordinates.delta ≠ Snarkjs.verificationKeyJson.coordinates.delta := by
  decide

/-- The two keys have the same points up to `delta`: the contract writes the imaginary parts
first, the JSON file the real parts. -/
theorem json_coordinates_eq : Snarkjs.verificationKeyJson.coordinates =
    { Groth16Verifier.coordinates with
      delta := Snarkjs.verificationKeyJson.coordinates.delta } := by
  have hIC : ∀ i, Snarkjs.verificationKeyJson.coordinates.IC i =
      Groth16Verifier.coordinates.IC i := by decide
  exact KeyCoordinates.ext rfl rfl rfl rfl (funext hIC)

section Keys

variable {G₁ G₂ Gₜ : Type} [AddCommGroup G₁] [AddCommGroup G₂] [AddCommGroup Gₜ]
  {c : Curve G₁ G₂ Gₜ} (K : KeyPoints c Groth16Verifier.coordinates)
  (K' : KeyPoints c Snarkjs.verificationKeyJson.coordinates)

/-- Behind the contract's key, `gamma` and `delta` are one point. -/
theorem KeyPoints.contract_gamma_eq : K.gamma = K.delta :=
  K.gamma_eq_delta_iff.mpr contract_gamma_eq_delta

/-- The points behind the JSON key are those of the contract up to `delta`. -/
theorem KeyPoints.json_eq : K'.toKey = { K.toKey with delta := K'.delta } :=
  K.toKey_eq_with_delta K' json_coordinates_eq

/-- The last points behind the two keys differ. -/
theorem KeyPoints.json_delta_ne : K.delta ≠ K'.delta := by
  intro h
  apply Bn254.json_delta_ne
  rw [← K.delta_eq, h, K'.delta_eq]

end Keys

end Bn254
