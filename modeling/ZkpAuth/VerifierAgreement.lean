import ZkpAuth.ReferenceModel

/-!
# The on-chain verifier against the off-chain one

The contract's `delta` is its `gamma`, the one of the JSON key is not.  From the decisions of the
two verifiers it follows what this means on chain: everybody can put together a proof of every
public statement from the published constants, and a proof that one verifier accepts is accepted
by the other only if its `C` is the point at infinity.

## Main results

* `Groth16Verifier.exists_keyCombination` — proofs without a witness.
* `Groth16Verifier.agree_iff` — when the two verifiers agree.
-/

set_option relaxedAutoImplicit false
set_option autoImplicit false

open Evm Bn254 Snarkjs

namespace Groth16Verifier

/-! ## Proofs without a witness -/

/-- The contract accepts a combination of the points of its key with the public signals, whatever
groups the points are taken from: only the constants of the contract are known about them. -/
def AcceptsCombination (pubSignals : Fin 7 → Word) (a : Groth16.KeyCombination 7) : Prop :=
  ∀ (G₁ G₂ Gₜ : Type) [AddCommGroup G₁] [AddCommGroup G₂] [AddCommGroup Gₜ]
    (c : Curve G₁ G₂ Gₜ) (pre : Precompiles c) (K : KeyPoints c coordinates),
    verifyProof pre.call (Args.ofProof c (a.eval K.toKey) pubSignals) = 1

/-- The contract accepts the forgery. -/
lemma acceptsCombination_forgery {pubSignals : Fin 7 → Word}
    (hpub : ∀ i, (pubSignals i).toNat < Bn254.r) :
    AcceptsCombination pubSignals (Groth16.forgery fun i => (pubSignals i).toNat) := by
  intro G₁ G₂ Gₜ _ _ _ c pre K
  rw [verifyProof_eq_one_iff K]
  exact ⟨hpub, Groth16.forgery_accepts K.toKey _ c.e K.contract_gamma_eq⟩

/-- **The contract accepts every public statement without a witness**: there is a proof that is put
together from the constants of the contract alone. -/
theorem exists_keyCombination (pubSignals : Fin 7 → Word)
    (hpub : ∀ i, (pubSignals i).toNat < Bn254.r) :
    ∃ a : Groth16.KeyCombination 7, AcceptsCombination pubSignals a :=
  ⟨_, acceptsCombination_forgery hpub⟩

/-- The statement of an authenticated doctor of specialty `1` who may request an expert. -/
def doctorStatement : Fin 7 → Word := ![1, 1, 0, 1, 0, 1, 18]

/-- The signals of the statement are in range. -/
lemma doctorStatement_lt : ∀ i, (doctorStatement i).toNat < Bn254.r := by decide

/-- A proof of the doctor's statement without a witness, on the groups of exponents. -/
theorem exists_keyCombination_doctor :
    ∃ a : Groth16.KeyCombination 7,
      verifyProof exponentCurve.precompiles.call
        (Args.ofProof exponentCurve (a.eval contractKey.toKey) doctorStatement) = 1 := by
  obtain ⟨a, ha⟩ := exists_keyCombination doctorStatement doctorStatement_lt
  exact ⟨a, ha Fr Fr Fr exponentCurve exponentCurve.precompiles contractKey⟩

/-- It is not the case that no combination is accepted. -/
theorem keyCombination_not_rejected :
    ¬∀ pubSignals : Fin 7 → Word, (∀ i, (pubSignals i).toNat < Bn254.r) →
      ¬∃ a : Groth16.KeyCombination 7, AcceptsCombination pubSignals a :=
  fun hall => hall doctorStatement doctorStatement_lt
    ⟨_, acceptsCombination_forgery doctorStatement_lt⟩

/-! ## Agreement of the two verifiers -/

section Agree

variable {G₁ G₂ Gₜ : Type} [AddCommGroup G₁] [AddCommGroup G₂] [AddCommGroup Gₜ]
  {c : Curve G₁ G₂ Gₜ}

/-- The contract accepts a proof of valid points. -/
def AcceptedOnChain (pre : Precompiles c) (π : Groth16.Proof G₁ G₂) (pubSignals : Fin 7 → Word) :
    Prop :=
  verifyProof pre.call (Args.ofProof c π pubSignals) = 1

/-- The off-chain verifier accepts a proof of valid points under the committed key. -/
def AcceptedOffChain (c : Curve G₁ G₂ Gₜ) (E : Engine) (π : Groth16.Proof G₁ G₂)
    (pubSignals : Fin 7 → Word) : Prop :=
  groth16Verify E verificationKeyJson (fun i => (pubSignals i).toNat) (Proof.ofPoints c π) = true

variable (pre : Precompiles c) {E : Engine} (hE : E.Lawful c) (K : KeyPoints c coordinates)
  (K' : KeyPoints c verificationKeyJson.coordinates) (π : Groth16.Proof G₁ G₂)
  (pubSignals : Fin 7 → Word)

include hE in
/-- The off-chain decision in terms of the contract's key. -/
lemma acceptedOffChain_iff : AcceptedOffChain c E π pubSignals ↔
    (∀ i, (pubSignals i).toNat < Bn254.r) ∧
      Groth16.Accepts c.e { K.toKey with delta := K'.delta } (fun i => (pubSignals i).toNat) π := by
  rw [← K.json_eq K']
  exact groth16Verify_iff hE verificationKeyJson_isAffine K' _ π

include hE K K' in
/-- A proof that one verifier accepts is accepted by both exactly when `C` is the point at
infinity. -/
lemma accepted_both_iff
    (h : AcceptedOnChain pre π pubSignals ∨ AcceptedOffChain c E π pubSignals) :
    AcceptedOnChain pre π pubSignals ∧ AcceptedOffChain c E π pubSignals ↔ π.C = 0 := by
  have hne := K.json_delta_ne K'
  rw [AcceptedOnChain, verifyProof_eq_one_iff K, acceptedOffChain_iff hE K K'] at *
  constructor
  · rintro ⟨⟨-, hon⟩, -, hoff⟩
    exact Groth16.C_eq_zero_of_accepts c.toPairing hne _ π hon hoff
  · intro hC
    have hiff := (Groth16.accepts_iff_accepts c.toPairing hne
      (fun i => (pubSignals i).toNat) π).mpr (.inl hC)
    rcases h with ⟨hpub, hon⟩ | ⟨hpub, hoff⟩
    · exact ⟨⟨hpub, hon⟩, hpub, hiff.mp hon⟩
    · exact ⟨⟨hpub, hiff.mpr hoff⟩, hpub, hoff⟩

include hE in
/-- **When the two verifiers agree.** A proof of valid points that one of them accepts is accepted
by both exactly when `C` is the point at infinity.  On all proofs and any seven words they give the
same answer exactly when a signal is out of range, or `C` is the point at infinity, or both reject:
the rest of the equation has neither of the two values that they ask for. -/
theorem agree_iff :
    (AcceptedOnChain pre π pubSignals ∨ AcceptedOffChain c E π pubSignals →
      (AcceptedOnChain pre π pubSignals ∧ AcceptedOffChain c E π pubSignals ↔ π.C = 0)) ∧
    ((AcceptedOnChain pre π pubSignals ↔ AcceptedOffChain c E π pubSignals) ↔
      (∃ i, Bn254.r ≤ (pubSignals i).toNat) ∨ π.C = 0 ∨
        Groth16.residue c.e K.toKey (fun i => (pubSignals i).toNat) π ≠ c.e π.C K.delta ∧
          Groth16.residue c.e K.toKey (fun i => (pubSignals i).toNat) π ≠ c.e π.C K'.delta) := by
  refine ⟨accepted_both_iff pre hE K K' π pubSignals, ?_⟩
  have hon : AcceptedOnChain pre π pubSignals ↔ _ := verifyProof_eq_one_iff K π pubSignals
  rw [hon, acceptedOffChain_iff hE K K' π pubSignals]
  by_cases hpub : ∀ i, (pubSignals i).toNat < Bn254.r
  · have hrange : ¬∃ i, Bn254.r ≤ (pubSignals i).toNat := by
      rintro ⟨i, hi⟩
      exact absurd (hpub i) hi.not_gt
    rw [and_iff_right hpub, and_iff_right hpub, or_iff_right hrange]
    exact Groth16.accepts_iff_accepts c.toPairing (K.json_delta_ne K') _ π
  · obtain ⟨i, hi⟩ := not_forall.mp hpub
    exact iff_of_true (iff_of_false (fun h => hpub h.1) fun h => hpub h.1)
      (.inl ⟨i, Nat.le_of_not_lt hi⟩)

end Agree

/-- On the groups of exponents: a proof that satisfies the equation of the JSON key. -/
def exponentProof : Groth16.Proof Fr Fr where
  A := (contractKey.vkX fun i => (doctorStatement i).toNat) + (5 : ℕ)
  B := 1
  C := 1

/-- The off-chain verifier accepts that proof and the contract does not: its `C` is not zero. -/
theorem agree_iff_exponents :
    AcceptedOffChain exponentCurve exponentCurve.engine exponentProof doctorStatement ∧
      ¬AcceptedOnChain exponentCurve.precompiles exponentProof doctorStatement := by
  have hoff : AcceptedOffChain exponentCurve exponentCurve.engine exponentProof
      doctorStatement := by
    rw [acceptedOffChain_iff exponentCurve.engine_lawful contractKey jsonKey]
    refine ⟨doctorStatement_lt, ?_⟩
    change exponentProof.A * 1 - ((1 : ℕ) : Fr) * 2 -
      (contractKey.vkX fun i => (doctorStatement i).toNat) * 1 = 1 * 3
    rw [exponentProof]
    push_cast
    ring
  refine ⟨hoff, fun hon => ?_⟩
  have hboth := (agree_iff exponentCurve.precompiles exponentCurve.engine_lawful contractKey jsonKey
    exponentProof doctorStatement).1 (.inr hoff)
  exact absurd (hboth.mp ⟨hon, hoff⟩) (by decide : (1 : Fr) ≠ 0)

/-- The verifiers do not agree: on the groups of exponents the contract accepts the proof of the
doctor's statement without a witness, and the off-chain verifier does not. -/
theorem not_agree :
    ¬∀ (G₁ G₂ Gₜ : Type) [AddCommGroup G₁] [AddCommGroup G₂] [AddCommGroup Gₜ]
      (c : Curve G₁ G₂ Gₜ) (pre : Precompiles c) (E : Engine) (_ : E.Lawful c)
      (_ : KeyPoints c coordinates) (_ : KeyPoints c verificationKeyJson.coordinates)
      (π : Groth16.Proof G₁ G₂) (pubSignals : Fin 7 → Word),
      AcceptedOnChain pre π pubSignals ↔ AcceptedOffChain c E π pubSignals := by
  intro hall
  let π := (Groth16.forgery fun i => (doctorStatement i).toNat).eval contractKey.toKey
  have hon : AcceptedOnChain exponentCurve.precompiles π doctorStatement :=
    acceptsCombination_forgery doctorStatement_lt Fr Fr Fr exponentCurve _ contractKey
  have hoff := (hall Fr Fr Fr exponentCurve exponentCurve.precompiles exponentCurve.engine
    exponentCurve.engine_lawful contractKey jsonKey π doctorStatement).mp hon
  have hC : π.C = 0 := (accepted_both_iff exponentCurve.precompiles exponentCurve.engine_lawful
    contractKey jsonKey π doctorStatement (.inl hon)).mp ⟨hon, hoff⟩
  have hvkX : π.C = -contractKey.vkX fun i => (doctorStatement i).toNat :=
    congrArg Groth16.Proof.C (Groth16.forgery_eval contractKey.toKey _)
  rw [hvkX, neg_eq_zero] at hC
  exact absurd hC (by decide)

end Groth16Verifier
