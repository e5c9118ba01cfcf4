import Mathlib.Algebra.BigOperators.Group.List.Basic
import Mathlib.Tactic.Abel
import ZkpAuth.Lib.Pairing

/-!
# The Groth16 verification equation

The equation that a verifier of the Groth16 proof system checks, over arbitrary groups with a
pairing, and how it depends on the last point of the verification key.

## Main definitions

* `Groth16.Key`, `Groth16.Proof`, `Groth16.Accepts` — keys, proofs and the equation.
* `Groth16.KeyCombination` — a proof that is put together from the points of a key, without a
  witness: three lists of integer coefficients.
* `Groth16.forgery` — the combination that cancels the public part of the equation.

## Main results

* `Groth16.accepts_iff_sum_eq_zero` — the equation as one sum of four pairings.
* `Groth16.forgery_accepts` — a key with `gamma = delta` accepts the forgery on all public inputs.
* `Groth16.accepts_iff_accepts` — when two keys that differ in `delta` agree on a proof.
-/

set_option relaxedAutoImplicit false
set_option autoImplicit false

namespace Groth16

/-! ## Keys, proofs and the equation -/

/-- A verification key for `n` public inputs. -/
@[ext]
structure Key (n : ℕ) (G₁ G₂ : Type*) where
  alpha : G₁
  beta : G₂
  gamma : G₂
  delta : G₂
  IC : Fin (n + 1) → G₁

/-- A proof. -/
structure Proof (G₁ G₂ : Type*) where
  A : G₁
  B : G₂
  C : G₁

section Equation

variable {n : ℕ} {G₁ G₂ Gₜ : Type*} [AddCommGroup G₁] [AddCommGroup G₂] [AddCommGroup Gₜ]
  (e : G₁ →+ G₂ →+ Gₜ) (K : Key n G₁ G₂) (s : Fin n → ℕ) (π : Proof G₁ G₂)

/-- The public inputs `s` accumulated over the points `IC`. -/
def Key.vkX : G₁ := K.IC ⟨0, n.succ_pos⟩ + ∑ i, s i • K.IC i.succ

/-- What the equation leaves for `C` and `delta`. -/
def residue : Gₜ := e π.A π.B - e K.alpha K.beta - e (K.vkX s) K.gamma

/-- The verification equation. -/
def Accepts : Prop := residue e K s π = e π.C K.delta

variable {e K s π} in
/-- The equation as one sum of four pairings, in any order, with `A` negated. -/
theorem accepts_iff_sum_eq_zero {L : List (G₁ × G₂)}
    (hL : L.Perm [(-π.A, π.B), (K.alpha, K.beta), (K.vkX s, K.gamma), (π.C, K.delta)]) :
    (L.map fun p => e p.1 p.2).sum = 0 ↔ Accepts e K s π := by
  have hsum : (L.map fun p => e p.1 p.2).sum = e π.C K.delta - residue e K s π := by
    rw [(hL.map _).sum_eq, residue]
    simp only [List.map_cons, List.map_nil, List.sum_cons, List.sum_nil, map_neg,
      AddMonoidHom.neg_apply]
    abel
  rw [hsum, sub_eq_zero, Accepts, eq_comm]

end Equation

/-! ## Proofs that are put together from the key -/

/-- An integer combination of the points of a key in the first group. -/
structure Combination₁ (n : ℕ) where
  alpha : ℤ
  IC : Fin (n + 1) → ℤ

/-- An integer combination of the points of a key in the second group. -/
structure Combination₂ where
  beta : ℤ
  gamma : ℤ
  delta : ℤ

/-- A proof as combinations of the points of a key. -/
structure KeyCombination (n : ℕ) where
  A : Combination₁ n
  B : Combination₂
  C : Combination₁ n

section Combination

variable {n : ℕ} {G₁ G₂ Gₜ : Type*} [AddCommGroup G₁] [AddCommGroup G₂] [AddCommGroup Gₜ]

/-- The point of a combination in the first group. -/
def Combination₁.eval (c : Combination₁ n) (K : Key n G₁ G₂) : G₁ :=
  c.alpha • K.alpha + ∑ i, c.IC i • K.IC i

/-- The point of a combination in the second group. -/
def Combination₂.eval (c : Combination₂) (K : Key n G₁ G₂) : G₂ :=
  c.beta • K.beta + c.gamma • K.gamma + c.delta • K.delta

/-- The proof of a combination. -/
def KeyCombination.eval (c : KeyCombination n) (K : Key n G₁ G₂) : Proof G₁ G₂ where
  A := c.A.eval K
  B := c.B.eval K
  C := c.C.eval K

/-- `A = alpha`, `B = beta` and `C` the negated public part. -/
def forgery (s : Fin n → ℕ) : KeyCombination n where
  A := { alpha := 1, IC := fun _ => 0 }
  B := { beta := 1, gamma := 0, delta := 0 }
  C := { alpha := 0, IC := Fin.cons (-1) fun i => -(s i : ℤ) }

variable (K : Key n G₁ G₂) (s : Fin n → ℕ)

/-- The points of the forgery. -/
theorem forgery_eval : (forgery s).eval K = { A := K.alpha, B := K.beta, C := -K.vkX s } := by
  have hA : (forgery s).A.eval K = K.alpha := by
    simp [forgery, Combination₁.eval]
  have hB : (forgery s).B.eval K = K.beta := by
    simp [forgery, Combination₂.eval]
  have hC : (forgery s).C.eval K = -K.vkX s := by
    simp [forgery, Combination₁.eval, Key.vkX, Fin.sum_univ_succ, add_comm]
  rw [KeyCombination.eval, hA, hB, hC]

/-- **A key whose last two points coincide accepts proofs without a witness.** On the forgery
`e A B` cancels `e alpha beta`, and `e C delta` cancels the public part, which is paired with the
same point. -/
theorem forgery_accepts (e : G₁ →+ G₂ →+ Gₜ) (h : K.gamma = K.delta) :
    Accepts e K s ((forgery s).eval K) := by
  rw [Accepts, residue, forgery_eval, h, map_neg, AddMonoidHom.neg_apply, sub_self, zero_sub]

end Combination

/-! ## Two keys that differ in `delta` -/

section Agree

variable {r n : ℕ} [Fact r.Prime] {G₁ G₂ Gₜ : Type*} [AddCommGroup G₁] [AddCommGroup G₂]
  [AddCommGroup Gₜ] (p : Pairing r G₁ G₂ Gₜ) {K : Key n G₁ G₂} {δ : G₂} (hδ : K.delta ≠ δ)
  (s : Fin n → ℕ) (π : Proof G₁ G₂)

include hδ

/-- A proof that both keys accept has `C = 0`: the residue does not depend on `delta`. -/
theorem C_eq_zero_of_accepts (h : Accepts p.e K s π) (h' : Accepts p.e { K with delta := δ } s π) :
    π.C = 0 :=
  ((p.eq_right_iff π.C K.delta δ).mp (h.symm.trans h')).resolve_right hδ

/-- **When two keys that differ in `delta` agree.** Either `C = 0`, so that `delta` plays no role,
or the residue is neither of the two values that the keys ask for. -/
theorem accepts_iff_accepts :
    (Accepts p.e K s π ↔ Accepts p.e { K with delta := δ } s π) ↔
      π.C = 0 ∨
        residue p.e K s π ≠ p.e π.C K.delta ∧ residue p.e K s π ≠ p.e π.C δ := by
  constructor
  · intro hiff
    by_cases h : Accepts p.e K s π
    · exact .inl (C_eq_zero_of_accepts p hδ s π h (hiff.mp h))
    · exact .inr ⟨h, mt hiff.mpr h⟩
  · rintro (hC | ⟨h, h'⟩)
    · have hsame : p.e π.C K.delta = p.e π.C δ := (p.eq_right_iff _ _ _).mpr (.inl hC)
      change residue p.e K s π = _ ↔ residue p.e K s π = _
      rw [hsame]
    · exact iff_of_false h h'

end Agree

end Groth16
