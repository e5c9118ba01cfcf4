import ZkpAuth.Bn254
import ZkpAuth.Lib.Groth16

/-!
# The curve as its users see it

Both verifiers receive points as coordinates.  The curve itself is not modelled: what they rely on
is a pairing of two groups of order `r` and an injective choice of coordinates for their elements.

## Main definitions

* `Bn254.Curve` — a pairing of groups of order `r` with coordinates for the elements.
* `Bn254.KeyCoordinates` — the coordinates of a verification key, as they are published.
* `Bn254.KeyPoints` — the points of a verification key with given coordinates.

## Main results

* `Bn254.KeyPoints.gamma_eq_delta_iff` — equal points have equal coordinates and conversely.
* `Bn254.KeyPoints.toKey_eq_with_delta` — the coordinates determine the key.
-/

set_option relaxedAutoImplicit false
set_option autoImplicit false

namespace Bn254

/-- The base field is not empty. -/
instance neZero_q : NeZero q := ⟨by decide⟩

/-- A coordinate of a point of the first group. -/
abbrev Fq := ZMod q

/-- A coordinate of a point of the second group: `c0 + c1 * u` as the pair of `c0` and `c1`. -/
abbrev Fq2 := Fq × Fq

/-- A pairing of groups of order `r` whose elements have affine coordinates.  The neutral elements
have the coordinates `0`, and the negative of a point has its second coordinate negated. -/
structure Curve (G₁ G₂ Gₜ : Type) [AddCommGroup G₁] [AddCommGroup G₂] [AddCommGroup Gₜ] extends
    Pairing r G₁ G₂ Gₜ where
  /-- The coordinates in the first group. -/
  affine₁ : G₁ → Fq × Fq
  /-- The coordinates in the second group. -/
  affine₂ : G₂ → Fq2 × Fq2
  /-- Coordinates identify a point of the first group. -/
  affine₁_injective : Function.Injective affine₁
  /-- Coordinates identify a point of the second group. -/
  affine₂_injective : Function.Injective affine₂
  /-- The coordinates of infinity in the first group. -/
  affine₁_zero : affine₁ 0 = 0
  /-- The coordinates of infinity in the second group. -/
  affine₂_zero : affine₂ 0 = 0
  /-- The coordinates of a negative. -/
  affine₁_neg : ∀ P, affine₁ (-P) = ((affine₁ P).1, -(affine₁ P).2)

/-- The coordinates of a verification key for `n` public inputs. -/
@[ext]
structure KeyCoordinates (n : ℕ) where
  alpha : Fq × Fq
  beta : Fq2 × Fq2
  gamma : Fq2 × Fq2
  delta : Fq2 × Fq2
  IC : Fin (n + 1) → Fq × Fq

section Curve

variable {n : ℕ} {G₁ G₂ Gₜ : Type} [AddCommGroup G₁] [AddCommGroup G₂] [AddCommGroup Gₜ]

/-- A verification key whose points have the coordinates `k`. -/
structure KeyPoints (c : Curve G₁ G₂ Gₜ) (k : KeyCoordinates n) extends
    Groth16.Key n G₁ G₂ where
  alpha_eq : c.affine₁ alpha = k.alpha
  beta_eq : c.affine₂ beta = k.beta
  gamma_eq : c.affine₂ gamma = k.gamma
  delta_eq : c.affine₂ delta = k.delta
  IC_eq : ∀ i, c.affine₁ (IC i) = k.IC i

namespace KeyPoints

variable {c : Curve G₁ G₂ Gₜ} {k k' : KeyCoordinates n}

/-- The last two points of a key are equal exactly when their coordinates are. -/
theorem gamma_eq_delta_iff (K : KeyPoints c k) : K.gamma = K.delta ↔ k.gamma = k.delta := by
  rw [← K.gamma_eq, ← K.delta_eq, c.affine₂_injective.eq_iff]

/-- Two keys whose coordinates agree up to `delta` agree up to `delta`. -/
theorem toKey_eq_with_delta (K : KeyPoints c k) (K' : KeyPoints c k')
    (h : k' = { k with delta := k'.delta }) : K'.toKey = { K.toKey with delta := K'.delta } := by
  have halpha : K'.alpha = K.alpha := c.affine₁_injective (by rw [K.alpha_eq, K'.alpha_eq, h])
  have hbeta : K'.beta = K.beta := c.affine₂_injective (by rw [K.beta_eq, K'.beta_eq, h])
  have hgamma : K'.gamma = K.gamma := c.affine₂_injective (by rw [K.gamma_eq, K'.gamma_eq, h])
  have hIC : K'.IC = K.IC := funext fun i => c.affine₁_injective (by rw [K.IC_eq, K'.IC_eq, h])
  exact Groth16.Key.ext halpha hbeta hgamma rfl hIC

end KeyPoints

end Curve

end Bn254
