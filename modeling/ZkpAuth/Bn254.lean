import Mathlib.Algebra.Field.ZMod
import Mathlib.Tactic.NormNum.Prime
import Mathlib.Tactic.ReduceModChar
import ZkpAuth.Lib.LucasFactors

/-!
# The BN254 moduli

The two primes of the curve that the circuit is compiled for and that the verifier contract
names: `r`, the order of the groups, which is the modulus of every circuit signal, and `q`, the
modulus of the point coordinates.  Only `r` is used as a field, so only `r` is proved prime.

## Main definitions

* `Bn254.r`, `Bn254.q` — the scalar and base field sizes.
* `Bn254.Fr` — the field of circuit signals.

## Main results

* `Bn254.r_prime` — `r` is prime, by Lucas's test down to factors that are checked directly.
-/

set_option relaxedAutoImplicit false
set_option autoImplicit false

namespace Bn254

/-- Scalar field size. -/
def r : ℕ := 21888242871839275222246405745257275088548364400416034343698204186575808495617

/-- Base field size. -/
def q : ℕ := 21888242871839275222246405745257275088696311157297823662689037894645226208583

/-! ## Primality of the scalar field size -/

/-- A factor of `r - 1`. -/
private lemma prime_405928799 : Nat.Prime 405928799 := by
  refine Nat.prime_of_lucas_factors 22
    [(2, 1), (11, 1), (3691, 1), (4999, 1)]
    (by norm_num only [List.map, List.prod_cons, List.prod_nil])
    ⟨by norm_num, by norm_num, by norm_num, by norm_num⟩
    (by norm_num only; reduce_mod_char) ?_
  norm_num only [List.Forall]
  reduce_mod_char
  decide

/-- A factor of `5156902474397 - 1`. -/
private lemma prime_12048837557 : Nat.Prime 12048837557 := by
  refine Nat.prime_of_lucas_factors 2
    [(2, 2), (7, 2), (661, 1), (93001, 1)]
    (by norm_num only [List.map, List.prod_cons, List.prod_nil])
    ⟨by norm_num, by norm_num, by norm_num, by norm_num⟩
    (by norm_num only; reduce_mod_char) ?_
  norm_num only [List.Forall]
  reduce_mod_char
  decide

/-- A factor of `1670836401704629 - 1`. -/
private lemma prime_5156902474397 : Nat.Prime 5156902474397 := by
  refine Nat.prime_of_lucas_factors 2
    [(2, 2), (107, 1), (12048837557, 1)]
    (by norm_num only [List.map, List.prod_cons, List.prod_nil])
    ⟨by norm_num, by norm_num, prime_12048837557⟩
    (by norm_num only; reduce_mod_char) ?_
  norm_num only [List.Forall]
  reduce_mod_char
  decide

/-- A factor of `r - 1`. -/
private lemma prime_1670836401704629 : Nat.Prime 1670836401704629 := by
  refine Nat.prime_of_lucas_factors 2
    [(2, 2), (3, 4), (5156902474397, 1)]
    (by norm_num only [List.map, List.prod_cons, List.prod_nil])
    ⟨by norm_num, by norm_num, prime_5156902474397⟩
    (by norm_num only; reduce_mod_char) ?_
  norm_num only [List.Forall]
  reduce_mod_char
  decide

/-- A factor of `65865678001877903 - 1`. -/
private lemma prime_639533339 : Nat.Prime 639533339 := by
  refine Nat.prime_of_lucas_factors 2
    [(2, 1), (229, 1), (853, 1), (1637, 1)]
    (by norm_num only [List.map, List.prod_cons, List.prod_nil])
    ⟨by norm_num, by norm_num, by norm_num, by norm_num⟩
    (by norm_num only; reduce_mod_char) ?_
  norm_num only [List.Forall]
  reduce_mod_char
  decide

/-- A factor of `13818364434197438864469338081 - 1`. -/
private lemma prime_65865678001877903 : Nat.Prime 65865678001877903 := by
  refine Nat.prime_of_lucas_factors 5
    [(2, 1), (83, 1), (379, 1), (1637, 1), (639533339, 1)]
    (by norm_num only [List.map, List.prod_cons, List.prod_nil])
    ⟨by norm_num, by norm_num, by norm_num, by norm_num, prime_639533339⟩
    (by norm_num only; reduce_mod_char) ?_
  norm_num only [List.Forall]
  reduce_mod_char
  decide

/-- The largest factor of `r - 1`. -/
private lemma prime_13818364434197438864469338081 : Nat.Prime 13818364434197438864469338081 := by
  refine Nat.prime_of_lucas_factors 3
    [(2, 5), (5, 1), (823, 1), (1593227, 1), (65865678001877903, 1)]
    (by norm_num only [List.map, List.prod_cons, List.prod_nil])
    ⟨by norm_num, by norm_num, by norm_num, by norm_num, prime_65865678001877903⟩
    (by norm_num only; reduce_mod_char) ?_
  norm_num only [List.Forall]
  reduce_mod_char
  decide

/-- The scalar field size is prime. -/
theorem r_prime : Nat.Prime r := by
  rw [r]
  refine Nat.prime_of_lucas_factors 5
    [(2, 28), (3, 2), (13, 1), (29, 1), (983, 1), (11003, 1), (237073, 1), (405928799, 1),
      (1670836401704629, 1), (13818364434197438864469338081, 1)]
    (by norm_num only [List.map, List.prod_cons, List.prod_nil])
    ⟨by norm_num, by norm_num, by norm_num, by norm_num, by norm_num, by norm_num, by norm_num,
      prime_405928799, prime_1670836401704629, prime_13818364434197438864469338081⟩
    (by norm_num only; reduce_mod_char) ?_
  norm_num only [List.Forall]
  reduce_mod_char
  decide

/-- The scalar field size is a prime modulus. -/
instance : Fact r.Prime := ⟨r_prime⟩

/-- The field of circuit signals. -/
abbrev Fr : Type := ZMod r

/-- A sum of `253` bits does not wrap around the scalar field. -/
theorem two_pow_253_le_r : 2 ^ 253 ≤ r := by norm_num [r]

/-- `r` has 254 bits. -/
theorem two_pow_253_lt_r : 2 ^ 253 < r := by norm_num [r]

/-- `r` has no more than 254 bits. -/
theorem r_lt_two_pow_254 : r < 2 ^ 254 := by norm_num [r]

/-- The canonical representative of a difference. -/
theorem val_sub_eq (x y : Fr) :
    (x - y).val = if y.val ≤ x.val then x.val - y.val else r + x.val - y.val := by
  have hx := ZMod.val_lt x
  have hy := ZMod.val_lt y
  split
  case isTrue h => exact ZMod.val_sub h
  case isFalse h =>
    have hne : y - x ≠ 0 := fun h0 => h (le_of_eq (congrArg ZMod.val (sub_eq_zero.mp h0)))
    rw [← neg_sub y x, ZMod.neg_val, if_neg hne, ZMod.val_sub (by omega)]
    omega

end Bn254
