import Mathlib.Data.Nat.Digits.Defs
import Mathlib.Data.Nat.ModEq
import Mathlib.Tactic.LinearCombination
import Mathlib.Tactic.Linarith

/-!
# Montgomery multiplication, digit by digit

The product of two numbers modulo `q`, divided by a power of the base `B`, as it is computed one
digit of the first factor at a time: each step adds a multiple of the modulus that clears the
lowest digit, and drops that digit.

The multiple is found with the number `np`, for which `q * np` is `-1` modulo the base.

## Main definitions

* `Montgomery.multiple`, `Montgomery.reduce` — one step.
* `Montgomery.mul` — the steps for a list of digits.

## Main results

* `Montgomery.mul_mul_pow` — the result times the power of the base is the product.
* `Montgomery.reduce_lt` — a step keeps the accumulator below two moduli.
-/

set_option relaxedAutoImplicit false
set_option autoImplicit false

namespace Montgomery

section Step

variable (B q np t : ℕ)

/-- The multiple of the modulus that clears the lowest digit of `t`. -/
def multiple : ℕ := t * np % B

/-- The lowest digit of `t` is cleared and dropped. -/
def reduce : ℕ := (t + multiple B np t * q) / B

variable {B q np t}

/-- The lowest digit is cleared. -/
lemma dvd_add_multiple (h : B ∣ q * np + 1) : B ∣ t + multiple B np t * q := by
  obtain ⟨k, hk⟩ := h
  refine (Nat.modEq_zero_iff_dvd).mp ?_
  calc t + t * np % B * q
      ≡ t + t * np * q [MOD B] := Nat.ModEq.add_left t ((Nat.mod_modEq _ _).mul_right q)
    _ = B * (t * k) := by linear_combination t * hk
    _ ≡ 0 [MOD B] := (Nat.modEq_zero_iff_dvd).mpr (dvd_mul_right _ _)

/-- One step divides by the base, up to multiples of the modulus. -/
theorem reduce_mul (h : B ∣ q * np + 1) : reduce B q np t * B = t + multiple B np t * q :=
  Nat.div_mul_cancel (dvd_add_multiple h)

/-- A step keeps the accumulator below two moduli. -/
theorem reduce_lt {b d : ℕ} (hB : 0 < B) (ht : t < 2 * q) (hd : d < B) (hb : b ≤ q) :
    reduce B q np (t + d * b) < 2 * q := by
  have hm : multiple B np (t + d * b) + 1 ≤ B := Nat.mod_lt _ hB
  have hmq : (multiple B np (t + d * b) + 1) * q ≤ B * q := Nat.mul_le_mul_right q hm
  have hdq : (d + 1) * q ≤ B * q := Nat.mul_le_mul_right q hd
  have hdb : d * b ≤ d * q := Nat.mul_le_mul_left d hb
  refine Nat.div_lt_of_lt_mul ?_
  linarith

end Step

variable {B q np b : ℕ}

/-- The steps for the digits of the first factor, the lowest first, from the accumulator `t`. -/
def mul (B q np b : ℕ) (t : ℕ) (digits : List ℕ) : ℕ :=
  digits.foldl (fun t d => reduce B q np (t + d * b)) t

/-- No digits are left. -/
@[simp]
lemma mul_nil (t : ℕ) : mul B q np b t [] = t := rfl

/-- One digit is multiplied and the sum reduced. -/
@[simp]
lemma mul_cons (t d : ℕ) (digits : List ℕ) :
    mul B q np b t (d :: digits) = mul B q np b (reduce B q np (t + d * b)) digits := rfl

/-- **The result is the product**, divided by a power of the base.

**Proof sketch.** Induction on the digits: a step multiplies the sum so far by the inverse of the
base. -/
theorem mul_mul_pow (h : B ∣ q * np + 1) (t : ℕ) (digits : List ℕ) :
    mul B q np b t digits * B ^ digits.length ≡ t + Nat.ofDigits B digits * b [MOD q] := by
  induction digits generalizing t with
  | nil => simp [Nat.ModEq.refl]
  | cons d digits ih =>
    have hstep := reduce_mul (t := t + d * b) h
    calc mul B q np b t (d :: digits) * B ^ (d :: digits).length
        = mul B q np b (reduce B q np (t + d * b)) digits * B ^ digits.length * B := by
          rw [mul_cons, List.length_cons]
          ring
      _ ≡ (reduce B q np (t + d * b) + Nat.ofDigits B digits * b) * B [MOD q] :=
          (ih _).mul_right B
      _ = t + Nat.ofDigits B (d :: digits) * b + multiple B np (t + d * b) * q := by
          rw [Nat.ofDigits_cons, add_mul, hstep]
          ring
      _ ≡ t + Nat.ofDigits B (d :: digits) * b [MOD q] := Nat.add_mul_modulus_modEq_iff.mpr rfl

end Montgomery
