import Mathlib.Algebra.BigOperators.Fin
import Mathlib.Algebra.Field.ZMod
import Mathlib.Tactic.Ring
import Mathlib.Data.Nat.Bitwise

/-!
# Bit decompositions inside a field

A circuit decomposes a field element `x` into `n` signals that it forces to be `0` or `1` and
whose weighted sum it forces to be `x`.  The solutions are exactly the binary expansions of the
naturals below `2ⁿ` that cast to `x`.  When the characteristic is at least `2ⁿ` there is at most
one such natural, the canonical representative of `x`; below that bound there can be several.

## Main definitions

* `BitDecomposition.toField` — a Boolean as a field element.
* `BitDecomposition.IsBits` — the two constraints of a decomposition.

## Main results

* `BitDecomposition.isBits_iff` — the solutions in any field.
* `BitDecomposition.isBits_iff_val` — the unique solution in `ZMod p` when `2ⁿ ≤ p`.
* `BitDecomposition.foldl_double` — the accumulator loop `lc += bᵢ · e; e = e + e` computes the
  weighted sum.
-/

set_option relaxedAutoImplicit false
set_option autoImplicit false

namespace BitDecomposition

variable {R : Type*}

/-- A Boolean as the field element `0` or `1`. -/
def toField [Zero R] [One R] (b : Bool) : R := if b then 1 else 0

/-- The bit of `true`. -/
@[simp] lemma toField_true [Zero R] [One R] : (toField true : R) = 1 := rfl

/-- The bit of `false`. -/
@[simp] lemma toField_false [Zero R] [One R] : (toField false : R) = 0 := rfl

/-- Only `true` is the field element `1`. -/
theorem toField_eq_one [Zero R] [One R] [NeZero (1 : R)] {b : Bool} :
    (toField b : R) = 1 ↔ b = true := by
  cases b <;> simp

/-- Only `false` is the field element `0`. -/
theorem toField_eq_zero [Zero R] [One R] [NeZero (1 : R)] {b : Bool} :
    (toField b : R) = 0 ↔ b = false := by
  cases b <;> simp

/-- The bits of a field are its Booleans. -/
theorem exists_toField_iff [Zero R] [One R] {x : R} :
    (∃ b : Bool, toField b = x) ↔ x = 0 ∨ x = 1 := by
  simp [toField, eq_comm]

/-- A decided proposition as a field element. -/
theorem toField_decide [Zero R] [One R] (φ : Prop) [Decidable φ] :
    (toField (decide φ) : R) = if φ then 1 else 0 := by
  simp [toField]

/-- A decided proposition is the field element `1` exactly when it holds. -/
theorem toField_decide_eq_one [Zero R] [One R] [NeZero (1 : R)] (φ : Prop) [Decidable φ] :
    (toField (decide φ) : R) = 1 ↔ φ := by
  by_cases h : φ <;> simp [h]

/-- A decided proposition is the field element `0` exactly when it fails. -/
theorem toField_decide_eq_zero [Zero R] [One R] [NeZero (1 : R)] (φ : Prop) [Decidable φ] :
    (toField (decide φ) : R) = 0 ↔ ¬φ := by
  by_cases h : φ <;> simp [h]

/-- The complement of a Boolean. -/
theorem one_sub_toField [Ring R] (b : Bool) : 1 - (toField b : R) = toField (!b) := by
  cases b <;> simp

/-- The product of two Booleans is their conjunction. -/
theorem toField_mul_toField [MulZeroOneClass R] (a b : Bool) :
    (toField a * toField b : R) = toField (a && b) := by
  cases a <;> simp

/-- The arithmetic encoding `1 - a + a·b` of an implication. -/
theorem one_sub_toField_add [Ring R] (a b : Bool) :
    1 - (toField a : R) + toField (a && b) = toField (!a || b) := by
  cases a <;> simp

/-- Two decided propositions are the same field element exactly when they are equivalent. -/
theorem toField_decide_inj [Zero R] [One R] [NeZero (1 : R)] (φ ψ : Prop) [Decidable φ]
    [Decidable ψ] : (toField (decide φ) : R) = toField (decide ψ) ↔ (φ ↔ ψ) := by
  by_cases hφ : φ <;> by_cases hψ : ψ <;> simp [hφ, hψ]

/-- The cast of a Boolean read as a natural number. -/
theorem cast_toNat [Semiring R] (b : Bool) : ((b.toNat : ℕ) : R) = toField b := by
  cases b <;> simp

/-- The Boolean constraint holds exactly of the two Booleans. -/
lemma mul_sub_one_eq_zero_iff [Ring R] [NoZeroDivisors R] (b : R) :
    b * (b - 1) = 0 ↔ ∃ c : Bool, b = toField c := by
  rw [mul_eq_zero, sub_eq_zero]
  constructor
  · rintro (h | h)
    · exact ⟨false, h⟩
    · exact ⟨true, h⟩
  · rintro ⟨c, rfl⟩
    cases c
    · exact Or.inl rfl
    · exact Or.inr rfl

/-- The signals `b` are bits, and their weighted sum is `x`. -/
structure IsBits [Ring R] {n : ℕ} (b : Fin n → R) (x : R) : Prop where
  /-- Every signal satisfies the Boolean constraint. -/
  boolean : ∀ i, b i * (b i - 1) = 0
  /-- The weighted sum, least significant bit first. -/
  sum_eq : ∑ i, b i * 2 ^ (i : ℕ) = x

/-- The weighted sum of Booleans is the cast of the natural number they spell. -/
lemma sum_toField [CommRing R] : ∀ {n : ℕ} (c : Fin n → Bool),
    ∑ i, (toField (c i) : R) * 2 ^ (i : ℕ) = (Nat.ofBits c : R)
  | 0, c => by simp
  | n + 1, c => by
    have ih := sum_toField (c ∘ Fin.succ)
    simp only [Function.comp_apply] at ih
    rw [Fin.sum_univ_succ, Nat.ofBits_succ, Nat.cast_add, Nat.cast_mul, cast_toNat, ← ih,
      Finset.mul_sum]
    simp only [Fin.val_zero, pow_zero, mul_one, Fin.val_succ, pow_succ, Nat.cast_ofNat]
    rw [add_comm]
    congr 1
    exact Finset.sum_congr rfl fun i _ => by ring

/-- **Solutions of a decomposition.** The signals `b` decompose `x` exactly when they are the
binary expansion of some natural below `2ⁿ` that casts to `x`.

**Proof sketch.** The Boolean constraints turn `b` into a family of Booleans, which spells a
natural `N < 2ⁿ`; the weighted sum of `b` is the cast of `N`.  Conversely the expansion of `N`
consists of Booleans, and spells `N` again since `N < 2ⁿ`. -/
theorem isBits_iff [CommRing R] [NoZeroDivisors R] {n : ℕ} (b : Fin n → R) (x : R) :
    IsBits b x ↔ ∃ N : ℕ, N < 2 ^ n ∧ (N : R) = x ∧ ∀ i : Fin n, b i = toField (N.testBit i) := by
  constructor
  · rintro ⟨hb, hx⟩
    choose c hc using fun i => (mul_sub_one_eq_zero_iff (b i)).mp (hb i)
    refine ⟨Nat.ofBits c, Nat.ofBits_lt_two_pow c, ?_, fun i => ?_⟩
    · rw [← sum_toField, ← hx]
      exact Finset.sum_congr rfl fun i _ => by rw [hc i]
    · rw [Nat.testBit_ofBits_lt c i i.isLt, hc i]
  · rintro ⟨N, hN, hx, hb⟩
    refine ⟨fun i => (mul_sub_one_eq_zero_iff _).mpr ⟨_, hb i⟩, ?_⟩
    have hspell : Nat.ofBits (fun i : Fin n => N.testBit i) = N := by
      rw [Nat.ofBits_testBit, Nat.mod_eq_of_lt hN]
    rw [← hx, ← hspell, ← sum_toField]
    exact Finset.sum_congr rfl fun i _ => by rw [hb i]

/-- **Uniqueness of a decomposition.** Below the modulus the only solution is the expansion of
the canonical representative. -/
theorem isBits_iff_val {p : ℕ} [Fact p.Prime] {n : ℕ} (hn : 2 ^ n ≤ p) (b : Fin n → ZMod p)
    (x : ZMod p) :
    IsBits b x ↔ x.val < 2 ^ n ∧ ∀ i : Fin n, b i = toField (x.val.testBit i) := by
  rw [isBits_iff]
  constructor
  · rintro ⟨N, hN, rfl, hb⟩
    have hval : ((N : ℕ) : ZMod p).val = N := ZMod.val_cast_of_lt (hN.trans_le hn)
    rw [hval]
    exact ⟨hN, hb⟩
  · rintro ⟨hx, hb⟩
    exact ⟨x.val, hx, ZMod.natCast_zmod_val x, hb⟩

/-- The accumulator loop of a decomposition: it adds `bᵢ · e` and doubles `e` at each step, and
so ends with the weighted sum and `2ⁿ`. -/
theorem foldl_double [CommRing R] : ∀ {n : ℕ} (b : Fin n → R),
    Fin.foldl n (fun acc i => (acc.1 + b i * acc.2, acc.2 + acc.2)) ((0, 1) : R × R) =
      (∑ i, b i * 2 ^ (i : ℕ), 2 ^ n)
  | 0, b => by simp
  | n + 1, b => by
    rw [Fin.foldl_succ_last, foldl_double (fun i => b i.castSucc), Fin.sum_univ_castSucc]
    simp only [Fin.val_castSucc, Fin.val_last, Prod.mk.injEq, true_and]
    ring

end BitDecomposition
