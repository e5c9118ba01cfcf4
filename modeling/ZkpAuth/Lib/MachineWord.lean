import Mathlib.Data.Nat.ModEq
import Mathlib.Tactic.NormNum
import Mathlib.Tactic.Ring

/-!
# Arithmetic of machine words

Addition with carry, subtraction with borrow and the full product of two words of `w` bits, as the
instructions of a processor compute them: a word and a flag, or two words.  Each operation has one
equation between natural numbers, in which nothing is lost; chains of operations are then a matter
of linear arithmetic.

## Main definitions

* `MachineWord.adc`, `MachineWord.sbb`, `MachineWord.mulx` — the instructions.

## Main results

* `MachineWord.adc_toNat`, `MachineWord.sbb_toNat`, `MachineWord.mulx_toNat` — their equations.
-/

set_option relaxedAutoImplicit false
set_option autoImplicit false

namespace MachineWord

variable {w : ℕ}

/-- The sum of two words and a carry, with the carry out. -/
def adc (x y : BitVec w) (c : Bool) : BitVec w × Bool :=
  (x + y + BitVec.ofNat w c.toNat, decide (2 ^ w ≤ x.toNat + y.toNat + c.toNat))

/-- The difference of two words and a borrow, with the borrow out. -/
def sbb (x y : BitVec w) (c : Bool) : BitVec w × Bool :=
  (x - y - BitVec.ofNat w c.toNat, decide (x.toNat < y.toNat + c.toNat))

/-- The product of two words, the high word first. -/
def mulx (x y : BitVec w) : BitVec w × BitVec w :=
  (BitVec.ofNat w (x.toNat * y.toNat / 2 ^ w), x * y)

/-- Word and carry out are the sum. -/
theorem adc_toNat (x y : BitVec w) (c : Bool) :
    (adc x y c).1.toNat + 2 ^ w * (adc x y c).2.toNat = x.toNat + y.toNat + c.toNat := by
  have hx := x.isLt
  have hy := y.isLt
  have hc := Bool.toNat_le c
  have hval : (adc x y c).1.toNat = (x.toNat + y.toNat + c.toNat) % 2 ^ w := by
    simp [adc, Nat.add_mod]
  rw [hval]
  by_cases h : 2 ^ w ≤ x.toNat + y.toNat + c.toNat
  · rw [Nat.mod_eq_sub_mod h, Nat.mod_eq_of_lt (by omega)]
    simp [adc, h]
  · rw [Nat.mod_eq_of_lt (by omega)]
    simp [adc, h]

/-- A difference that wraps by one modulus at most. -/
lemma sub_mod_eq {x y m : ℕ} (hx : x < m) (hy : y ≤ m) :
    (x + m - y) % m + y = x + m * (decide (x < y)).toNat := by
  by_cases h : x < y
  · rw [Nat.mod_eq_of_lt (by omega), decide_eq_true h, Bool.toNat_true]
    omega
  · rw [Nat.mod_eq_sub_mod (by omega), Nat.mod_eq_of_lt (by omega), decide_eq_false h,
      Bool.toNat_false]
    omega

/-- Word and borrow out are the difference.

**Proof sketch.** Both subtractions wrap around `2 ^ w`, so the word is the difference modulo
it.  A width of zero is a case of its own. -/
theorem sbb_toNat (x y : BitVec w) (c : Bool) :
    (sbb x y c).1.toNat + (y.toNat + c.toNat) = x.toNat + 2 ^ w * (sbb x y c).2.toNat := by
  have hx := x.isLt
  have hy := y.isLt
  have hc := Bool.toNat_le c
  have hmod := Nat.mod_le c.toNat (2 ^ w)
  have hval : (sbb x y c).1.toNat = (x.toNat + 2 ^ w - (y.toNat + c.toNat)) % 2 ^ w := by
    have hcongr : 2 ^ w - c.toNat % 2 ^ w + (2 ^ w - y.toNat + x.toNat) ≡
        2 ^ w - c.toNat + (2 ^ w - y.toNat + x.toNat) [MOD 2 ^ w] := by
      rcases Nat.lt_or_ge c.toNat (2 ^ w) with hlt | hge
      · rw [Nat.mod_eq_of_lt hlt]
      · obtain rfl : c = true := by
          cases c with
          | false => exact absurd hge (by simp)
          | true => rfl
        obtain hw : 2 ^ w = 1 := by
          have hpos := Nat.two_pow_pos w
          rw [Bool.toNat_true] at hge
          omega
        rw [hw]
        exact Nat.modEq_one
    have hadd : 2 ^ w - c.toNat + (2 ^ w - y.toNat + x.toNat) =
        x.toNat + 2 ^ w - (y.toNat + c.toNat) + 2 ^ w := by
      omega
    rw [sbb, BitVec.toNat_sub, BitVec.toNat_sub, BitVec.toNat_ofNat, Nat.add_mod, Nat.mod_mod,
      ← Nat.add_mod]
    rw [hcongr, hadd, Nat.add_mod_right]
  rw [hval]
  exact sub_mod_eq hx (by omega)

/-- The two words are the product. -/
theorem mulx_toNat (x y : BitVec w) :
    (mulx x y).2.toNat + 2 ^ w * (mulx x y).1.toNat = x.toNat * y.toNat := by
  have hlt : x.toNat * y.toNat / 2 ^ w < 2 ^ w :=
    Nat.div_lt_of_lt_mul (Nat.mul_lt_mul'' x.isLt y.isLt)
  rw [mulx, BitVec.toNat_mul, BitVec.toNat_ofNat, Nat.mod_eq_of_lt hlt]
  exact Nat.mod_add_div _ _

/-- A flag that counts as nothing is not set. -/
theorem eq_false_of_toNat_eq_zero {c : Bool} (h : c.toNat = 0) : c = false := by
  cases c with
  | false => rfl
  | true => exact absurd h (by decide)

end MachineWord
