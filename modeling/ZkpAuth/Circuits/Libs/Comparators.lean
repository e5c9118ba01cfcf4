import ZkpAuth.Bn254
import ZkpAuth.Circomlib.Comparators

/-!
# The comparators of the repository

The templates `Num2Bits` and `LessThan` of `circuits/libs/comparators.circom`.  They differ from
those of circomlib in two ways: the weights are written `1 << i` instead of being doubled, and
`LessThan` does not assert anything about its width.  Shifts of circom cut their result to the bit
length of the modulus, so that `1 << i` is `2 ^ i` only below that length.

## Main definitions

* `Circom.shiftLeft`, `Circom.shiftRight` — the shifts of circom.
* `Libs.Num2Bits`, `Libs.LessThan` — the two templates.

## Main results

* `LessThan.constraints_ofLibs` — up to width 252 the constraints are those of circomlib.
* `LessThan.libs_constraints_compute` — up to width 252 they can be satisfied.
* `Libs.LessThan.sound_iff_le` — the widths at which the comparator is sound.
-/

set_option relaxedAutoImplicit false
set_option autoImplicit false

open Bn254 BitDecomposition

/-! ## Shifts -/

namespace Circom

/-- `x * 2 ^ k`, cut to the bit length of the modulus. -/
def shl (x : Fr) (k : ℕ) : Fr := ((x.val <<< k &&& (2 ^ 254 - 1) : ℕ) : Fr)

/-- `x / 2 ^ k`, rounded down. -/
def shr (x : Fr) (k : ℕ) : Fr := ((x.val >>> k : ℕ) : Fr)

/-- `x << k`.  An exponent in the upper half of the field stands for a negative one. -/
def shiftLeft (x k : Fr) : Fr := if k.val ≤ r / 2 then shl x k.val else shr x (r - k.val)

/-- `x >> k`. -/
def shiftRight (x k : Fr) : Fr := if k.val ≤ r / 2 then shr x k.val else shl x (r - k.val)

/-- Below the bit length of the modulus, `1 << i` is a power of two. -/
lemma shiftLeft_one {i : ℕ} (hi : i ≤ 253) : shiftLeft 1 (i : Fr) = 2 ^ i := by
  have hr : 254 < r / 2 := by decide
  have hval : (i : Fr).val = i := ZMod.val_cast_of_lt (by omega)
  have hlt : 2 ^ i < 2 ^ 254 := Nat.pow_lt_pow_right (by norm_num) (by omega)
  rw [shiftLeft, hval, if_pos (by omega), shl, ZMod.val_one, Nat.one_shiftLeft,
    Nat.and_two_pow_sub_one_eq_mod, Nat.mod_eq_of_lt hlt, Nat.cast_pow, Nat.cast_ofNat]

/-- Below the bit length of the modulus, `x >> i` shifts the canonical representative. -/
lemma shiftRight_val (x : Fr) {i : ℕ} (hi : i ≤ 253) :
    (shiftRight x (i : Fr)).val = x.val >>> i := by
  have hr : 254 < r / 2 := by decide
  have hval : (i : Fr).val = i := ZMod.val_cast_of_lt (by omega)
  have hlt : x.val >>> i < r := (Nat.shiftRight_le x.val i).trans_lt (ZMod.val_lt x)
  rw [shiftRight, hval, if_pos (by omega), shr, ZMod.val_cast_of_lt hlt]

end Circom

namespace Libs

/-! ## Bit decomposition -/

namespace Num2Bits

variable {n : ℕ}

/-- The signals of `Num2Bits(n)`. -/
structure Signals (n : ℕ) where
  /-- The decomposed value. -/
  inp : Fr
  /-- The bits, least significant first. -/
  out : Fin n → Fr

/-- The value of `lc` after the loop of `Num2Bits(n)`. -/
def lc (out : Fin n → Fr) : Fr :=
  Fin.foldl n (fun acc i => acc + out i * Circom.shiftLeft 1 ((i : ℕ) : Fr)) 0

/-- The constraints of `Num2Bits(n)`. -/
structure Constraints (s : Signals n) : Prop where
  /-- `out[i] * (out[i] - 1) === 0`. -/
  boolean : ∀ i, s.out i * (s.out i - 1) = 0
  /-- `lc === in`. -/
  lc_eq : lc s.out = s.inp

/-- The witness computation of `Num2Bits(n)`, with the hint `out[i] <-- (in >> i) & 1`. -/
def compute (x : Fr) : Signals n where
  inp := x
  out i := (((Circom.shiftRight x ((i : ℕ) : Fr)).val &&& 1 : ℕ) : Fr)

/-- The loop computes the sum of the weighted bits. -/
theorem lc_eq_sum (out : Fin n → Fr) :
    lc out = ∑ i, out i * Circom.shiftLeft 1 ((i : ℕ) : Fr) := by
  induction n with
  | zero => rfl
  | succ n ih =>
    rw [lc, Fin.foldl_succ_last, Fin.sum_univ_castSucc]
    exact congrArg (· + _) (ih fun i => out i.castSucc)

/-- Up to the bit length of the modulus the constraints say that `out` is a bit decomposition of
`in`. -/
theorem constraints_iff_isBits (hn : n ≤ 254) (s : Signals n) :
    Constraints s ↔ IsBits s.out s.inp := by
  have hsum : lc s.out = ∑ i, s.out i * 2 ^ (i : ℕ) := by
    rw [lc_eq_sum]
    refine Finset.sum_congr rfl fun i _ => ?_
    rw [Circom.shiftLeft_one (by omega)]
  constructor
  · intro h
    exact ⟨h.boolean, by rw [← hsum, h.lc_eq]⟩
  · intro h
    exact ⟨h.boolean, by rw [hsum, h.sum_eq]⟩

end Num2Bits

/-! ## The comparator -/

namespace LessThan

variable {n : ℕ}

/-- The signals of `LessThan(n)`. -/
structure Signals (n : ℕ) where
  /-- The compared values. -/
  inp : Fin 2 → Fr
  /-- The decision. -/
  out : Fr
  /-- The component `lt = Num2Bits(n+1)`. -/
  lt : Num2Bits.Signals (n + 1)

/-- The value that `LessThan(n)` decomposes: `in[0] + (1<<n) - in[1]`. -/
def shifted (n : ℕ) (inp : Fin 2 → Fr) : Fr := inp 0 + Circom.shiftLeft 1 (n : Fr) - inp 1

/-- The constraints of `LessThan(n)`. -/
structure Constraints (s : Signals n) : Prop where
  /-- The constraints of the component. -/
  lt : Num2Bits.Constraints s.lt
  /-- `lt.in <== in[0] + (1<<n) - in[1]`. -/
  lt_inp : s.lt.inp = shifted n s.inp
  /-- `out <== 1 - lt.out[n]`. -/
  out_eq : s.out = 1 - s.lt.out (Fin.last n)

/-- The witness computation of `LessThan(n)`. -/
def compute (inp : Fin 2 → Fr) : Signals n :=
  let lt := Num2Bits.compute (shifted n inp)
  { inp := inp, out := 1 - lt.out (Fin.last n), lt := lt }

end LessThan

end Libs

/-! ## Against the comparator of circomlib -/

/-- The signals of the repository's comparator as those of circomlib's. -/
def LessThan.Signals.ofLibs {n : ℕ} (s : Libs.LessThan.Signals n) : LessThan.Signals r n where
  inp := s.inp
  out := s.out
  n2b := { inp := s.lt.inp, out := s.lt.out }

/-- Up to width 253 the two comparators decompose the same value. -/
lemma LessThan.shifted_ofLibs {n : ℕ} (hn : n ≤ 253) (inp : Fin 2 → Fr) :
    Libs.LessThan.shifted n inp = LessThan.shifted n inp := by
  rw [LessThan.shifted, Libs.LessThan.shifted, Circom.shiftLeft_one hn, Nat.one_shiftLeft,
    Nat.cast_pow, Nat.cast_ofNat]

/-- **Up to width 252 the two comparators have the same constraints.** -/
theorem LessThan.constraints_ofLibs {n : ℕ} (hn : n ≤ 252) (s : Libs.LessThan.Signals n) :
    LessThan.Constraints (LessThan.Signals.ofLibs s) ↔ Libs.LessThan.Constraints s := by
  have hbits : Num2Bits.Constraints (LessThan.Signals.ofLibs s).n2b ↔
      Libs.Num2Bits.Constraints s.lt := by
    rw [Num2Bits.constraints_iff_isBits, Libs.Num2Bits.constraints_iff_isBits (by omega)]
    rfl
  have hshift : Libs.LessThan.shifted n s.inp = LessThan.shifted n s.inp :=
    LessThan.shifted_ofLibs (by omega) s.inp
  constructor
  · intro h
    exact ⟨hbits.mp h.n2b, h.n2b_inp.trans hshift.symm, h.out_eq⟩
  · intro h
    exact ⟨hn, hbits.mpr h.lt, h.lt_inp.trans hshift, h.out_eq⟩

/-- Up to width 252 the two comparators have the same witness computation. -/
lemma LessThan.ofLibs_compute {n : ℕ} (hn : n ≤ 252) (inp : Fin 2 → Fr) :
    LessThan.Signals.ofLibs (Libs.LessThan.compute inp : Libs.LessThan.Signals n) =
      LessThan.compute inp := by
  have hout : (Libs.Num2Bits.compute (LessThan.shifted n inp) : Libs.Num2Bits.Signals (n + 1)).out =
      (Num2Bits.compute (LessThan.shifted n inp)).out := by
    funext i
    simp only [Libs.Num2Bits.compute, Num2Bits.compute, Circom.shiftRight_val _
      (show (i : ℕ) ≤ 253 by omega)]
  rw [LessThan.Signals.ofLibs, Libs.LessThan.compute, LessThan.compute,
    LessThan.shifted_ofLibs (by omega), hout]
  rfl

/-- Up to width 252 the witness computation satisfies the constraints on operands of `n` bits. -/
theorem LessThan.libs_constraints_compute {n : ℕ} (hn : n ≤ 252) {inp : Fin 2 → Fr}
    (h₀ : (inp 0).val < 2 ^ n) (h₁ : (inp 1).val < 2 ^ n) :
    Libs.LessThan.Constraints (Libs.LessThan.compute inp : Libs.LessThan.Signals n) := by
  have hp : 2 ^ (n + 1) ≤ r :=
    (Nat.pow_le_pow_right (by norm_num) (by omega)).trans two_pow_253_le_r
  have hpow : 2 ^ (n + 1) = 2 ^ n + 2 ^ n := by ring
  rw [← LessThan.constraints_ofLibs hn, LessThan.ofLibs_compute hn]
  refine (LessThan.implements hn hp).constraints_compute inp ?_
  have hval := LessThan.shifted_val hp h₀ h₁
  change (LessThan.shifted n inp).val < 2 ^ (n + 1)
  rw [hval]
  omega

/-- Equal operands of eight bits. -/
theorem LessThan.libs_constraints_three :
    Libs.LessThan.Constraints
      (Libs.LessThan.compute (fun _ => ((3 : ℕ) : Fr)) : Libs.LessThan.Signals 8) :=
  LessThan.libs_constraints_compute (by decide) (by decide) (by decide)

/-! ## The widths at which the comparator is sound -/

namespace Libs.LessThan

variable {n : ℕ}

/-- Up to width 252 the comparator decides the order of operands of `n` bits. -/
lemma out_eq_one_iff_of_le (hn : n ≤ 252) {s : Signals n} (h : Constraints s)
    (h₀ : (s.inp 0).val < 2 ^ n) (h₁ : (s.inp 1).val < 2 ^ n) :
    s.out = 1 ↔ (s.inp 0).val < (s.inp 1).val := by
  have hp : 2 ^ (n + 1) ≤ r :=
    (Nat.pow_le_pow_right (by norm_num) (by omega)).trans two_pow_253_le_r
  exact LessThan.out_eq_one_iff hn hp ((LessThan.constraints_ofLibs hn s).mpr h) h₀ h₁

/-- The signals that are all zero but for the output `1` and the first operand, which cancels
`1<<n`. -/
def zeroBits (n : ℕ) : Signals n where
  inp := ![-Circom.shiftLeft 1 (n : Fr), ((0 : ℕ) : Fr)]
  out := 1
  lt := { inp := ((0 : ℕ) : Fr), out := fun _ => ((0 : ℕ) : Fr) }

/-- They satisfy the constraints at every width, although the second operand is `0`. -/
lemma constraints_zeroBits (n : ℕ) : Constraints (zeroBits n) where
  lt :=
    { boolean := fun _ => by simp [zeroBits]
      lc_eq := by simp [zeroBits, Num2Bits.lc_eq_sum] }
  lt_inp := by simp [zeroBits, shifted]
  out_eq := by simp [zeroBits]

/-- Above width 252 the first operand has `n` bits: the modulus is below `2 ^ 254`, and at width
253 the operand is `p - 2 ^ 253`. -/
lemma zeroBits_inp_lt (hn : 252 < n) : ((zeroBits n).inp 0).val < 2 ^ n := by
  rcases Nat.lt_or_ge n 254 with h | h
  · obtain rfl : n = 253 := by omega
    have hval : ((2 ^ 253 : ℕ) : Fr).val = 2 ^ 253 := ZMod.val_cast_of_lt two_pow_253_lt_r
    change (-Circom.shiftLeft 1 ((253 : ℕ) : Fr)).val < 2 ^ 253
    rw [Circom.shiftLeft_one le_rfl, ← Nat.cast_two, ← Nat.cast_pow, ZMod.neg_val', hval]
    have hlt := r_lt_two_pow_254
    have hmod := Nat.mod_le (r - 2 ^ 253) r
    omega
  · exact (ZMod.val_lt _).trans (r_lt_two_pow_254.trans_le
      (Nat.pow_le_pow_right (by norm_num) h))

/-- **The exact bound of the comparator.** At width `n` every satisfying assignment decides the
order of its operands, provided they have `n` bits, exactly when `n` is at most 252.

**Proof sketch.** Up to 252 the sum of `n + 1` weighted bits does not reach the modulus.  Above,
the first operand can cancel `1<<n` modulo the field, so that no bit is set and the output is `1`
although the second operand is `0`. -/
theorem sound_iff_le (n : ℕ) :
    (∀ s : Signals n, Constraints s → (s.inp 0).val < 2 ^ n → (s.inp 1).val < 2 ^ n →
      (s.out = 1 ↔ (s.inp 0).val < (s.inp 1).val)) ↔ n ≤ 252 := by
  constructor
  · intro hall
    by_contra hn
    have hzero : ((zeroBits n).inp 1).val = 0 := by
      change ((0 : ℕ) : Fr).val = 0
      rw [Nat.cast_zero, ZMod.val_zero]
    have hiff := hall (zeroBits n) (constraints_zeroBits n) (zeroBits_inp_lt (Nat.lt_of_not_le hn))
      (by rw [hzero]; positivity)
    have hlt := hiff.mp rfl
    omega
  · intro hn s h h₀ h₁
    exact out_eq_one_iff_of_le hn h h₀ h₁

end Libs.LessThan
