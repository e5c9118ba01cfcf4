import ZkpAuth.AuthCpp.Fr.Sums

/-!
# Products of field elements in the C++ witness calculator

`Fr_mul` and `Fr_square` of `auth_cpp/fr.asm`.  The type of the result is chosen so that at most one
more multiplication is needed to divide out `R`: two factors of which one is in Montgomery form give
a product that is not.

The blocks for two short operands store the product in 32 bits when it fits, but go on into the
block for the overflow, which stores it again as a long element.

## Main definitions

* `AuthCpp.Heap.frMul`, `AuthCpp.Heap.frSquare` — the functions.

## Main results

* `AuthCpp.Heap.frMul_represents`, `AuthCpp.Heap.frSquare_represents` — they multiply, whichever
  operands the result overwrites.
* `AuthCpp.Heap.frMul_refines` — multiplication on the whole heap.
-/

set_option relaxedAutoImplicit false
set_option autoImplicit false

open Bn254

namespace AuthCpp

open FrElement

/-- The product of two numbers of 32 bits fits in 64 bits. -/
lemma signedWord_mul_toInt (x y : FrElement) :
    (x.signedWord * y.signedWord).toInt = x.shortVal.toInt * y.shortVal.toInt := by
  have hx := x.shortVal.toInt_lt
  have hx' := x.shortVal.le_toInt
  have hy := y.shortVal.toInt_lt
  have hy' := y.shortVal.le_toInt
  have habs : |x.shortVal.toInt * y.shortVal.toInt| ≤ 2 ^ 31 * 2 ^ 31 := by
    rw [abs_mul]
    exact mul_le_mul (abs_le.mpr ⟨by omega, by omega⟩) (abs_le.mpr ⟨by omega, by omega⟩)
      (abs_nonneg _) (by norm_num)
  obtain ⟨hlow, hhigh⟩ := abs_le.mp habs
  rw [BitVec.toInt_mul, signedWord_toInt, signedWord_toInt]
  exact Int.bmod_eq_of_le (by omega) (by omega)

namespace Heap

variable {P : Type} [DecidableEq P]

/-! ## Functions -/

/-- The blocks for two short operands, with the product of 32 bits and that of 64 bits. -/
def mulShort (h : Heap P) (rdi : P) (a b : FrElement) : Heap P :=
  let h :=
    if BitVec.smulOverflow a.shortVal b.shortVal then h
    else h.set rdi { h rdi with shortVal := a.shortVal * b.shortVal, type := SHORT }
  h.set rdi (longOfWord (a.signedWord * b.signedWord))

/-- `Fr_mul`. -/
def frMul (h : Heap P) (rdi rsi rdx : P) : Heap P :=
  let r8 := h rsi
  let r9 := h rdx
  match r8.isLong, r9.isLong with
  | false, false => h.mulShort rdi r8 r9
  | true, false =>
    match r8.isMontgomery, r9.isMontgomery with
    | false, false =>
      h.writeLong rdi LONGMONTGOMERY fun h => rawMMul (mulSigned (h rsi).longVal r9.signedWord) R3
    | false, true => h.writeLong rdi LONG (bothLL rawMMul rsi rdx)
    | true, false => h.writeLong rdi LONG fun h => mulSigned (h rsi).longVal r9.signedWord
    | true, true => h.writeLong rdi LONGMONTGOMERY (bothLL rawMMul rsi rdx)
  | false, true =>
    match r8.isMontgomery, r9.isMontgomery with
    | false, false =>
      h.writeLong rdi LONGMONTGOMERY fun h => rawMMul (mulSigned (h rdx).longVal r8.signedWord) R3
    | false, true => h.writeLong rdi LONG fun h => mulSigned (h rdx).longVal r8.signedWord
    | true, false => h.writeLong rdi LONG (bothLL rawMMul rsi rdx)
    | true, true => h.writeLong rdi LONGMONTGOMERY (bothLL rawMMul rsi rdx)
  | true, true =>
    match r8.isMontgomery, r9.isMontgomery with
    | false, false =>
      h.writeLong rdi LONGMONTGOMERY fun h => rawMMul (rawMMul (h rsi).longVal (h rdx).longVal) R3
    | false, true => h.writeLong rdi LONG (bothLL rawMMul rsi rdx)
    | true, false => h.writeLong rdi LONG (bothLL rawMMul rsi rdx)
    | true, true => h.writeLong rdi LONGMONTGOMERY (bothLL rawMMul rsi rdx)

/-- `Fr_square`. -/
def frSquare (h : Heap P) (rdi rsi : P) : Heap P :=
  let r8 := h rsi
  match r8.isLong, r8.isMontgomery with
  | false, _ => h.mulShort rdi r8 r8
  | true, false =>
    h.writeLong rdi LONGMONTGOMERY fun h => rawMMul (rawMSquare (h rsi).longVal) R3
  | true, true => h.writeLong rdi LONGMONTGOMERY fun h => rawMSquare (h rsi).longVal

/-! ## What the functions compute -/

/-- `R` cancels against its inverse. -/
lemma R_mul_inv : R * R⁻¹ = 1 := mul_inv_cancel₀ R_ne_zero

section Products

variable {a b : FrRawElement} {v w : Fr}

/-- The Montgomery product of limbs. -/
lemma normal_rawMMul (ha : Normal a v) (hb : Normal b w) :
    Normal (rawMMul a b) (v * w * R⁻¹) := by
  have h := Normal.rawMMul a hb
  rwa [ha.cast] at h

/-- Two factors in Montgomery form. -/
lemma normal_rawMMul_montgomery (ha : Normal a (v * R)) (hb : Normal b (w * R)) :
    Normal (rawMMul a b) (v * w * R) := by
  have h := normal_rawMMul ha hb
  have heq : v * R * (w * R) * R⁻¹ = v * w * R := by linear_combination v * w * R * R_mul_inv
  rwa [heq] at h

/-- The first factor is in Montgomery form. -/
lemma normal_rawMMul_first (ha : Normal a (v * R)) (hb : Normal b w) :
    Normal (rawMMul a b) (v * w) := by
  have h := normal_rawMMul ha hb
  have heq : v * R * w * R⁻¹ = v * w := by linear_combination v * w * R_mul_inv
  rwa [heq] at h

/-- The second factor is in Montgomery form. -/
lemma normal_rawMMul_second (ha : Normal a v) (hb : Normal b (w * R)) :
    Normal (rawMMul a b) (v * w) := by
  have h := normal_rawMMul ha hb
  have heq : v * (w * R) * R⁻¹ = v * w := by linear_combination v * w * R_mul_inv
  rwa [heq] at h

/-- A product without `R` is brought into Montgomery form with `R3`. -/
lemma normal_rawMMul_R3 (ha : Normal a (v * w * R⁻¹)) : Normal (rawMMul a R3) (v * w * R) := by
  have h := normal_rawMMul ha normal_R3
  have heq : v * w * R⁻¹ * (R * R * R) * R⁻¹ = v * w * R := by
    linear_combination v * w * R * (R * R⁻¹ + 1) * R_mul_inv
  rwa [heq] at h

/-- A factor in Montgomery form times a word. -/
lemma normal_mulSigned (ha : Normal a (v * R)) {i : Word} (hi : (i.toInt : Fr) = w) :
    Normal (mulSigned a i) (v * w) := by
  have h := ha.mulSigned i
  have heq : w * (v * R) * R⁻¹ = v * w := by linear_combination v * w * R_mul_inv
  rwa [hi, heq] at h

/-- A factor times a word, brought into Montgomery form. -/
lemma normal_mulSigned_R3 (ha : Normal a v) {i : Word} (hi : (i.toInt : Fr) = w) :
    Normal (rawMMul (mulSigned a i) R3) (v * w * R) := by
  have h := ha.mulSigned i
  rw [hi, mul_comm w v] at h
  exact normal_rawMMul_R3 h

end Products

section Functions

variable {h : Heap P} {rdi rsi rdx : P} {v w : Fr}

/-- Two short operands. -/
lemma mulShort_represents {a b : FrElement} (hv : a.Represents v) (hw : b.Represents w)
    (hal : a.isLong = false) (hbl : b.isLong = false) :
    (h.mulShort rdi a b rdi).Represents (v * w) := by
  have hlong := longOfWord_represents (a.signedWord * b.signedWord)
  rw [signedWord_mul_toInt, Int.cast_mul, hv.short hal, hw.short hbl] at hlong
  rw [mulShort, set_same]
  exact hlong

/-- A product of short elements writes to its result only. -/
lemma mulShort_of_ne {p : P} (hne : p ≠ rdi) (a b : FrElement) :
    h.mulShort rdi a b p = h p := by
  rw [mulShort]
  split_ifs
  · exact set_of_ne h hne _
  · rw [set_set, set_of_ne h hne]

/-- **`Fr_mul` multiplies**, whichever operands the result overwrites.

**Proof sketch.** Case split on the two types.  One Montgomery product divides by `R`: two operands
in Montgomery form leave the product in that form, mixed ones leave it as limbs, and two that are
not in it need a second product, with `R3`.  A short operand goes through `mulSigned`. -/
theorem frMul_represents (hv : (h rsi).Represents v) (hw : (h rdx).Represents w) :
    (h.frMul rdi rsi rdx rdi).Represents (v * w) := by
  cases hal : (h rsi).isLong with
  | false =>
    cases hbl : (h rdx).isLong with
    | false =>
      simp only [frMul, hal, hbl]
      exact mulShort_represents hv hw hal hbl
    | true =>
      have hword := hv.signedWord hal
      cases ham : (h rsi).isMontgomery <;> cases hbm : (h rdx).isMontgomery <;>
        simp only [frMul, hal, hbl, ham, hbm]
      case false.false =>
        refine writeLong_longMontgomery ?_
        rw [setType_longVal, mul_comm v w]
        exact normal_mulSigned_R3 (hw.normal hbl hbm) hword
      case false.true =>
        refine writeLong_long ?_
        rw [setType_longVal, mul_comm v w]
        exact normal_mulSigned (hw.montgomery hbm) hword
      case true.false =>
        refine writeLong_long ?_
        rw [bothLL, setType_longVal, setType_longVal]
        exact normal_rawMMul_first (hv.montgomery ham) (hw.normal hbl hbm)
      case true.true =>
        refine writeLong_longMontgomery ?_
        rw [bothLL, setType_longVal, setType_longVal]
        exact normal_rawMMul_montgomery (hv.montgomery ham) (hw.montgomery hbm)
  | true =>
    cases hbl : (h rdx).isLong with
    | false =>
      have hword := hw.signedWord hbl
      cases ham : (h rsi).isMontgomery <;> cases hbm : (h rdx).isMontgomery <;>
        simp only [frMul, hal, hbl, ham, hbm]
      case false.false =>
        refine writeLong_longMontgomery ?_
        rw [setType_longVal]
        exact normal_mulSigned_R3 (hv.normal hal ham) hword
      case false.true =>
        refine writeLong_long ?_
        rw [bothLL, setType_longVal, setType_longVal]
        exact normal_rawMMul_second (hv.normal hal ham) (hw.montgomery hbm)
      case true.false =>
        refine writeLong_long ?_
        rw [setType_longVal]
        exact normal_mulSigned (hv.montgomery ham) hword
      case true.true =>
        refine writeLong_longMontgomery ?_
        rw [bothLL, setType_longVal, setType_longVal]
        exact normal_rawMMul_montgomery (hv.montgomery ham) (hw.montgomery hbm)
    | true =>
      cases ham : (h rsi).isMontgomery <;> cases hbm : (h rdx).isMontgomery <;>
        simp only [frMul, hal, hbl, ham, hbm]
      case false.false =>
        refine writeLong_longMontgomery ?_
        rw [setType_longVal, setType_longVal]
        exact normal_rawMMul_R3 (normal_rawMMul (hv.normal hal ham) (hw.normal hbl hbm))
      case false.true =>
        refine writeLong_long ?_
        rw [bothLL, setType_longVal, setType_longVal]
        exact normal_rawMMul_second (hv.normal hal ham) (hw.montgomery hbm)
      case true.false =>
        refine writeLong_long ?_
        rw [bothLL, setType_longVal, setType_longVal]
        exact normal_rawMMul_first (hv.montgomery ham) (hw.normal hbl hbm)
      case true.true =>
        refine writeLong_longMontgomery ?_
        rw [bothLL, setType_longVal, setType_longVal]
        exact normal_rawMMul_montgomery (hv.montgomery ham) (hw.montgomery hbm)

/-- `Fr_mul` writes the result only. -/
theorem frMul_of_ne {p : P} (hne : p ≠ rdi) : h.frMul rdi rsi rdx p = h p := by
  have hwrite : ∀ type limbs, h.writeLong rdi type limbs p = h p := writeLong_of_ne h hne
  rw [frMul]
  cases (h rsi).isLong <;> cases (h rdx).isLong <;> cases (h rsi).isMontgomery <;>
    cases (h rdx).isMontgomery <;> first | exact mulShort_of_ne hne _ _ | exact hwrite _ _

/-- **`Fr_mul` on the heap**: whichever operands the result overwrites, it stands for the product,
and every other record for what it did. -/
theorem frMul_refines (hv : (h rsi).Represents v) (hw : (h rdx).Represents w) {p : P} {u : Fr}
    (hu : (h p).Represents u) :
    (h.frMul rdi rsi rdx p).Represents (if p = rdi then v * w else u) := by
  split_ifs with hp
  · rw [hp]
    exact frMul_represents hv hw
  · rw [frMul_of_ne hp]
    exact hu

/-- The product of a long element and one in Montgomery form overwrites the second. -/
theorem frMul_sample :
    (sample.frMul 1 0 1 1).Represents (((5 : ℕ) : Fr) * ((7 : ℕ) : Fr)) := by
  have h : (sample.frMul 1 0 1 1).Represents (if 1 = 1 then _ else _) :=
    frMul_refines sample_zero sample_one sample_one
  rwa [if_pos rfl] at h

/-- **`Fr_square` squares.** -/
theorem frSquare_represents (hv : (h rsi).Represents v) :
    (h.frSquare rdi rsi rdi).Represents (v * v) := by
  cases hal : (h rsi).isLong with
  | false =>
    simp only [frSquare, hal]
    exact mulShort_represents hv hv hal hal
  | true =>
    cases ham : (h rsi).isMontgomery with
    | false =>
      simp only [frSquare, hal, ham]
      refine writeLong_longMontgomery ?_
      rw [setType_longVal]
      exact normal_rawMMul_R3 (hv.normal hal ham).rawMSquare
    | true =>
      simp only [frSquare, hal, ham]
      refine writeLong_longMontgomery ?_
      rw [setType_longVal]
      exact normal_rawMMul_montgomery (hv.montgomery ham) (hv.montgomery ham)

/-- A long element is squared, in place. -/
theorem frSquare_sample : (sample.frSquare 0 0 0).Represents (((5 : ℕ) : Fr) * ((5 : ℕ) : Fr)) :=
  frSquare_represents sample_zero

/-- `Fr_square` writes the result only. -/
lemma frSquare_of_ne {p : P} (hne : p ≠ rdi) : h.frSquare rdi rsi p = h p := by
  have hwrite : ∀ type limbs, h.writeLong rdi type limbs p = h p := writeLong_of_ne h hne
  rw [frSquare]
  cases (h rsi).isLong <;> cases (h rsi).isMontgomery <;>
    first | exact mulShort_of_ne hne _ _ | exact hwrite _ _

end Functions

end Heap

end AuthCpp
