import ZkpAuth.AuthCpp.Field
import ZkpAuth.AuthCpp.Fr.Sums

/-!
# Comparisons of field elements in the C++ witness calculator

The comparisons and tests of `auth_cpp/fr.asm`.  They order the field by the signed representatives:
limbs above `half` stand for a negative number.

`Fr_toInt` has the limbs of a negative number minus the modulus as its result, but tests only that
each limb of the difference borrows.

## Main definitions

* `AuthCpp.rgt`, `AuthCpp.rlt`, `AuthCpp.req`, `AuthCpp.isTrue`, `AuthCpp.toInt` — the tests.
* `AuthCpp.Heap.frGt`, `AuthCpp.Heap.frLt`, `AuthCpp.Heap.frEq` and the other functions that write
  the result of a test.

## Main results

* `AuthCpp.FrElement.Represents.rgt`, `AuthCpp.FrElement.Represents.rlt`,
  `AuthCpp.FrElement.Represents.req`, `AuthCpp.FrElement.Represents.isTrue` — the tests decide the
  order and the equality of the field.
* `AuthCpp.toInt_eq_some_iff` — when `Fr_toInt` returns, and what.
* `AuthCpp.toInt_cast_iff` — when the number that it returns is right.
* `AuthCpp.Heap.tests_represent` — what the functions write.
-/

set_option relaxedAutoImplicit false
set_option autoImplicit false

open Bn254 MachineWord BitDecomposition

namespace AuthCpp

open FrElement FrRawElement

/-! ## Comparisons of limbs -/

/-- `rgtL1L2`. -/
def rgtL1L2 (a b : FrRawElement) : Bool :=
  if below half a then
    -- `rgtl1l2_n1`
    if below half b then below b a else false
  else
    -- `rgtl1l2_p1`
    if below half b then true else below b a

/-- `rltL1L2`. -/
def rltL1L2 (a b : FrRawElement) : Bool :=
  if below half a then
    -- `rltl1l2_n1`
    if below half b then (if below b a then false else a ≠ b) else true
  else
    -- `rltl1l2_p1`
    if below half b then false else (if below b a then false else a ≠ b)

/-! ## Tests -/

/-- The operands of `Fr_rgt` and `Fr_rlt` are compared as short elements, or else as long ones out
of Montgomery form. -/
def compareNormal (s1s2 : BitVec 32 → BitVec 32 → Bool)
    (l1l2 : FrRawElement → FrRawElement → Bool) (a b : FrElement) : Bool :=
  match a.isLong, b.isLong with
  | false, false => s1s2 a.shortVal b.shortVal
  | true, false =>
    if a.isMontgomery then l1l2 (toNormal tmp a).longVal (toLongNormal tmp b).longVal
    else l1l2 a.longVal (toLongNormal tmp b).longVal
  | false, true =>
    if b.isMontgomery then l1l2 (toLongNormal tmp a).longVal (toNormal tmp b).longVal
    else l1l2 (toLongNormal tmp a).longVal b.longVal
  | true, true =>
    match a.isMontgomery, b.isMontgomery with
    | false, false => l1l2 a.longVal b.longVal
    | false, true => l1l2 a.longVal (toNormal tmp b).longVal
    | true, false => l1l2 (toNormal tmp a).longVal b.longVal
    | true, true => l1l2 (toNormal tmp a).longVal (toNormal tmp b).longVal

/-- `Fr_rgt`. -/
def rgt (a b : FrElement) : Bool :=
  compareNormal (fun x y => decide (y.toInt < x.toInt)) rgtL1L2 a b

/-- `Fr_rlt`. -/
def rlt (a b : FrElement) : Bool :=
  compareNormal (fun x y => decide (x.toInt < y.toInt)) rltL1L2 a b

/-- `Fr_req`, which compares two long operands in Montgomery form when one of them is. -/
def req (a b : FrElement) : Bool :=
  match a.isLong, b.isLong with
  | false, false => a.shortVal = b.shortVal
  | true, false =>
    if a.isMontgomery then rawIsEq a.longVal (toMontgomery b).longVal
    else rawIsEq a.longVal (toLongNormal tmp b).longVal
  | false, true =>
    if b.isMontgomery then rawIsEq (toMontgomery a).longVal b.longVal
    else rawIsEq (toLongNormal tmp a).longVal b.longVal
  | true, true =>
    match a.isMontgomery, b.isMontgomery with
    | false, false => rawIsEq a.longVal b.longVal
    | false, true => rawIsEq (toMontgomery a).longVal b.longVal
    | true, false => rawIsEq a.longVal (toMontgomery b).longVal
    | true, true => rawIsEq a.longVal b.longVal

/-- `Fr_isTrue`. -/
def isTrue (a : FrElement) : Bool :=
  if a.isLong then !rawIsZero a.longVal else a.shortVal ≠ 0

/-- `Fr_longNeg`: the difference to the modulus, limb by limb.  `none` is the failing assertion of
`Fr_fail`. -/
def longNeg (y : FrRawElement) : Option (BitVec 32) :=
  let d0 := sbb y.v0 q.v0 false
  let d1 := sbb y.v1 q.v1 d0.2
  let d2 := sbb y.v2 q.v2 d1.2
  let d3 := sbb y.v3 q.v3 d2.2
  if d0.2 = false then none
  else if d1.2 = false then none
  else if d2.2 = false then none
  else if d3.2 = false then none
  else if d0.1.sshiftRight 31 + 1 ≠ 0 then none
  else some (d0.1.setWidth 32)

/-- `Fr_longNormal`. -/
def longNormal (y : FrRawElement) : Option (BitVec 32) :=
  if y.v0 >>> 31 ≠ 0 ∨ y.v1 ≠ 0 ∨ y.v2 ≠ 0 ∨ y.v3 ≠ 0 then longNeg y
  else some (y.v0.setWidth 32)

/-- `Fr_toInt`, whose result is a number of 32 bits with a sign. -/
def toInt (a : FrElement) : Option (BitVec 32) :=
  if a.isLong then
    longNormal (if a.isMontgomery then (toNormal tmp a).longVal else a.longVal)
  else some a.shortVal

/-! ## What the tests decide -/

/-- The limbs are above `half` when the signed representative is negative. -/
lemma Normal.valMinAbs_eq {a : FrRawElement} {x : Fr} (ha : Normal a x) :
    x.valMinAbs = if below half a then (a.toNat : ℤ) - r else a.toNat := by
  have hbelow : below half a = true ↔ ¬x.val ≤ r / 2 := by
    rw [below_iff, half_toNat, ha.toNat_eq, not_le]
  rw [ZMod.valMinAbs_def_pos, ha.toNat_eq]
  by_cases hle : x.val ≤ r / 2
  · rw [if_pos hle, if_neg fun hb => hbelow.mp hb hle]
  · rw [if_neg hle, if_pos (hbelow.mpr hle)]

section Limbs

variable {a b : FrRawElement} {x y : Fr}

/-- `rgtL1L2` on limbs decides the order of the signed representatives. -/
lemma Normal.rgtL1L2 (ha : Normal a x) (hb : Normal b y) :
    rgtL1L2 a b = decide (y.valMinAbs < x.valMinAbs) := by
  have hraw := below_iff b a
  have hla := ha.lt
  have hlb := hb.lt
  rw [AuthCpp.rgtL1L2, ha.valMinAbs_eq, hb.valMinAbs_eq, Bool.eq_iff_iff, decide_eq_true_iff]
  split_ifs
  · rw [hraw]
    omega
  · simp only [false_iff]
    omega
  · simp only [true_iff]
    omega
  · rw [hraw]
    omega

/-- `rltL1L2` on limbs decides the order of the signed representatives.

**Proof sketch.** The representative is above `half` exactly when the signed one is negative.  Case
split on both signs. -/
lemma Normal.rltL1L2 (ha : Normal a x) (hb : Normal b y) :
    rltL1L2 a b = decide (x.valMinAbs < y.valMinAbs) := by
  have hraw : (if below b a then false else decide (a ≠ b)) = true ↔ a.toNat < b.toNat := by
    have hne : decide (a ≠ b) = true ↔ a.toNat ≠ b.toNat := by
      rw [decide_eq_true_iff, toNat_injective.ne_iff]
    split_ifs with hlt
    · rw [below_iff] at hlt
      simp only [false_iff]
      omega
    · rw [below_iff] at hlt
      rw [hne]
      omega
  have hla := ha.lt
  have hlb := hb.lt
  rw [AuthCpp.rltL1L2, ha.valMinAbs_eq, hb.valMinAbs_eq, Bool.eq_iff_iff, decide_eq_true_iff]
  by_cases hna : below half a = true <;> by_cases hnb : below half b = true
  · rw [if_pos hna, if_pos hna, if_pos hnb, if_pos hnb, hraw]
    omega
  · rw [if_pos hna, if_pos hna, if_neg hnb, if_neg hnb]
    simp only [true_iff]
    omega
  · rw [if_neg hna, if_neg hna, if_pos hnb, if_pos hnb]
    simp only [Bool.false_eq_true, false_iff]
    omega
  · rw [if_neg hna, if_neg hna, if_neg hnb, if_neg hnb, hraw]
    omega

end Limbs

namespace FrElement.Represents

variable {a b : FrElement} {v w : Fr}

/-- A comparison that is right for short elements and for limbs is right. -/
lemma compareNormal {s1s2 : BitVec 32 → BitVec 32 → Bool}
    {l1l2 : FrRawElement → FrRawElement → Bool} (rel : Fr → Fr → Bool) (hv : a.Represents v)
    (hw : b.Represents w)
    (hs : a.isLong = false → b.isLong = false → s1s2 a.shortVal b.shortVal = rel v w)
    (hl : ∀ x y : FrRawElement, Normal x v → Normal y w → l1l2 x y = rel v w) :
    AuthCpp.compareNormal s1s2 l1l2 a b = rel v w := by
  cases hal : a.isLong <;> cases hbl : b.isLong <;> simp only [AuthCpp.compareNormal, hal, hbl]
  case false.false => exact hs hal hbl
  case false.true =>
    split_ifs with hbm
    · exact hl _ _ (hv.normal_toLongNormal tmp) (hw.normal_toNormal hbl tmp)
    · rw [Bool.not_eq_true] at hbm
      exact hl _ _ (hv.normal_toLongNormal tmp) (hw.normal hbl hbm)
  case true.false =>
    split_ifs with ham
    · exact hl _ _ (hv.normal_toNormal hal tmp) (hw.normal_toLongNormal tmp)
    · rw [Bool.not_eq_true] at ham
      exact hl _ _ (hv.normal hal ham) (hw.normal_toLongNormal tmp)
  case true.true =>
    cases ham : a.isMontgomery <;> cases hbm : b.isMontgomery <;> simp only
    case false.false => exact hl _ _ (hv.normal hal ham) (hw.normal hbl hbm)
    case false.true => exact hl _ _ (hv.normal hal ham) (hw.normal_toNormal hbl tmp)
    case true.false => exact hl _ _ (hv.normal_toNormal hal tmp) (hw.normal hbl hbm)
    case true.true => exact hl _ _ (hv.normal_toNormal hal tmp) (hw.normal_toNormal hbl tmp)

/-- `Fr_rgt` compares the signed representatives. -/
theorem rgt (hv : a.Represents v) (hw : b.Represents w) :
    rgt a b = decide (w.valMinAbs < v.valMinAbs) := by
  refine compareNormal (fun v w => decide (w.valMinAbs < v.valMinAbs)) hv hw ?_ ?_
  · intro hal hbl
    rw [hv.valMinAbs_short hal, hw.valMinAbs_short hbl]
  · intro x y hx hy
    exact hx.rgtL1L2 hy

/-- `Fr_rlt` compares the signed representatives. -/
theorem rlt (hv : a.Represents v) (hw : b.Represents w) :
    rlt a b = decide (v.valMinAbs < w.valMinAbs) := by
  refine compareNormal (fun v w => decide (v.valMinAbs < w.valMinAbs)) hv hw ?_ ?_
  · intro hal hbl
    rw [hv.valMinAbs_short hal, hw.valMinAbs_short hbl]
  · intro x y hx hy
    exact hx.rltL1L2 hy

/-- `Fr_req` compares the field elements.

**Proof sketch.** The limbs of both operands are compared in one form, as numbers or in Montgomery
form, and both are injective. -/
theorem req (hv : a.Represents v) (hw : b.Represents w) : req a b = decide (v = w) := by
  -- The limbs of both operands out of Montgomery form, or in it.
  have hnormal : ∀ x y : FrRawElement, Normal x v → Normal y w → rawIsEq x y = decide (v = w) :=
    fun x y hx hy => by rw [Bool.eq_iff_iff, hx.rawIsEq_iff hy, decide_eq_true_iff]
  have hmont : ∀ x y : FrRawElement, Normal x (v * R) → Normal y (w * R) →
      rawIsEq x y = decide (v = w) := fun x y hx hy => by
    rw [Bool.eq_iff_iff, hx.rawIsEq_iff hy, decide_eq_true_iff, mul_left_inj' R_ne_zero]
  cases hal : a.isLong <;> cases hbl : b.isLong <;> simp only [AuthCpp.req, hal, hbl]
  case false.false =>
    rw [decide_eq_decide, ← BitVec.toInt_inj, ← hv.valMinAbs_short hal, ← hw.valMinAbs_short hbl,
      ZMod.valMinAbs_inj]
  case false.true =>
    split_ifs with hbm
    · exact hmont _ _ hv.normal_toMontgomery (hw.montgomery hbm)
    · rw [Bool.not_eq_true] at hbm
      exact hnormal _ _ (hv.normal_toLongNormal tmp) (hw.normal hbl hbm)
  case true.false =>
    split_ifs with ham
    · exact hmont _ _ (hv.montgomery ham) hw.normal_toMontgomery
    · rw [Bool.not_eq_true] at ham
      exact hnormal _ _ (hv.normal hal ham) (hw.normal_toLongNormal tmp)
  case true.true =>
    cases ham : a.isMontgomery <;> cases hbm : b.isMontgomery <;> simp only
    case false.false => exact hnormal _ _ (hv.normal hal ham) (hw.normal hbl hbm)
    case false.true => exact hmont _ _ hv.normal_toMontgomery (hw.montgomery hbm)
    case true.false => exact hmont _ _ (hv.montgomery ham) hw.normal_toMontgomery
    case true.true => exact hmont _ _ (hv.montgomery ham) (hw.montgomery hbm)

/-- `Fr_isTrue` tests whether the field element is not zero. -/
theorem isTrue (hv : a.Represents v) : isTrue a = decide (v ≠ 0) := by
  rw [AuthCpp.isTrue, Bool.eq_iff_iff]
  split_ifs with hl
  · have hzero : rawIsZero a.longVal = true ↔ v = 0 := by
      cases hm : a.isMontgomery with
      | false => exact (hv.normal hl hm).rawIsZero_iff
      | true => rw [(hv.montgomery hm).rawIsZero_iff, mul_eq_zero_iff_right R_ne_zero]
    rw [Bool.not_eq_true', decide_eq_true_iff, ← Bool.not_eq_true, hzero]
  · rw [Bool.not_eq_true] at hl
    have hzero : (0 : BitVec 32).toInt = 0 := rfl
    rw [decide_eq_true_iff, decide_eq_true_iff, not_iff_not, ← BitVec.toInt_inj,
      ← hv.valMinAbs_short hl, hzero, ZMod.valMinAbs_eq_zero]

end FrElement.Represents

/-! ## Conversion to an integer -/

/-- A word with a sign that fits in 32 bits. -/
lemma setWidth_toInt {x : Word} (hlow : -2 ^ 31 ≤ x.toInt) (hhigh : x.toInt < 2 ^ 31) :
    (x.setWidth 32).toInt = x.toInt := by
  have hx := x.isLt
  rw [BitVec.toInt_eq_toNat_cond] at hlow hhigh
  rw [BitVec.toInt_eq_toNat_cond, BitVec.toInt_eq_toNat_cond, BitVec.toNat_setWidth]
  split_ifs at hlow hhigh ⊢ <;> omega

/-- The arithmetic shift by 31 bits is all ones for a negative number of 32 bits. -/
lemma sshiftRight_add_one_eq_zero_iff (x : Word) :
    x.sshiftRight 31 + 1 = 0 ↔ -2 ^ 31 ≤ x.toInt ∧ x.toInt < 0 := by
  have hones : x.sshiftRight 31 + 1 = 0 ↔ x.sshiftRight 31 = -1 := by
    generalize x.sshiftRight 31 = y
    constructor <;> intro h <;> bv_omega
  have hneg : ((-1 : Word)).toInt = -1 := rfl
  rw [hones, ← BitVec.toInt_inj, BitVec.toInt_sshiftRight, hneg, Int.shiftRight_eq_div_pow]
  omega

/-- The limbs that `Fr_longNeg` returns `n` for.  Only the lowest one is that of a negative number;
of the others it is tested that they are not above those of the modulus. -/
structure Borrows (y : FrRawElement) (n : ℤ) : Prop where
  v0 : (y.v0.toNat : ℤ) = q.v0.toNat + n
  v1 : y.v1.toNat ≤ q.v1.toNat
  v2 : y.v2.toNat ≤ q.v2.toNat
  v3 : y.v3.toNat ≤ q.v3.toNat

/-- The first limb borrows when it is below that of the modulus. -/
lemma sbb_false_eq_false_iff (x y : Word) : (sbb x y false).2 = false ↔ y.toNat ≤ x.toNat := by
  rw [sbb, decide_eq_false_iff_not, Bool.toNat_false, add_zero, not_lt]

/-- After a borrow, a limb borrows when it is at most that of the modulus. -/
lemma sbb_true_eq_false_iff (x y : Word) : (sbb x y true).2 = false ↔ y.toNat < x.toNat := by
  rw [sbb, decide_eq_false_iff_not, Bool.toNat_true, not_lt, Nat.succ_le_iff]

/-- When `Fr_longNeg` returns, and what.

**Proof sketch.** Limb by limb: where the subtraction of the modulus does not borrow, the function
fails and a limb is above the one that `Borrows` asks for.  If all borrow, the low word of the
difference, read with its sign, decides. -/
lemma longNeg_eq_some_iff (y : FrRawElement) (n : BitVec 32) :
    longNeg y = some n ↔ n.toInt < 0 ∧ Borrows y n.toInt := by
  simp only [longNeg]
  have hd := sbb_toNat y.v0 q.v0 false
  rw [Bool.toNat_false] at hd
  by_cases c0 : (sbb y.v0 q.v0 false).2 = false
  · rw [if_pos c0]
    rw [sbb_false_eq_false_iff] at c0
    refine iff_of_false nofun ?_
    rintro ⟨hn, hy⟩
    have hv0 := hy.v0
    omega
  rw [if_neg c0]
  rw [Bool.not_eq_false] at c0
  rw [c0, Bool.toNat_true] at hd
  rw [c0]
  by_cases c1 : (sbb y.v1 q.v1 true).2 = false
  · rw [if_pos c1]
    rw [sbb_true_eq_false_iff] at c1
    exact iff_of_false nofun fun hy => absurd hy.2.v1 (not_le.mpr c1)
  rw [if_neg c1]
  rw [Bool.not_eq_false] at c1
  rw [c1]
  by_cases c2 : (sbb y.v2 q.v2 true).2 = false
  · rw [if_pos c2]
    rw [sbb_true_eq_false_iff] at c2
    exact iff_of_false nofun fun hy => absurd hy.2.v2 (not_le.mpr c2)
  rw [if_neg c2]
  rw [Bool.not_eq_false] at c2
  rw [c2]
  by_cases c3 : (sbb y.v3 q.v3 true).2 = false
  · rw [if_pos c3]
    rw [sbb_true_eq_false_iff] at c3
    exact iff_of_false nofun fun hy => absurd hy.2.v3 (not_le.mpr c3)
  rw [if_neg c3]
  -- All limbs borrow, and the low word of the difference is negative.
  rw [sbb_true_eq_false_iff, not_lt] at c3
  have hc1 := mt (sbb_true_eq_false_iff y.v1 q.v1).mpr (by rw [c1]; exact Bool.noConfusion)
  have hc2 := mt (sbb_true_eq_false_iff y.v2 q.v2).mpr (by rw [c2]; exact Bool.noConfusion)
  rw [not_lt] at hc1 hc2
  have hlow := n.le_toInt
  set d := (sbb y.v0 q.v0 false).1
  have hsar := sshiftRight_add_one_eq_zero_iff d
  have hdlt := d.isLt
  have hcond := BitVec.toInt_eq_toNat_cond d
  by_cases hrange : -2 ^ 31 ≤ d.toInt ∧ d.toInt < 0
  · have hval : (y.v0.toNat : ℤ) = q.v0.toNat + d.toInt := by
      rw [hcond] at hrange ⊢
      split_ifs at hrange ⊢ <;> omega
    have hset := setWidth_toInt hrange.1 (by omega)
    rw [if_neg (not_not.mpr (hsar.mpr hrange)), Option.some_inj, ← BitVec.toInt_inj, hset]
    constructor
    · rintro heq
      rw [← heq]
      exact ⟨hrange.2, hval, hc1, hc2, c3⟩
    · rintro ⟨-, hy⟩
      have hv0 := hy.v0
      omega
  · rw [if_pos (mt hsar.mp hrange)]
    refine iff_of_false nofun ?_
    rintro ⟨hn, hy⟩
    have hv0 := hy.v0
    refine hrange ?_
    rw [hcond]
    split_ifs <;> omega

/-- The lowest limb of the modulus. -/
lemma q_v0_toNat : q.v0.toNat = 0x43e1f593f0000001 := rfl

/-- When `Fr_longNormal` returns, and what.

**Proof sketch.** The four shifts and words are zero exactly below `2 ^ 31`.  There the lowest limb
is the number; above, `longNeg` decides, and no such element is of the first kind. -/
lemma longNormal_eq_some_iff (y : FrRawElement) (n : BitVec 32) :
    longNormal y = some n ↔
      (0 ≤ n.toInt ∧ (y.toNat : ℤ) = n.toInt) ∨ (n.toInt < 0 ∧ Borrows y n.toInt) := by
  have hlow := n.le_toInt
  have hhigh := n.toInt_lt
  have hzero : ∀ x : Word, x = 0 ↔ x.toNat = 0 := fun x => by
    rw [← BitVec.toNat_inj, toNat_zero]
  have hshift : y.v0 >>> 31 = 0 ↔ y.v0.toNat < 2 ^ 31 := by
    rw [hzero, BitVec.toNat_ushiftRight, Nat.shiftRight_eq_div_pow]
    omega
  have hsmall : (y.v0 >>> 31 ≠ 0 ∨ y.v1 ≠ 0 ∨ y.v2 ≠ 0 ∨ y.v3 ≠ 0) ↔ 2 ^ 31 ≤ y.toNat := by
    rw [Ne, hshift, Ne, hzero, Ne, hzero, Ne, hzero, FrRawElement.toNat]
    omega
  rw [longNormal]
  by_cases hlarge : 2 ^ 31 ≤ y.toNat
  · rw [if_pos (hsmall.mpr hlarge), longNeg_eq_some_iff]
    have hfirst : ¬(0 ≤ n.toInt ∧ (y.toNat : ℤ) = n.toInt) := by omega
    rw [or_iff_right hfirst]
  · rw [if_neg (mt hsmall.mp hlarge), Option.some_inj, ← BitVec.toInt_inj]
    have hsecond : ¬(n.toInt < 0 ∧ Borrows y n.toInt) := by
      rintro ⟨-, hy⟩
      have hv0 := hy.v0
      rw [q_v0_toNat] at hv0
      rw [FrRawElement.toNat] at hlarge
      omega
    have hv0 : y.toNat = y.v0.toNat := by
      rw [FrRawElement.toNat] at hlarge ⊢
      omega
    have hcond := BitVec.toInt_eq_toNat_cond y.v0
    rw [or_iff_left hsecond, hv0, setWidth_toInt] <;> split_ifs at hcond <;> omega

/-- The limbs of a negative number of 32 bits. -/
lemma borrows_ofNat {m : ℕ} {s : ℤ} (hm : (m : ℤ) = r + s) (hlow : -2 ^ 31 ≤ s) (hneg : s < 0)
    (n : ℤ) : Borrows (FrRawElement.ofNat m) n ↔ n = s := by
  have hq : q.toNat = r := q_toNat
  have h0 := q_v0_toNat
  have l1 := q.v1.isLt
  have l2 := q.v2.isLt
  have l3 := q.v3.isLt
  rw [FrRawElement.toNat] at hq
  have hv0 : (FrRawElement.ofNat m).v0.toNat = m % 2 ^ 64 := BitVec.toNat_ofNat _ _
  have hv1 : (FrRawElement.ofNat m).v1.toNat = m / 2 ^ 64 % 2 ^ 64 := BitVec.toNat_ofNat _ _
  have hv2 : (FrRawElement.ofNat m).v2.toNat = m / 2 ^ 128 % 2 ^ 64 := BitVec.toNat_ofNat _ _
  have hv3 : (FrRawElement.ofNat m).v3.toNat = m / 2 ^ 192 % 2 ^ 64 := BitVec.toNat_ofNat _ _
  constructor
  · intro hy
    have hb := hy.v0
    omega
  · rintro rfl
    constructor <;> omega

/-- **When `Fr_toInt` returns, and what**: a number below `2 ^ 31`, or a negative number whose limbs
it takes those of the field element for.

**Proof sketch.** A long element gives its limbs to `longNormal`.  A short one is returned as it
is, and its representative is itself or the modulus plus it. -/
theorem toInt_eq_some_iff {a : FrElement} {v : Fr} (hv : a.Represents v) (n : BitVec 32) :
    toInt a = some n ↔ (0 ≤ n.toInt ∧ (v.val : ℤ) = n.toInt) ∨
      (n.toInt < 0 ∧ Borrows (FrRawElement.ofNat v.val) n.toInt) := by
  rw [toInt]
  split_ifs with hl hm
  · have hlimbs := hv.normal_toNormal hl tmp
    rw [longNormal_eq_some_iff, hlimbs.unique (normal_ofNat v), (normal_ofNat v).toNat_eq]
  · rw [Bool.not_eq_true] at hm
    have hlimbs := hv.normal hl hm
    rw [longNormal_eq_some_iff, hlimbs.unique (normal_ofNat v), (normal_ofNat v).toNat_eq]
  · rw [Bool.not_eq_true] at hl
    have hval := hv.val_short hl
    have hlow := a.shortVal.le_toInt
    have hhigh := a.shortVal.toInt_lt
    have hnlow := n.le_toInt
    have hnhigh := n.toInt_lt
    have hr : (2 ^ 64 : ℤ) < r := by exact_mod_cast word_lt_r
    rw [Option.some_inj, ← BitVec.toInt_inj]
    by_cases hneg : a.shortVal.toInt < 0
    · rw [if_pos hneg] at hval
      have hfirst : ¬(0 ≤ n.toInt ∧ (v.val : ℤ) = n.toInt) := by omega
      rw [or_iff_right hfirst, borrows_ofNat hval hlow hneg]
      omega
    · rw [if_neg hneg] at hval
      have hsecond : ¬(n.toInt < 0 ∧ Borrows (FrRawElement.ofNat v.val) n.toInt) := by
        rintro ⟨-, hy⟩
        have hv0 : (FrRawElement.ofNat v.val).v0.toNat = v.val % 2 ^ 64 := BitVec.toNat_ofNat _ _
        have hb := hy.v0
        rw [q_v0_toNat] at hb
        omega
      rw [or_iff_left hsecond]
      omega

/-- `Fr_toInt` returns the signed representative when it has 32 bits. -/
theorem toInt_of_valMinAbs {a : FrElement} {v : Fr} (hv : a.Represents v)
    (hlow : -2 ^ 31 ≤ v.valMinAbs) (hhigh : v.valMinAbs < 2 ^ 31) :
    toInt a = some (.ofInt 32 v.valMinAbs) := by
  have hn : (BitVec.ofInt 32 v.valMinAbs).toInt = v.valMinAbs :=
    BitVec.toInt_ofInt_eq_self (by decide) hlow hhigh
  have hdef := ZMod.valMinAbs_def_pos v
  have hlt := ZMod.val_lt v
  rw [toInt_eq_some_iff hv, hn]
  by_cases hneg : v.valMinAbs < 0
  · have hm : (v.val : ℤ) = r + v.valMinAbs := by
      rw [hdef] at hneg ⊢
      split_ifs at hneg ⊢ <;> omega
    exact .inr ⟨hneg, (borrows_ofNat hm hlow hneg _).mpr rfl⟩
  · refine .inl ⟨not_lt.mp hneg, ?_⟩
    rw [hdef] at hneg ⊢
    split_ifs at hneg ⊢ <;> omega

/-- **When the number that `Fr_toInt` returns is right**: always, if it is not negative; a negative
one exactly when the upper limbs of the element are those of the modulus.

**Proof sketch.** A negative number and its class differ by the modulus.  The lowest limb always
agrees, so the condition is on the limbs above. -/
theorem toInt_cast_iff {a : FrElement} {v : Fr} {n : BitVec 32} (hv : a.Represents v)
    (hn : toInt a = some n) :
    (n.toInt : Fr) = v ↔ (n.toInt < 0 → v.val / 2 ^ 64 = r / 2 ^ 64) := by
  have hcast : (v.val : Fr) = v := ZMod.natCast_zmod_val v
  rw [toInt_eq_some_iff hv] at hn
  obtain ⟨hpos, hval⟩ | ⟨hneg, hy⟩ := hn
  · refine iff_of_true ?_ fun hneg => absurd hpos (not_le.mpr hneg)
    rw [← hval, Int.cast_natCast, hcast]
  · have hlow := n.le_toInt
    have hlt := ZMod.val_lt v
    have h0 := q_v0_toNat
    have hv0 : (FrRawElement.ofNat v.val).v0.toNat = v.val % 2 ^ 64 := BitVec.toNat_ofNat _ _
    have hb := hy.v0
    have hq : r % 2 ^ 64 = q.v0.toNat := by decide
    rw [forall_prop_of_true hneg]
    constructor
    · -- The representative of a negative number is the modulus plus that number.
      intro h
      have hsum : (v.val : ℤ) = r + n.toInt := by
        have hmod : ((v.val : ℤ) : Fr) = ((r + n.toInt : ℤ) : Fr) := by
          rw [Int.cast_natCast, hcast, Int.cast_add, Int.cast_natCast, ZMod.natCast_self, zero_add,
            h]
        have hr : (2 ^ 64 : ℤ) < r := by exact_mod_cast word_lt_r
        have hemod := (ZMod.intCast_eq_intCast_iff' _ _ r).mp hmod
        rwa [Int.emod_eq_of_lt (by omega) (by omega), Int.emod_eq_of_lt (by omega) (by omega)]
          at hemod
      omega
    · intro h
      have hsum : (v.val : ℤ) = r + n.toInt := by omega
      rw [← hcast, ← Int.cast_natCast v.val, hsum, Int.cast_add, Int.cast_natCast,
        ZMod.natCast_self, zero_add]

/-- `Fr_toInt` returns -1 for a positive number that has the lowest limb of -1. -/
theorem toInt_not_cast :
    ((-1 : BitVec 32).toInt : Fr) ≠ ((0x43e1f593f0000000 : ℕ) : Fr) := by
  have hv : FrElement.Represents ⟨0, LONG, FrRawElement.ofNat ((0x43e1f593f0000000 : ℕ) : Fr).val⟩
      ((0x43e1f593f0000000 : ℕ) : Fr) := represents_long (normal_ofNat _) 0
  rw [Ne, toInt_cast_iff hv (by decide)]
  decide

/-! ## Results of tests -/

namespace Heap

variable {P : Type} [DecidableEq P]

/-- The result of a test is written as a short element. -/
def writeBool (h : Heap P) (rdi : P) (rax : Bool) : Heap P :=
  h.set rdi { h rdi with shortVal := if rax then 1 else 0, type := SHORT }

/-- `Fr_gt`. -/
def frGt (h : Heap P) (rdi rsi rdx : P) : Heap P := h.writeBool rdi (rgt (h rsi) (h rdx))

/-- `Fr_lt`. -/
def frLt (h : Heap P) (rdi rsi rdx : P) : Heap P := h.writeBool rdi (rlt (h rsi) (h rdx))

/-- `Fr_eq`. -/
def frEq (h : Heap P) (rdi rsi rdx : P) : Heap P := h.writeBool rdi (req (h rsi) (h rdx))

/-- `Fr_neq`. -/
def frNeq (h : Heap P) (rdi rsi rdx : P) : Heap P := h.writeBool rdi !(req (h rsi) (h rdx))

/-- `Fr_geq`. -/
def frGeq (h : Heap P) (rdi rsi rdx : P) : Heap P := h.writeBool rdi !(rlt (h rsi) (h rdx))

/-- `Fr_leq`. -/
def frLeq (h : Heap P) (rdi rsi rdx : P) : Heap P := h.writeBool rdi !(rgt (h rsi) (h rdx))

/-- `Fr_land`. -/
def frLand (h : Heap P) (rdi rsi rdx : P) : Heap P :=
  h.writeBool rdi (isTrue (h rsi) && isTrue (h rdx))

/-- `Fr_lor`. -/
def frLor (h : Heap P) (rdi rsi rdx : P) : Heap P :=
  h.writeBool rdi (isTrue (h rsi) || isTrue (h rdx))

/-- `Fr_lnot`. -/
def frLnot (h : Heap P) (rdi rsi : P) : Heap P := h.writeBool rdi !(isTrue (h rsi))

/-- The record that is written stands for the answer. -/
lemma writeBool_represents (h : Heap P) (rdi : P) (c : Bool) :
    (h.writeBool rdi c rdi).Represents (toField c) := by
  rw [writeBool, set_same]
  refine represents_short ?_ _
  cases c with
  | false => exact Int.cast_zero
  | true => exact Int.cast_one

/-- No other record changes. -/
theorem writeBool_of_ne (h : Heap P) {rdi p : P} (hne : p ≠ rdi) (c : Bool) :
    h.writeBool rdi c p = h p :=
  set_of_ne h hne _

section Tests

variable {h : Heap P} {rdi rsi rdx : P} {v w : Fr}

/-- `Fr_gt` on records is `Fr_gt` on field elements. -/
theorem frGt_represents (hv : (h rsi).Represents v) (hw : (h rdx).Represents w) :
    (h.frGt rdi rsi rdx rdi).Represents (AuthCpp.frGt v w) := by
  rw [frGt, hv.rgt hw]
  exact writeBool_represents h rdi _

/-- `Fr_lt` on records is `Fr_lt` on field elements. -/
theorem frLt_represents (hv : (h rsi).Represents v) (hw : (h rdx).Represents w) :
    (h.frLt rdi rsi rdx rdi).Represents (AuthCpp.frLt v w) := by
  rw [frLt, hv.rlt hw]
  exact writeBool_represents h rdi _

/-- `Fr_eq` on records is `Fr_eq` on field elements. -/
theorem frEq_represents (hv : (h rsi).Represents v) (hw : (h rdx).Represents w) :
    (h.frEq rdi rsi rdx rdi).Represents (AuthCpp.frEq v w) := by
  rw [frEq, hv.req hw]
  exact writeBool_represents h rdi _

/-- **The tests** write 1 if they hold and 0 if not: the order is that of the signed
representatives, and a number is true if it is not zero. -/
theorem tests_represent (hv : (h rsi).Represents v) (hw : (h rdx).Represents w) :
    (h.frGt rdi rsi rdx rdi).Represents (toField (decide (w.valMinAbs < v.valMinAbs))) ∧
    (h.frLt rdi rsi rdx rdi).Represents (toField (decide (v.valMinAbs < w.valMinAbs))) ∧
    (h.frGeq rdi rsi rdx rdi).Represents (toField (decide (w.valMinAbs ≤ v.valMinAbs))) ∧
    (h.frLeq rdi rsi rdx rdi).Represents (toField (decide (v.valMinAbs ≤ w.valMinAbs))) ∧
    (h.frEq rdi rsi rdx rdi).Represents (toField (decide (v = w))) ∧
    (h.frNeq rdi rsi rdx rdi).Represents (toField (decide (v ≠ w))) ∧
    (h.frLand rdi rsi rdx rdi).Represents (toField (decide (v ≠ 0 ∧ w ≠ 0))) ∧
    (h.frLor rdi rsi rdx rdi).Represents (toField (decide (v ≠ 0 ∨ w ≠ 0))) ∧
    (h.frLnot rdi rsi rdi).Represents (toField (decide (v = 0))) := by
  have hwrite := writeBool_represents h rdi
  refine ⟨frGt_represents hv hw, frLt_represents hv hw, ?_, ?_, frEq_represents hv hw, ?_, ?_, ?_,
    ?_⟩
  case refine_1 =>
    rw [frGeq, hv.rlt hw, ← decide_not]
    simpa only [not_lt] using hwrite (decide ¬v.valMinAbs < w.valMinAbs)
  case refine_2 =>
    rw [frLeq, hv.rgt hw, ← decide_not]
    simpa only [not_lt] using hwrite (decide ¬w.valMinAbs < v.valMinAbs)
  case refine_3 =>
    rw [frNeq, hv.req hw, ← decide_not]
    exact hwrite _
  case refine_4 =>
    rw [frLand, hv.isTrue, hw.isTrue, Bool.decide_and]
    exact hwrite _
  case refine_5 =>
    rw [frLor, hv.isTrue, hw.isTrue, Bool.decide_or]
    exact hwrite _
  case refine_6 =>
    rw [frLnot, hv.isTrue, ← decide_not]
    simpa only [not_not] using hwrite (decide ¬v ≠ 0)

/-- -1 is below 5, though its representative is not. -/
theorem tests_sample : (sample.frLt 0 2 0 0).Represents (1 : Fr) := by
  have h : (sample.frLt 0 2 0 0).Represents _ := (tests_represent sample_two sample_zero).2.1
  have hlt : (-1 : Fr).valMinAbs < ((5 : ℕ) : Fr).valMinAbs := by decide
  rwa [decide_eq_true hlt, toField_true] at h

end Tests

end Heap

end AuthCpp
