import ZkpAuth.Bn254
import ZkpAuth.Lib.MachineWord
import ZkpAuth.Lib.Montgomery

/-!
# Sums and differences of raw field elements

The functions of `auth_cpp/fr.asm` that add and subtract numbers of four words of 64 bits modulo
the prime.  Each reads a limb of its operands before it writes that limb of the result, so that the
result may overwrite an operand.

## Main definitions

* `AuthCpp.FrRawElement` — four limbs, the lowest first.
* `AuthCpp.Normal` — the limbs are those of the representative of a field element.
* `AuthCpp.rawAddLL`, `AuthCpp.rawAddLS`, `AuthCpp.rawSubLL`, `AuthCpp.rawSubLS`,
  `AuthCpp.rawSubSL`, `AuthCpp.rawNegL`, `AuthCpp.rawCopyS2L` — the functions.

## Main results

* `AuthCpp.Normal.rawAddLL`, `AuthCpp.Normal.rawSubLL`, `AuthCpp.Normal.rawNegL`,
  `AuthCpp.normal_rawCopyS2L` — they compute in the field.
-/

set_option relaxedAutoImplicit false
set_option autoImplicit false

open Bn254 MachineWord

namespace AuthCpp

/-- A register. -/
abbrev Word := BitVec 64

/-- `FrRawElement`. -/
@[ext]
structure FrRawElement where
  /-- The lowest limb. -/
  v0 : Word
  v1 : Word
  v2 : Word
  /-- The highest limb. -/
  v3 : Word
  deriving DecidableEq

namespace FrRawElement

/-- The number of the four limbs. -/
def toNat (a : FrRawElement) : ℕ :=
  a.v0.toNat + 2 ^ 64 * a.v1.toNat + 2 ^ 128 * a.v2.toNat + 2 ^ 192 * a.v3.toNat

/-- One word as four limbs. -/
def ofWord (x : Word) : FrRawElement := ⟨x, 0, 0, 0⟩

/-- The limbs of a number of 256 bits. -/
def ofNat (n : ℕ) : FrRawElement :=
  ⟨.ofNat 64 n, .ofNat 64 (n / 2 ^ 64), .ofNat 64 (n / 2 ^ 128), .ofNat 64 (n / 2 ^ 192)⟩

/-- Four limbs are a number of 256 bits. -/
theorem toNat_lt (a : FrRawElement) : a.toNat < 2 ^ 256 := by
  have h0 := a.v0.isLt
  have h1 := a.v1.isLt
  have h2 := a.v2.isLt
  have h3 := a.v3.isLt
  rw [toNat]
  omega

/-- The number determines the limbs. -/
theorem toNat_injective : Function.Injective toNat := by
  intro a b h
  have ha0 := a.v0.isLt
  have ha1 := a.v1.isLt
  have ha2 := a.v2.isLt
  have hb0 := b.v0.isLt
  have hb1 := b.v1.isLt
  have hb2 := b.v2.isLt
  rw [toNat, toNat] at h
  ext1 <;> apply BitVec.eq_of_toNat_eq <;> omega

/-- One word as four limbs is its number. -/
@[simp]
lemma toNat_ofWord (x : Word) : (ofWord x).toNat = x.toNat := by
  simp [ofWord, toNat]

/-- The limbs of a number are the number. -/
theorem toNat_ofNat {n : ℕ} (h : n < 2 ^ 256) : (ofNat n).toNat = n := by
  simp only [ofNat, toNat, BitVec.toNat_ofNat]
  omega

end FrRawElement

open FrRawElement

/-! ## Constants -/

/-- `q`. -/
def q : FrRawElement :=
  ⟨0x43e1f593f0000001, 0x2833e84879b97091, 0xb85045b68181585d, 0x30644e72e131a029⟩

/-- `half`. -/
def half : FrRawElement :=
  ⟨0xa1f0fac9f8000000, 0x9419f4243cdcb848, 0xdc2822db40c0ac2e, 0x183227397098d014⟩

/-- `R2`. -/
def R2 : FrRawElement :=
  ⟨0x1bb8e645ae216da7, 0x53fe3ab1e35c59e3, 0x8c49833d53bb8085, 0x0216d0b17f4e44a5⟩

/-- `R3`. -/
def R3 : FrRawElement :=
  ⟨0x5e94d8e1b4bf0040, 0x2a489cbe1cfbb6b8, 0x893cc664a19fcfed, 0x0cf8594b7fcc657c⟩

/-- `np`. -/
def np : Word := 0xc2e1f593efffffff

/-- `Fr_q` is the modulus. -/
@[simp]
lemma q_toNat : q.toNat = r := by decide

/-- `half` is half the modulus. -/
theorem half_toNat : half.toNat = r / 2 := by decide

/-! ## Chains of limbs -/

/-- Four `add`/`adc` instructions, and the carry out. -/
def addChain (a b : FrRawElement) : FrRawElement × Bool :=
  let (v0, cf) := adc a.v0 b.v0 false
  let (v1, cf) := adc a.v1 b.v1 cf
  let (v2, cf) := adc a.v2 b.v2 cf
  let (v3, cf) := adc a.v3 b.v3 cf
  (⟨v0, v1, v2, v3⟩, cf)

/-- Four `sub`/`sbb` instructions, and the borrow out. -/
def subChain (a b : FrRawElement) : FrRawElement × Bool :=
  let (v0, cf) := sbb a.v0 b.v0 false
  let (v1, cf) := sbb a.v1 b.v1 cf
  let (v2, cf) := sbb a.v2 b.v2 cf
  let (v3, cf) := sbb a.v3 b.v3 cf
  (⟨v0, v1, v2, v3⟩, cf)

/-- The cascade of `cmp`, `jc` and `jnz` from the highest limb on that jumps where `a` is below
`b`. -/
def below (a b : FrRawElement) : Bool :=
  if a.v3 < b.v3 then true
  else if a.v3 ≠ b.v3 then false
  else if a.v2 < b.v2 then true
  else if a.v2 ≠ b.v2 then false
  else if a.v1 < b.v1 then true
  else if a.v1 ≠ b.v1 then false
  else a.v0 < b.v0

/-- A chain adds. -/
lemma addChain_toNat (a b : FrRawElement) :
    (addChain a b).1.toNat + 2 ^ 256 * (addChain a b).2.toNat = a.toNat + b.toNat := by
  have h0 := adc_toNat a.v0 b.v0 false
  have h1 := adc_toNat a.v1 b.v1 (adc a.v0 b.v0 false).2
  have h2 := adc_toNat a.v2 b.v2 (adc a.v1 b.v1 (adc a.v0 b.v0 false).2).2
  have h3 := adc_toNat a.v3 b.v3 (adc a.v2 b.v2 (adc a.v1 b.v1 (adc a.v0 b.v0 false).2).2).2
  rw [Bool.toNat_false] at h0
  simp only [addChain, FrRawElement.toNat]
  omega

/-- A chain subtracts. -/
theorem subChain_toNat (a b : FrRawElement) :
    (subChain a b).1.toNat + b.toNat = a.toNat + 2 ^ 256 * (subChain a b).2.toNat := by
  have h0 := sbb_toNat a.v0 b.v0 false
  have h1 := sbb_toNat a.v1 b.v1 (sbb a.v0 b.v0 false).2
  have h2 := sbb_toNat a.v2 b.v2 (sbb a.v1 b.v1 (sbb a.v0 b.v0 false).2).2
  have h3 := sbb_toNat a.v3 b.v3 (sbb a.v2 b.v2 (sbb a.v1 b.v1 (sbb a.v0 b.v0 false).2).2).2
  rw [Bool.toNat_false] at h0
  simp only [subChain, FrRawElement.toNat]
  omega

/-- The cascade compares the numbers. -/
theorem below_iff (a b : FrRawElement) : below a b = true ↔ a.toNat < b.toNat := by
  have ha0 := a.v0.isLt
  have ha1 := a.v1.isLt
  have ha2 := a.v2.isLt
  have hb0 := b.v0.isLt
  have hb1 := b.v1.isLt
  have hb2 := b.v2.isLt
  simp only [below, FrRawElement.toNat, BitVec.lt_def, ne_eq, BitVec.toNat_eq]
  split_ifs <;> simp only [true_iff, false_iff, decide_eq_true_eq] <;> omega

/-! ## Representatives -/

/-- The limbs are those of the representative of `x`. -/
structure Normal (a : FrRawElement) (x : Fr) : Prop where
  toNat_eq : a.toNat = x.val

/-- The tail of the functions that may reach `2 * q`: `q` is subtracted when the carry is set or
the number is at least `q`. -/
def subtractQ (t : FrRawElement) (cf : Bool) : FrRawElement :=
  if cf then (subChain t q).1
  else if below t q then t
  else (subChain t q).1

/-- The tail of the functions that may go below zero: `q` is added when the borrow is set. -/
def addQ (t : FrRawElement) (cf : Bool) : FrRawElement :=
  if cf then (addChain t q).1 else t

/-- `rawAddLL`, also `Fr_rawAdd`. -/
def rawAddLL (a b : FrRawElement) : FrRawElement :=
  let (t, cf) := addChain a b
  subtractQ t cf

/-- `rawAddLS`. -/
def rawAddLS (a : FrRawElement) (s : Word) : FrRawElement :=
  let (t, cf) := addChain (ofWord s) a
  subtractQ t cf

/-- `rawSubLL`, also `Fr_rawSub`. -/
def rawSubLL (a b : FrRawElement) : FrRawElement :=
  let (t, cf) := subChain a b
  addQ t cf

/-- `rawSubLS`. -/
def rawSubLS (a : FrRawElement) (s : Word) : FrRawElement :=
  let (t, cf) := subChain a (ofWord s)
  addQ t cf

/-- `rawSubSL`. -/
def rawSubSL (s : Word) (b : FrRawElement) : FrRawElement :=
  let (t, cf) := subChain (ofWord s) b
  addQ t cf

/-- `rawNegL`, also `Fr_rawNeg`. -/
def rawNegL (a : FrRawElement) : FrRawElement :=
  if a.v0 ≠ 0 ∨ a.v1 ≠ 0 ∨ a.v2 ≠ 0 ∨ a.v3 ≠ 0 then (subChain q a).1 else ⟨0, 0, 0, 0⟩

/-- The limbs that `rawCopyS2L` writes for a word with a sign. -/
def rawCopyS2L (i : Word) : FrRawElement :=
  if i.toInt < 0 then (addChain ⟨i, -1, -1, -1⟩ q).1 else ofWord i

/-- `Fr_rawIsEq`. -/
def rawIsEq (a b : FrRawElement) : Bool :=
  a.v0 = b.v0 ∧ a.v1 = b.v1 ∧ a.v2 = b.v2 ∧ a.v3 = b.v3

/-- `Fr_rawIsZero`. -/
def rawIsZero (a : FrRawElement) : Bool := a.v0 = 0 ∧ a.v1 = 0 ∧ a.v2 = 0 ∧ a.v3 = 0

/-- Two moduli fit in four limbs. -/
theorem two_mul_r_lt : 2 * r < 2 ^ 256 := by decide

/-- Every word is below the modulus. -/
theorem word_lt_r : 2 ^ 64 < r := by decide

namespace Normal

variable {a b : FrRawElement} {x y : Fr}

/-- The limbs of a representative are reduced. -/
theorem lt (h : Normal a x) : a.toNat < r := by
  rw [h.toNat_eq]
  exact ZMod.val_lt x

/-- The number of the limbs as a field element. -/
theorem cast (h : Normal a x) : (a.toNat : Fr) = x := by
  rw [h.toNat_eq]
  exact ZMod.natCast_zmod_val x

/-- A number below the modulus is the representative of its class. -/
theorem of_lt (hlt : a.toNat < r) (hcast : (a.toNat : Fr) = x) : Normal a x := by
  refine ⟨?_⟩
  rw [← hcast, ZMod.val_cast_of_lt hlt]

/-- The element determines the limbs. -/
theorem unique (ha : Normal a x) (hb : Normal b x) : a = b :=
  toNat_injective (ha.toNat_eq.trans hb.toNat_eq.symm)

/-- The limbs determine the element. -/
theorem unique_right (hx : Normal a x) (hy : Normal a y) : x = y :=
  hx.cast.symm.trans hy.cast

end Normal

/-- The limbs of zero. -/
theorem normal_zero : Normal ⟨0, 0, 0, 0⟩ (0 : Fr) := by
  refine ⟨?_⟩
  rw [ZMod.val_zero]
  rfl

/-- Every element has limbs. -/
theorem normal_ofNat (x : Fr) : Normal (FrRawElement.ofNat x.val) x := by
  have hlt := ZMod.val_lt x
  have h2 := two_mul_r_lt
  exact ⟨toNat_ofNat (by omega)⟩

/-- The limbs of a word. -/
lemma normal_ofWord (s : Word) : Normal (ofWord s) (s.toNat : Fr) := by
  refine .of_lt ?_ ?_
  · rw [toNat_ofWord]
    exact s.isLt.trans word_lt_r
  · rw [toNat_ofWord]

/-- The tail reduces what lies below two moduli.

**Proof sketch.** Either the sum carried or it is not below the modulus, and one subtraction
brings it below; or it is below already. -/
theorem normal_subtractQ {t : FrRawElement} {cf : Bool} {n : ℕ}
    (hn : t.toNat + 2 ^ 256 * cf.toNat = n) (hlt : n < 2 * r) :
    Normal (subtractQ t cf) (n : Fr) := by
  have hsub := subChain_toNat t q
  have ht := t.toNat_lt
  have ht' := (subChain t q).1.toNat_lt
  have h2 := two_mul_r_lt
  rw [q_toNat] at hsub
  have hcast : ∀ m : ℕ, m + r = n → (m : Fr) = (n : Fr) := fun m hm => by
    rw [← hm, Nat.cast_add, ZMod.natCast_self, add_zero]
  by_cases hcf : cf = true
  · rw [hcf, Bool.toNat_true] at hn
    have hborrow := Bool.toNat_le (subChain t q).2
    have hres : (subChain t q).1.toNat + r = n := by omega
    rw [subtractQ, if_pos hcf]
    exact .of_lt (by omega) (hcast _ hres)
  · rw [Bool.not_eq_true] at hcf
    rw [hcf, Bool.toNat_false] at hn
    rw [subtractQ, if_neg (by rw [hcf]; exact Bool.false_ne_true)]
    by_cases hbelow : below t q = true
    · have hlt' := (below_iff t q).mp hbelow
      rw [q_toNat] at hlt'
      rw [if_pos hbelow]
      exact .of_lt hlt' (congrArg Nat.cast (by omega))
    · have hge := mt (below_iff t q).mpr hbelow
      rw [q_toNat] at hge
      have hborrow := Bool.toNat_le (subChain t q).2
      have hres : (subChain t q).1.toNat + r = n := by omega
      rw [if_neg hbelow]
      exact .of_lt (by omega) (hcast _ hres)

/-- The tail lifts what lies above minus one modulus. -/
lemma normal_addQ {t : FrRawElement} {cf : Bool} {m n : ℕ} (hm : m < r) (hn : n ≤ r)
    (h : t.toNat + n = m + 2 ^ 256 * cf.toNat) : Normal (addQ t cf) ((m : Fr) - (n : Fr)) := by
  have hadd := addChain_toNat t q
  have ht := t.toNat_lt
  have ht' := (addChain t q).1.toNat_lt
  have h2 := two_mul_r_lt
  rw [q_toNat] at hadd
  by_cases hcf : cf = true
  · rw [hcf, Bool.toNat_true] at h
    have hcarry := Bool.toNat_le (addChain t q).2
    have hres : (addChain t q).1.toNat + n = m + r := by omega
    rw [addQ, if_pos hcf]
    refine .of_lt (by omega) (eq_sub_of_add_eq ?_)
    rw [← Nat.cast_add, hres, Nat.cast_add, ZMod.natCast_self, add_zero]
  · rw [Bool.not_eq_true] at hcf
    rw [hcf, Bool.toNat_false] at h
    rw [addQ, if_neg (by rw [hcf]; exact Bool.false_ne_true)]
    refine .of_lt (by omega) (eq_sub_of_add_eq ?_)
    rw [← Nat.cast_add, h, Nat.mul_zero, Nat.add_zero]

namespace Normal

variable {a b : FrRawElement} {x y : Fr}

/-- `Fr_rawAdd` adds. -/
theorem rawAddLL (ha : Normal a x) (hb : Normal b y) : Normal (rawAddLL a b) (x + y) := by
  have hlt : a.toNat + b.toNat < 2 * r := by
    have ha' := ha.lt
    have hb' := hb.lt
    omega
  have h := normal_subtractQ (addChain_toNat a b) hlt
  rwa [Nat.cast_add, ha.cast, hb.cast] at h

/-- `rawAddLS` adds a word. -/
theorem rawAddLS (ha : Normal a x) (s : Word) : Normal (rawAddLS a s) (x + (s.toNat : Fr)) := by
  rw [add_comm]
  exact (normal_ofWord s).rawAddLL ha

/-- The two passes of a subtraction subtract. -/
theorem addQ_subChain (ha : Normal a x) (hb : Normal b y) :
    Normal (addQ (subChain a b).1 (subChain a b).2) (x - y) := by
  have h := normal_addQ ha.lt hb.lt.le (subChain_toNat a b)
  rwa [ha.cast, hb.cast] at h

/-- `Fr_rawSub` subtracts. -/
theorem rawSubLL (ha : Normal a x) (hb : Normal b y) : Normal (rawSubLL a b) (x - y) :=
  ha.addQ_subChain hb

/-- `rawSubLS` subtracts a word. -/
theorem rawSubLS (ha : Normal a x) (s : Word) : Normal (rawSubLS a s) (x - (s.toNat : Fr)) :=
  ha.rawSubLL (normal_ofWord s)

/-- `rawSubSL` subtracts from a word. -/
theorem rawSubSL (s : Word) (hb : Normal b y) : Normal (rawSubSL s b) ((s.toNat : Fr) - y) :=
  (normal_ofWord s).rawSubLL hb

/-- `Fr_rawIsZero` tests for zero. -/
theorem rawIsZero_iff (ha : Normal a x) : rawIsZero a = true ↔ x = 0 := by
  have hzero : AuthCpp.rawIsZero a = true ↔ a = ⟨0, 0, 0, 0⟩ := by
    rw [AuthCpp.rawIsZero, decide_eq_true_eq, FrRawElement.ext_iff]
  rw [hzero]
  constructor
  · rintro rfl
    exact ha.unique_right normal_zero
  · rintro rfl
    exact ha.unique normal_zero

/-- `Fr_rawIsEq` tests for equality. -/
theorem rawIsEq_iff (ha : Normal a x) (hb : Normal b y) : rawIsEq a b = true ↔ x = y := by
  rw [AuthCpp.rawIsEq, decide_eq_true_eq, ← FrRawElement.ext_iff]
  constructor
  · rintro rfl
    exact ha.unique_right hb
  · rintro rfl
    exact ha.unique hb

/-- `Fr_rawNeg` negates. -/
theorem rawNegL (ha : Normal a x) : Normal (rawNegL a) (-x) := by
  by_cases h : rawIsZero a = true
  · have hx := ha.rawIsZero_iff.mp h
    rw [AuthCpp.rawIsZero, decide_eq_true_eq] at h
    rw [AuthCpp.rawNegL, if_neg (by simp [h]), hx, neg_zero]
    exact normal_zero
  · have hx := mt ha.rawIsZero_iff.mpr h
    have hpos : a.toNat ≠ 0 := fun h0 => hx (by rw [← ha.cast, h0, Nat.cast_zero])
    have hsub := subChain_toNat q a
    have hlt := ha.lt
    have ht := (subChain q a).1.toNat_lt
    rw [AuthCpp.rawIsZero, decide_eq_true_eq, not_and_or, not_and_or, not_and_or] at h
    rw [AuthCpp.rawNegL, if_pos h]
    rw [q_toNat] at hsub
    have hborrow := Bool.toNat_le (subChain q a).2
    have hres : (subChain q a).1.toNat + a.toNat = r := by omega
    refine .of_lt (by omega) (eq_neg_of_add_eq_zero_left ?_)
    rw [← ha.cast, ← Nat.cast_add, hres, ZMod.natCast_self]

end Normal

/-- A word with a sign is copied as its class.

**Proof sketch.** A negative word, extended by ones, is `2 ^ 256` too large; adding the modulus
carries that out. -/
theorem normal_rawCopyS2L (i : Word) : Normal (rawCopyS2L i) (i.toInt : Fr) := by
  rw [rawCopyS2L]
  split_ifs with hneg
  · have hadd := addChain_toNat ⟨i, -1, -1, -1⟩ q
    have ht := (addChain ⟨i, -1, -1, -1⟩ q).1.toNat_lt
    have hcarry := Bool.toNat_le (addChain ⟨i, -1, -1, -1⟩ q).2
    have hones : ((-1 : Word)).toNat = 2 ^ 64 - 1 := rfl
    have hi : i.toInt = (i.toNat : ℤ) - 2 ^ 64 := by
      rw [BitVec.toInt_eq_toNat_cond] at hneg ⊢
      split_ifs at hneg ⊢ with h
      · omega
      · rw [Nat.cast_pow, Nat.cast_ofNat]
    have hilt := i.isLt
    have hr := word_lt_r
    have h2 := two_mul_r_lt
    have hlimbs : FrRawElement.toNat ⟨i, -1, -1, -1⟩ = i.toNat + (2 ^ 256 - 2 ^ 64) := by
      simp only [FrRawElement.toNat, hones]
      omega
    rw [q_toNat, hlimbs] at hadd
    have hres : (addChain ⟨i, -1, -1, -1⟩ q).1.toNat + (2 ^ 64 - i.toNat) = r := by
      omega
    refine .of_lt (by omega) ?_
    have hcast : ((addChain ⟨i, -1, -1, -1⟩ q).1.toNat : ℤ) = i.toInt + (r : ℕ) := by
      rw [hi]
      omega
    rw [← Int.cast_natCast, hcast, Int.cast_add, Int.cast_natCast, ZMod.natCast_self, add_zero]
  · have hi : i.toInt = (i.toNat : ℤ) := by
      rw [BitVec.toInt_eq_toNat_cond] at hneg ⊢
      split_ifs at hneg ⊢ with h
      · rfl
      · have hilt := i.isLt
        omega
    rw [hi, Int.cast_natCast]
    exact normal_ofWord i

end AuthCpp
