import ZkpAuth.AuthCpp.Fr.Element

/-!
# Sums and differences of field elements in the C++ witness calculator

`Fr_add`, `Fr_sub` and `Fr_neg` of `auth_cpp/fr.asm`.  A block with a label is taken when the types
of the operands say so.  Every block that computes with limbs first writes the type of the result;
a block in which one operand is not in Montgomery form then has `Fr_toMontgomery` convert it, which
reads its type again.

## Main definitions

* `AuthCpp.Heap.frAdd`, `AuthCpp.Heap.frSub`, `AuthCpp.Heap.frNeg` — the functions.
* `AuthCpp.Heap.ConvertsResult` — the result overwrites the operand that is converted.

## Main results

* `AuthCpp.Heap.frAdd_represents`, `AuthCpp.Heap.frSub_represents` — sum and difference, unless the
  result overwrites the operand that is converted.
* `AuthCpp.Heap.frAdd_represents_iff`, `AuthCpp.Heap.frSub_represents_iff` — the same exactly, for a
  long element that is overwritten.
* `AuthCpp.Heap.frNeg_represents` — the negation.
-/

set_option relaxedAutoImplicit false
set_option autoImplicit false

open Bn254

namespace AuthCpp

open FrElement FrRawElement

/-! ## Words -/

/-- The sum of two numbers of 32 bits fits in 64 bits. -/
lemma signedWord_add_toInt (x y : FrElement) :
    (x.signedWord + y.signedWord).toInt = x.shortVal.toInt + y.shortVal.toInt := by
  have hx := x.shortVal.toInt_lt
  have hx' := x.shortVal.le_toInt
  have hy := y.shortVal.toInt_lt
  have hy' := y.shortVal.le_toInt
  rw [BitVec.toInt_add, signedWord_toInt, signedWord_toInt]
  exact Int.bmod_eq_of_le (by omega) (by omega)

/-- The difference of two numbers of 32 bits fits in 64 bits. -/
lemma signedWord_sub_toInt (x y : FrElement) :
    (x.signedWord - y.signedWord).toInt = x.shortVal.toInt - y.shortVal.toInt := by
  have hx := x.shortVal.toInt_lt
  have hx' := x.shortVal.le_toInt
  have hy := y.shortVal.toInt_lt
  have hy' := y.shortVal.le_toInt
  rw [BitVec.toInt_sub, signedWord_toInt, signedWord_toInt]
  exact Int.bmod_eq_of_le (by omega) (by omega)

namespace Heap

variable {P : Type} [DecidableEq P]

/-! ## Blocks -/

/-- The type is written first, then the limbs are computed from the heap, and written. -/
def writeLong (h : Heap P) (rdi : P) (type : BitVec 32) (limbs : Heap P → FrRawElement) : Heap P :=
  let h := h.setType rdi type
  h.set rdi { h rdi with longVal := limbs h }

/-- The limbs of both operands are taken as they are. -/
def bothLL (op : FrRawElement → FrRawElement → FrRawElement) (rsi rdx : P) (h : Heap P) :
    FrRawElement :=
  op (h rsi).longVal (h rdx).longVal

/-- The first operand is converted to Montgomery form. -/
def convertFirstLL (op : FrRawElement → FrRawElement → FrRawElement) (rsi rdx : P) (h : Heap P) :
    FrRawElement :=
  op (toMontgomery (h rsi)).longVal (h rdx).longVal

/-- The second operand is converted to Montgomery form. -/
def convertSecondLL (op : FrRawElement → FrRawElement → FrRawElement) (rsi rdx : P) (h : Heap P) :
    FrRawElement :=
  op (h rsi).longVal (toMontgomery (h rdx)).longVal

/-- The second half of `rawNegLS`, with the borrow `dl` of the first half. -/
def subBorrowed (a b : FrRawElement) (dl : Bool) : FrRawElement :=
  let (t, dh) := subChain a b
  addQ t (dl || dh)

/-- `rawNegLS`, which writes `q - rdx` into the limbs of the result before it reads the operand. -/
def rawNegLS (h : Heap P) (rdi rsi : P) (rdx : Word) : Heap P :=
  let (t, dl) := subChain q (ofWord rdx)
  let h := h.set rdi { h rdi with longVal := t }
  h.set rdi { h rdi with longVal := subBorrowed (h rdi).longVal (h rsi).longVal dl }

/-- The blocks of `Fr_add` and `Fr_sub` by the types of the operands, with the blocks in which the
two functions differ: both operands short, the second one short and the first one not in Montgomery
form, and the first one short and the second one not in Montgomery form. -/
def byTypes (h : Heap P) (op : FrRawElement → FrRawElement → FrRawElement)
    (s1s2 l1ns2 s1l2n : Heap P) (rdi rsi rdx : P) : Heap P :=
  let rax := h rsi
  let rcx := h rdx
  match rax.isLong, rcx.isLong with
  | false, false => s1s2
  | true, false =>
    match rax.isMontgomery, rcx.isMontgomery with
    | false, _ => l1ns2
    | true, false => h.writeLong rdi LONGMONTGOMERY (convertSecondLL op rsi rdx)
    | true, true => h.writeLong rdi LONGMONTGOMERY (bothLL op rsi rdx)
  | false, true =>
    match rcx.isMontgomery, rax.isMontgomery with
    | false, _ => s1l2n
    | true, false => h.writeLong rdi LONGMONTGOMERY (convertFirstLL op rsi rdx)
    | true, true => h.writeLong rdi LONGMONTGOMERY (bothLL op rsi rdx)
  | true, true =>
    match rax.isMontgomery, rcx.isMontgomery with
    | false, false => h.writeLong rdi LONG (bothLL op rsi rdx)
    | false, true => h.writeLong rdi LONGMONTGOMERY (convertFirstLL op rsi rdx)
    | true, false => h.writeLong rdi LONGMONTGOMERY (convertSecondLL op rsi rdx)
    | true, true => h.writeLong rdi LONGMONTGOMERY (bothLL op rsi rdx)

/-! ## Functions -/

/-- `Fr_add`. -/
def frAdd (h : Heap P) (rdi rsi rdx : P) : Heap P :=
  let rax := h rsi
  let rcx := h rdx
  h.byTypes rawAddLL
    -- `add_s1s2`
    (if BitVec.saddOverflow rax.shortVal rcx.shortVal then
      h.set rdi (longOfWord (rax.signedWord + rcx.signedWord))
    else
      h.set rdi { h rdi with shortVal := rax.shortVal + rcx.shortVal, type := SHORT })
    -- `add_l1ns2`
    (h.writeLong rdi LONG fun h => addSigned (h rsi).longVal rcx.signedWord)
    -- `add_s1l2n`
    (h.writeLong rdi LONG fun h => addSigned (h rdx).longVal rax.signedWord)
    rdi rsi rdx

/-- `Fr_sub`. -/
def frSub (h : Heap P) (rdi rsi rdx : P) : Heap P :=
  let rax := h rsi
  let rcx := h rdx
  h.byTypes rawSubLL
    -- `sub_s1s2`
    (if BitVec.ssubOverflow rax.shortVal rcx.shortVal then
      h.set rdi (longOfWord (rax.signedWord - rcx.signedWord))
    else
      h.set rdi { h rdi with shortVal := rax.shortVal - rcx.shortVal, type := SHORT })
    -- `sub_l1ns2`
    (h.writeLong rdi LONG fun h => subSigned (h rsi).longVal rcx.signedWord)
    -- `sub_s1l2n`
    (if rax.shortVal.toInt < 0 then (h.setType rdi LONG).rawNegLS rdi rdx (-rax.signedWord)
    else h.writeLong rdi LONG fun h => rawSubSL rax.signedWord (h rdx).longVal)
    rdi rsi rdx

/-- `Fr_neg`. -/
def frNeg (h : Heap P) (rdi rsi : P) : Heap P :=
  let rax := h rsi
  if rax.isLong then h.set rdi { rax with longVal := rawNegL rax.longVal }
  else if BitVec.negOverflow rax.shortVal then
    -- The negation in 32 bits has changed `eax` into itself.
    h.set rdi (longOfWord (-((-rax.shortVal).signExtend 64)))
  else h.set rdi { h rdi with shortVal := -rax.shortVal, type := SHORT }

/-! ## What a block computes -/

/-- The result is an operand that is not in Montgomery form, and the other operand is a long one
in Montgomery form. -/
def ConvertsResult (h : Heap P) (rdi rsi rdx : P) : Prop :=
  (rdi = rsi ∧ (h rsi).isMontgomery = false ∧ (h rdx).isLong = true ∧
      (h rdx).isMontgomery = true) ∨
    (rdi = rdx ∧ (h rdx).isMontgomery = false ∧ (h rsi).isLong = true ∧
      (h rsi).isMontgomery = true)

/-- Whether the result overwrites a converted operand is decided by its pointers and types. -/
instance (h : Heap P) (rdi rsi rdx : P) : Decidable (ConvertsResult h rdi rsi rdx) :=
  inferInstanceAs (Decidable (_ ∨ _))

/-- The long result that is written. -/
lemma writeLong_self (h : Heap P) (rdi : P) (type : BitVec 32) (limbs : Heap P → FrRawElement) :
    h.writeLong rdi type limbs rdi = ⟨(h rdi).shortVal, type, limbs (h.setType rdi type)⟩ := by
  rw [writeLong, set_same, setType, set_same]

/-- No other record changes. -/
theorem writeLong_of_ne (h : Heap P) {rdi p : P} (hne : p ≠ rdi) (type : BitVec 32)
    (limbs : Heap P → FrRawElement) : h.writeLong rdi type limbs p = h p := by
  rw [writeLong, setType, set_set, set_of_ne h hne]

/-- The result stands for the element of its limbs. -/
theorem writeLong_long {h : Heap P} {rdi : P} {limbs : Heap P → FrRawElement} {v : Fr}
    (hv : Normal (limbs (h.setType rdi LONG)) v) :
    (h.writeLong rdi LONG limbs rdi).Represents v := by
  rw [writeLong_self]
  exact represents_long hv _

/-- The result in Montgomery form stands for the element of its limbs over `R`. -/
theorem writeLong_longMontgomery {h : Heap P} {rdi : P} {limbs : Heap P → FrRawElement} {v : Fr}
    (hv : Normal (limbs (h.setType rdi LONGMONTGOMERY)) (v * R)) :
    (h.writeLong rdi LONGMONTGOMERY limbs rdi).Represents v := by
  rw [writeLong_self]
  exact represents_longMontgomery hv _

/-- An operand that the result does not overwrite is converted. -/
lemma normal_convert {h : Heap P} {rdi p : P} {v : Fr} (hv : (h p).Represents v)
    (hne : rdi ≠ p) (type : BitVec 32) :
    Normal (toMontgomery (h.setType rdi type p)).longVal (v * R) := by
  rw [setType, set_of_ne h hne.symm]
  exact hv.normal_toMontgomery

/-- An operand that the result overwrites is taken as it is. -/
lemma normal_convert_self {h : Heap P} {p : P} {v : Fr} (hv : (h p).Represents v)
    (hl : (h p).isLong = true) (hm : (h p).isMontgomery = false) :
    Normal (toMontgomery (h.setType p LONGMONTGOMERY p)).longVal (v * R⁻¹ * R) := by
  have hmont : (h.setType p LONGMONTGOMERY p).isMontgomery = true := by
    rw [setType, set_same]
    exact montgomeryBit_types.2.2.2
  rw [toMontgomery, if_pos hmont, setType_longVal, mul_assoc, inv_mul_cancel₀ R_ne_zero, mul_one]
  exact hv.normal hl hm

section Blocks

variable {op : FrRawElement → FrRawElement → FrRawElement} {g : Fr → Fr → Fr}
  (hop : ∀ {a b : FrRawElement} {x y : Fr}, Normal a x → Normal b y → Normal (op a b) (g x y))
  (hR : ∀ x y : Fr, g x y * R = g (x * R) (y * R))
  {h : Heap P} {rdi rsi rdx : P} {v w : Fr}

include hop

/-- Neither operand is in Montgomery form. -/
lemma bothLL_long (hv : Normal (h rsi).longVal v) (hw : Normal (h rdx).longVal w) :
    (h.writeLong rdi LONG (bothLL op rsi rdx) rdi).Represents (g v w) := by
  refine writeLong_long ?_
  rw [bothLL, setType_longVal, setType_longVal]
  exact hop hv hw

include hR

/-- Both operands are in Montgomery form. -/
lemma bothLL_longMontgomery (hv : Normal (h rsi).longVal (v * R))
    (hw : Normal (h rdx).longVal (w * R)) :
    (h.writeLong rdi LONGMONTGOMERY (bothLL op rsi rdx) rdi).Represents (g v w) := by
  refine writeLong_longMontgomery ?_
  rw [bothLL, setType_longVal, setType_longVal, hR]
  exact hop hv hw

/-- The operation on limbs, after the first operand has been converted. -/
lemma convertFirstLL_longMontgomery
    (hv : Normal (toMontgomery (h.setType rdi LONGMONTGOMERY rsi)).longVal (v * R))
    (hw : Normal (h rdx).longVal (w * R)) :
    (h.writeLong rdi LONGMONTGOMERY (convertFirstLL op rsi rdx) rdi).Represents (g v w) := by
  refine writeLong_longMontgomery ?_
  rw [convertFirstLL, setType_longVal, hR]
  exact hop hv hw

/-- The operation on limbs, after the second operand has been converted. -/
lemma convertSecondLL_longMontgomery (hv : Normal (h rsi).longVal (v * R))
    (hw : Normal (toMontgomery (h.setType rdi LONGMONTGOMERY rdx)).longVal (w * R)) :
    (h.writeLong rdi LONGMONTGOMERY (convertSecondLL op rsi rdx) rdi).Represents (g v w) := by
  refine writeLong_longMontgomery ?_
  rw [convertSecondLL, setType_longVal, hR]
  exact hop hv hw

end Blocks

section ByTypes

variable {op : FrRawElement → FrRawElement → FrRawElement} {g : Fr → Fr → Fr}
  (hop : ∀ {a b : FrRawElement} {x y : Fr}, Normal a x → Normal b y → Normal (op a b) (g x y))
  (hR : ∀ x y : Fr, g x y * R = g (x * R) (y * R))
  {s1s2 l1ns2 s1l2n h : Heap P} {rdi rsi rdx : P} {v w : Fr}
  (hv : (h rsi).Represents v) (hw : (h rdx).Represents w)

include hop hR hv hw

/-- Every block computes the operation of the field, when the three that are not shared do, and no
operand is overwritten before it is converted.

**Proof sketch.** Case split on the types, in the order of the code.  The blocks on limbs need both
operands in one form; where one is converted first, `hsafe` says that it is not the result. -/
lemma byTypes_represents (hsafe : ¬h.ConvertsResult rdi rsi rdx)
    (hs1s2 : (h rsi).isLong = false → (h rdx).isLong = false → (s1s2 rdi).Represents (g v w))
    (hl1ns2 : (h rsi).isLong = true → (h rsi).isMontgomery = false → (h rdx).isLong = false →
      (l1ns2 rdi).Represents (g v w))
    (hs1l2n : (h rsi).isLong = false → (h rdx).isLong = true → (h rdx).isMontgomery = false →
      (s1l2n rdi).Represents (g v w)) :
    (byTypes h op s1s2 l1ns2 s1l2n rdi rsi rdx rdi).Represents (g v w) := by
  -- The conversion of an operand, when the other one asks for it.
  have hfirst : (h rsi).isMontgomery = false → (h rdx).isLong = true →
      (h rdx).isMontgomery = true →
        Normal (toMontgomery (h.setType rdi LONGMONTGOMERY rsi)).longVal (v * R) :=
    fun ham hbl hbm => normal_convert hv (fun heq => hsafe (.inl ⟨heq, ham, hbl, hbm⟩)) _
  have hsecond : (h rdx).isMontgomery = false → (h rsi).isLong = true →
      (h rsi).isMontgomery = true →
        Normal (toMontgomery (h.setType rdi LONGMONTGOMERY rdx)).longVal (w * R) :=
    fun hbm hal ham => normal_convert hw (fun heq => hsafe (.inr ⟨heq, hbm, hal, ham⟩)) _
  cases hal : (h rsi).isLong with
  | false =>
    cases hbl : (h rdx).isLong with
    | false =>
      simp only [byTypes, hal, hbl]
      exact hs1s2 hal hbl
    | true =>
      cases hbm : (h rdx).isMontgomery with
      | false =>
        simp only [byTypes, hal, hbl, hbm]
        exact hs1l2n hal hbl hbm
      | true =>
        cases ham : (h rsi).isMontgomery with
        | false =>
          simp only [byTypes, hal, hbl, hbm, ham]
          exact convertFirstLL_longMontgomery hop hR (hfirst ham hbl hbm) (hw.montgomery hbm)
        | true =>
          simp only [byTypes, hal, hbl, hbm, ham]
          exact bothLL_longMontgomery hop hR (hv.montgomery ham) (hw.montgomery hbm)
  | true =>
    cases ham : (h rsi).isMontgomery with
    | false =>
      cases hbl : (h rdx).isLong with
      | false =>
        simp only [byTypes, hal, hbl, ham]
        exact hl1ns2 hal ham hbl
      | true =>
        cases hbm : (h rdx).isMontgomery with
        | false =>
          simp only [byTypes, hal, hbl, hbm, ham]
          exact bothLL_long hop (hv.normal hal ham) (hw.normal hbl hbm)
        | true =>
          simp only [byTypes, hal, hbl, hbm, ham]
          exact convertFirstLL_longMontgomery hop hR (hfirst ham hbl hbm) (hw.montgomery hbm)
    | true =>
      cases hbm : (h rdx).isMontgomery with
      | false =>
        have hconv := convertSecondLL_longMontgomery hop hR (hv.montgomery ham)
          (hsecond hbm hal ham)
        cases hbl : (h rdx).isLong <;> simp only [byTypes, hal, hbl, hbm, ham] <;> exact hconv
      | true =>
        have hboth : (h.writeLong rdi LONGMONTGOMERY (bothLL op rsi rdx) rdi).Represents (g v w) :=
          bothLL_longMontgomery hop hR (hv.montgomery ham) (hw.montgomery hbm)
        cases hbl : (h rdx).isLong <;> simp only [byTypes, hal, hbl, hbm, ham] <;> exact hboth

variable (s1s2 l1ns2 s1l2n) in
/-- A long first operand that is overwritten before it is converted is taken to be in Montgomery
form. -/
lemma byTypes_converts_first (heq : rdi = rsi) (hal : (h rsi).isLong = true)
    (ham : (h rsi).isMontgomery = false) (hbl : (h rdx).isLong = true)
    (hbm : (h rdx).isMontgomery = true) :
    (byTypes h op s1s2 l1ns2 s1l2n rdi rsi rdx rdi).Represents (g (v * R⁻¹) w) := by
  subst heq
  simp only [byTypes, hal, hbl, hbm, ham]
  exact convertFirstLL_longMontgomery hop hR (normal_convert_self hv hal ham) (hw.montgomery hbm)

variable (s1s2 l1ns2 s1l2n) in
/-- A long second operand that is overwritten before it is converted is taken to be in Montgomery
form. -/
lemma byTypes_converts_second (heq : rdi = rdx) (hbl : (h rdx).isLong = true)
    (hbm : (h rdx).isMontgomery = false) (hal : (h rsi).isLong = true)
    (ham : (h rsi).isMontgomery = true) :
    (byTypes h op s1s2 l1ns2 s1l2n rdi rsi rdx rdi).Represents (g v (w * R⁻¹)) := by
  subst heq
  simp only [byTypes, hal, hbl, hbm, ham]
  exact convertSecondLL_longMontgomery hop hR (hv.montgomery ham) (normal_convert_self hw hbl hbm)

/-- Where a block overwrites a long operand before it is converted, the result is right exactly when
that operand is zero.

**Proof sketch.** The conversion leaves `x * R⁻¹` in the place of the operand `x`, and the
operation is injective in it.  The factor changes every number but zero. -/
lemma byTypes_represents_iff_of_convertsResult (hconv : h.ConvertsResult rdi rsi rdx)
    (hlong : (h rdi).isLong = true) (hleft : ∀ x x' y : Fr, g x y = g x' y → x = x')
    (hright : ∀ x y y' : Fr, g x y = g x y' → y = y') :
    (byTypes h op s1s2 l1ns2 s1l2n rdi rsi rdx rdi).Represents (g v w) ↔ (h rdi).Represents 0 := by
  have hfix : ∀ x : Fr, x * R⁻¹ = x → x = 0 := by
    intro x hx
    by_contra hne
    rw [mul_eq_left₀ hne, inv_eq_one] at hx
    exact R_ne_one hx
  have hzero : (0 : Fr) * R⁻¹ = 0 := zero_mul _
  obtain ⟨heq, ham, hbl, hbm⟩ | ⟨heq, hbm, hal, ham⟩ := hconv
  · rw [heq] at hlong
    have hres := byTypes_converts_first hop hR s1s2 l1ns2 s1l2n hv hw heq hlong ham hbl hbm
    rw [heq] at hres ⊢
    constructor
    · intro hg
      have hv0 := hfix v (hleft _ _ _ (hres.unique hg))
      rwa [hv0] at hv
    · intro h0
      rwa [hv.unique h0, hzero, ← hv.unique h0] at hres
  · rw [heq] at hlong
    have hres := byTypes_converts_second hop hR s1s2 l1ns2 s1l2n hv hw heq hlong hbm hal ham
    rw [heq] at hres ⊢
    constructor
    · intro hg
      have hw0 := hfix w (hright _ _ _ (hres.unique hg))
      rwa [hw0] at hw
    · intro h0
      rwa [hw.unique h0, hzero, ← hw.unique h0] at hres

end ByTypes

/-- The blocks write the result only. -/
lemma byTypes_of_ne {op : FrRawElement → FrRawElement → FrRawElement}
    {s1s2 l1ns2 s1l2n h : Heap P} {rdi rsi rdx p : P} (hne : p ≠ rdi) (hs1s2 : s1s2 p = h p)
    (hl1ns2 : l1ns2 p = h p) (hs1l2n : s1l2n p = h p) :
    byTypes h op s1s2 l1ns2 s1l2n rdi rsi rdx p = h p := by
  have hwrite : ∀ type limbs, h.writeLong rdi type limbs p = h p := writeLong_of_ne h hne
  rw [byTypes]
  cases (h rsi).isLong <;> cases (h rdx).isLong <;> cases (h rsi).isMontgomery <;>
    cases (h rdx).isMontgomery <;> first | assumption | exact hwrite _ _

/-! ## What the functions compute -/

section Functions

variable {h : Heap P} {rdi rsi rdx : P} {v w : Fr}

/-- `add_s1s2`. -/
lemma add_s1s2_represents (hv : (h rsi).Represents v) (hw : (h rdx).Represents w)
    (hs : (h rsi).isLong = false) (hs' : (h rdx).isLong = false) :
    ((if BitVec.saddOverflow (h rsi).shortVal (h rdx).shortVal then
      h.set rdi (longOfWord ((h rsi).signedWord + (h rdx).signedWord))
    else
      h.set rdi { h rdi with
        shortVal := (h rsi).shortVal + (h rdx).shortVal, type := SHORT }) rdi).Represents
      (v + w) := by
  have hvw : (((h rsi).shortVal.toInt + (h rdx).shortVal.toInt : ℤ) : Fr) = v + w := by
    rw [Int.cast_add, hv.short hs, hw.short hs']
  split_ifs with hover
  · have hlong := longOfWord_represents ((h rsi).signedWord + (h rdx).signedWord)
    rwa [signedWord_add_toInt, hvw, ← set_same h rdi (longOfWord _)] at hlong
  · rw [set_same]
    exact represents_short (by rw [BitVec.toInt_add_of_not_saddOverflow hover, hvw]) _

/-- `sub_s1s2`. -/
lemma sub_s1s2_represents (hv : (h rsi).Represents v) (hw : (h rdx).Represents w)
    (hs : (h rsi).isLong = false) (hs' : (h rdx).isLong = false) :
    ((if BitVec.ssubOverflow (h rsi).shortVal (h rdx).shortVal then
      h.set rdi (longOfWord ((h rsi).signedWord - (h rdx).signedWord))
    else
      h.set rdi { h rdi with
        shortVal := (h rsi).shortVal - (h rdx).shortVal, type := SHORT }) rdi).Represents
      (v - w) := by
  have hvw : (((h rsi).shortVal.toInt - (h rdx).shortVal.toInt : ℤ) : Fr) = v - w := by
    rw [Int.cast_sub, hv.short hs, hw.short hs']
  split_ifs with hover
  · have hlong := longOfWord_represents ((h rsi).signedWord - (h rdx).signedWord)
    rwa [signedWord_sub_toInt, hvw, ← set_same h rdi (longOfWord _)] at hlong
  · rw [set_same]
    exact represents_short (by rw [BitVec.toInt_sub_of_not_ssubOverflow hover, hvw]) _

/-- No other record changes. -/
lemma rawNegLS_of_ne (h : Heap P) {rdi p : P} (hne : p ≠ rdi) (rsi : P) (rdx : Word) :
    h.rawNegLS rdi rsi rdx p = h p := by
  simp only [rawNegLS, set_set, set_of_ne h hne]

/-- Zero minus a positive word, without a borrow. -/
lemma subChain_q_neg {i : Word} (hi : i.toInt < 0) :
    (subChain q (ofWord (-i))).2 = false ∧
      Normal (subChain q (ofWord (-i))).1 (i.toInt : Fr) := by
  have hpos := neg_toNat hi
  have hlt := (-i).isLt
  have hr := word_lt_r
  have h2 := two_mul_r_lt
  have hsub := subChain_toNat q (ofWord (-i))
  set t := subChain q (ofWord (-i))
  have hlimbs := t.1.toNat_lt
  rw [q_toNat, toNat_ofWord] at hsub
  have hborrow : t.2.toNat = 0 := by
    have hle := Bool.toNat_le t.2
    omega
  rw [hborrow, mul_zero, add_zero] at hsub
  refine ⟨MachineWord.eq_false_of_toNat_eq_zero hborrow, .of_lt (by omega) ?_⟩
  have hsum : (t.1.toNat : Fr) + ((-i).toNat : Fr) = 0 := by
    rw [← Nat.cast_add, hsub, ZMod.natCast_self]
  rwa [cast_neg_toNat hi, ← sub_eq_add_neg, sub_eq_zero] at hsum

/-- `rawNegLS` subtracts a positive word and the operand from zero, when the result does not
overwrite the operand. -/
lemma rawNegLS_represents (hne : rdi ≠ rdx) (hw : Normal (h rdx).longVal w) {i : Word}
    (hi : i.toInt < 0) :
    ((h.setType rdi LONG).rawNegLS rdi rdx (-i) rdi).Represents ((i.toInt : Fr) - w) := by
  obtain ⟨hdl, ht⟩ := subChain_q_neg hi
  have hres := ht.addQ_subChain hw
  simp only [rawNegLS, subBorrowed, set_same, set_of_ne _ hne.symm, hdl, Bool.false_or, setType]
  exact represents_long hres _

/-- `rawNegLS` gives zero when the result overwrites the operand. -/
lemma rawNegLS_represents_zero {i : Word} (hi : i.toInt < 0) :
    ((h.setType rdx LONG).rawNegLS rdx rdx (-i) rdx).Represents 0 := by
  obtain ⟨hdl, ht⟩ := subChain_q_neg hi
  have hzero : (i.toInt : Fr) - (i.toInt : Fr) = 0 := sub_self _
  have hres := ht.addQ_subChain ht
  rw [hzero] at hres
  simp only [rawNegLS, subBorrowed, set_same, hdl, Bool.false_or, setType]
  exact represents_long hres _

/-- `sub_s1l2n` with a negative first operand overwrites the second one. -/
def NegatesResult (h : Heap P) (rdi rsi rdx : P) : Prop :=
  rdi = rdx ∧ (h rsi).isLong = false ∧ (h rsi).shortVal.toInt < 0 ∧ (h rdx).isLong = true ∧
    (h rdx).isMontgomery = false

/-- **`Fr_add` adds**, unless the result overwrites the operand that is converted. -/
theorem frAdd_represents (hv : (h rsi).Represents v) (hw : (h rdx).Represents w)
    (hsafe : ¬h.ConvertsResult rdi rsi rdx) : (h.frAdd rdi rsi rdx rdi).Represents (v + w) := by
  refine byTypes_represents Normal.rawAddLL (fun x y => add_mul x y R) hv hw hsafe
    (add_s1s2_represents hv hw) ?_ ?_
  · intro hal ham hbl
    refine writeLong_long ?_
    rw [setType_longVal, ← hw.signedWord hbl]
    exact (hv.normal hal ham).addSigned _
  · intro hal hbl hbm
    refine writeLong_long ?_
    rw [setType_longVal, ← hv.signedWord hal, add_comm]
    exact (hw.normal hbl hbm).addSigned _

/-- **`Fr_add` exactly.**  The result is the sum exactly when a long operand that is overwritten
before it is converted is zero. -/
theorem frAdd_represents_iff (hv : (h rsi).Represents v) (hw : (h rdx).Represents w)
    (hlong : h.ConvertsResult rdi rsi rdx → (h rdi).isLong = true) :
    (h.frAdd rdi rsi rdx rdi).Represents (v + w) ↔
      (h.ConvertsResult rdi rsi rdx → (h rdi).Represents 0) := by
  by_cases hconv : h.ConvertsResult rdi rsi rdx
  · rw [forall_prop_of_true hconv]
    exact byTypes_represents_iff_of_convertsResult Normal.rawAddLL (fun x y => add_mul x y R) hv hw
      hconv (hlong hconv) (fun _ _ _ => add_right_cancel) fun _ _ _ => add_left_cancel
  · exact iff_of_true (frAdd_represents hv hw hconv) fun hc => absurd hc hconv

/-- A long element that is added to one in Montgomery form, in place. -/
theorem frAdd_sample : ¬(sample.frAdd 0 0 1 0).Represents (((5 : ℕ) : Fr) + ((7 : ℕ) : Fr)) := by
  have hlong : sample.ConvertsResult 0 0 1 → (sample 0).isLong = true := fun _ => by decide
  rw [frAdd_represents_iff sample_zero sample_one hlong]
  have hconv : sample.ConvertsResult 0 0 1 := .inl ⟨rfl, by decide, by decide, by decide⟩
  intro h
  exact absurd (sample_zero.unique (h hconv)) (by decide)

/-- `Fr_add` writes the result only. -/
theorem frAdd_of_ne {p : P} (hne : p ≠ rdi) : h.frAdd rdi rsi rdx p = h p := by
  refine byTypes_of_ne hne ?_ (writeLong_of_ne h hne _ _) (writeLong_of_ne h hne _ _)
  split_ifs <;> exact set_of_ne h hne _

/-- **`Fr_sub` subtracts**, unless the result overwrites the operand that is converted, or the one
that is negated. -/
theorem frSub_represents (hv : (h rsi).Represents v) (hw : (h rdx).Represents w)
    (hsafe : ¬h.ConvertsResult rdi rsi rdx) (hneg : ¬h.NegatesResult rdi rsi rdx) :
    (h.frSub rdi rsi rdx rdi).Represents (v - w) := by
  refine byTypes_represents Normal.rawSubLL (fun x y => sub_mul x y R) hv hw hsafe
    (sub_s1s2_represents hv hw) ?_ ?_
  · intro hal ham hbl
    refine writeLong_long ?_
    rw [setType_longVal, ← hw.signedWord hbl]
    exact (hv.normal hal ham).subSigned _
  · intro hal hbl hbm
    have hsign := hv.signedWord hal
    split_ifs with hlt
    · have hne : rdi ≠ rdx := fun heq => hneg ⟨heq, hal, hlt, hbl, hbm⟩
      rw [← signedWord_toInt] at hlt
      rw [← hsign]
      exact rawNegLS_represents hne (hw.normal hbl hbm) hlt
    · rw [← signedWord_toInt] at hlt
      refine writeLong_long ?_
      rw [setType_longVal, ← hsign, ← cast_toNat hlt]
      exact Normal.rawSubSL _ (hw.normal hbl hbm)

/-- `sub_s1l2n` gives zero when it overwrites the operand that is negated. -/
lemma frSub_represents_zero (hneg : h.NegatesResult rdi rsi rdx) :
    (h.frSub rdi rsi rdx rdi).Represents 0 := by
  obtain ⟨rfl, hal, hlt, hbl, hbm⟩ := hneg
  simp only [frSub, byTypes, hal, hbl, hbm, if_pos hlt]
  rw [← signedWord_toInt] at hlt
  exact rawNegLS_represents_zero hlt

/-- **`Fr_sub` exactly.**  The result is the difference exactly when a long operand that is
overwritten before it is converted is zero, and an operand that is overwritten before it is negated
is equal to the other one. -/
theorem frSub_represents_iff (hv : (h rsi).Represents v) (hw : (h rdx).Represents w)
    (hlong : h.ConvertsResult rdi rsi rdx → (h rdi).isLong = true) :
    (h.frSub rdi rsi rdx rdi).Represents (v - w) ↔
      (h.ConvertsResult rdi rsi rdx → (h rdi).Represents 0) ∧
        (h.NegatesResult rdi rsi rdx → v = w) := by
  by_cases hneg : h.NegatesResult rdi rsi rdx
  · have hconv : ¬h.ConvertsResult rdi rsi rdx := by
      obtain ⟨-, hal, -, -, hbm⟩ := hneg
      rintro (⟨-, -, -, hbm'⟩ | ⟨-, -, hal', -⟩)
      · exact absurd (hbm.symm.trans hbm') Bool.false_ne_true
      · exact absurd (hal.symm.trans hal') Bool.false_ne_true
    have hzero := frSub_represents_zero hneg
    rw [forall_prop_of_true hneg, ← sub_eq_zero]
    constructor
    · intro hres
      exact ⟨fun hc => absurd hc hconv, hres.unique hzero⟩
    · rintro ⟨-, hvw⟩
      rwa [hvw]
  · have htrue : h.NegatesResult rdi rsi rdx → v = w := fun hn => absurd hn hneg
    rw [and_iff_left htrue]
    by_cases hconv : h.ConvertsResult rdi rsi rdx
    · rw [forall_prop_of_true hconv]
      exact byTypes_represents_iff_of_convertsResult Normal.rawSubLL (fun x y => sub_mul x y R) hv
        hw hconv (hlong hconv) (fun _ _ _ => sub_left_inj.mp) fun _ _ _ => sub_right_inj.mp
    · exact iff_of_true (frSub_represents hv hw hconv hneg) fun hc => absurd hc hconv

/-- A long element that is subtracted from a negative one, in place. -/
theorem frSub_sample : ¬(sample.frSub 0 2 0 0).Represents (-1 - ((5 : ℕ) : Fr)) := by
  have hlong : sample.ConvertsResult 0 2 0 → (sample 0).isLong = true := fun _ => by decide
  rw [frSub_represents_iff sample_two sample_zero hlong]
  have hneg : sample.NegatesResult 0 2 0 := ⟨rfl, by decide, by decide, by decide, by decide⟩
  rintro ⟨-, h⟩
  exact absurd (h hneg) (by decide)

/-- `Fr_sub` writes the result only. -/
theorem frSub_of_ne {p : P} (hne : p ≠ rdi) : h.frSub rdi rsi rdx p = h p := by
  refine byTypes_of_ne hne ?_ (writeLong_of_ne h hne _ _) ?_
  · split_ifs <;> exact set_of_ne h hne _
  · split_ifs
    · rw [rawNegLS_of_ne _ hne, setType, set_of_ne h hne]
    · exact writeLong_of_ne h hne _ _

/-- **`Fr_neg` negates.**

**Proof sketch.** Long operands are subtracted from the modulus.  A short one has a short negation
unless it is `-2 ^ 31`, which overflows into a long one. -/
theorem frNeg_represents (hv : (h rsi).Represents v) : (h.frNeg rdi rsi rdi).Represents (-v) := by
  rw [frNeg]
  split_ifs with hl hover
  · rw [set_same]
    refine ⟨fun hs => absurd (hs.symm.trans hl) Bool.false_ne_true, fun _ hm => ?_, fun hm => ?_⟩
    · exact (hv.normal hl hm).rawNegL
    · rw [neg_mul]
      exact (hv.montgomery hm).rawNegL
  · rw [Bool.not_eq_true] at hl
    -- The only number without a negation in 32 bits.
    have hmin : (h rsi).shortVal = BitVec.intMin 32 := by
      rw [BitVec.negOverflow_eq] at hover
      simpa using hover
    have hlong := longOfWord_represents (-((-(h rsi).shortVal).signExtend 64))
    have hsign : (-((-(h rsi).shortVal).signExtend 64)).toInt = -(h rsi).shortVal.toInt := by
      rw [hmin]
      decide
    rw [hsign, Int.cast_neg, hv.short hl] at hlong
    rw [set_same]
    exact hlong
  · rw [Bool.not_eq_true] at hl
    rw [set_same]
    refine represents_short ?_ _
    rw [BitVec.toInt_neg_of_not_negOverflow hover, Int.cast_neg, hv.short hl]

/-- An element in Montgomery form is negated, in place. -/
theorem frNeg_sample : (sample.frNeg 1 1 1).Represents (-((7 : ℕ) : Fr)) :=
  frNeg_represents sample_one

end Functions

end Heap

end AuthCpp
