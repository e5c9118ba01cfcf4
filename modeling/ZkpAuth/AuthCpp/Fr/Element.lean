import Mathlib.Data.ZMod.ValMinAbs
import ZkpAuth.AuthCpp.Fr.MMul

/-!
# Field elements of the C++ witness calculator

An `FrElement` is a record with a type.  A short element holds a number of 32 bits with a sign, a
long one the limbs of its representative; either may be in Montgomery form, where the limbs are
those of the element times `R`.  A short element in Montgomery form holds both.

The functions of `auth_cpp/fr.asm` take pointers.  They write the type of the result before they
read all of the operands, so that it matters whether the pointers are equal: elements are read from
and written to a heap.

## Main definitions

* `AuthCpp.FrElement` — the record.
* `AuthCpp.FrElement.Represents` — the field element that a record stands for.
* `AuthCpp.toMontgomery`, `AuthCpp.toNormal`, `AuthCpp.toLongNormal` — the conversions.
* `AuthCpp.Heap` — the records behind the pointers.

## Main results

* `AuthCpp.FrElement.Represents.toMontgomery`, `AuthCpp.FrElement.Represents.toNormal`,
  `AuthCpp.FrElement.Represents.toLongNormal` — a conversion keeps the field element.
* `AuthCpp.Heap.conversions_represent` — so it does on the heap, in place or not.
-/

set_option relaxedAutoImplicit false
set_option autoImplicit false

open Bn254

namespace AuthCpp

/-! ## Records -/

/-- `FrElement`. -/
@[ext]
structure FrElement where
  /-- The number of a short element. -/
  shortVal : BitVec 32
  /-- The bits 31 and 30 tell whether the element is long, and whether it is in Montgomery form. -/
  type : BitVec 32
  longVal : FrRawElement
  deriving DecidableEq

/-- `Fr_SHORT`. -/
def SHORT : BitVec 32 := 0x00000000

/-- The type that `Fr_toMontgomery` writes for a short element. -/
def SHORTMONTGOMERY : BitVec 32 := 0x40000000

/-- `Fr_LONG`. -/
def LONG : BitVec 32 := 0x80000000

/-- `Fr_LONGMONTGOMERY`. -/
def LONGMONTGOMERY : BitVec 32 := 0xC0000000

/-- The bit of the long types, which is bit 63 of the first word of an element. -/
def longBit (type : BitVec 32) : Bool := type.getLsbD 31

/-- The bit of the types in Montgomery form, which is bit 62 of the first word of an element. -/
def montgomeryBit (type : BitVec 32) : Bool := type.getLsbD 30

/-- Which of the four types are long. -/
@[simp]
lemma longBit_types : longBit SHORT = false ∧ longBit SHORTMONTGOMERY = false ∧
    longBit LONG = true ∧ longBit LONGMONTGOMERY = true := by
  decide

/-- Which of the four types are in Montgomery form. -/
@[simp]
lemma montgomeryBit_types : montgomeryBit SHORT = false ∧ montgomeryBit SHORTMONTGOMERY = true ∧
    montgomeryBit LONG = false ∧ montgomeryBit LONGMONTGOMERY = true := by
  decide

namespace FrElement

/-- `bt rax, 63` on the first word of an element. -/
def isLong (x : FrElement) : Bool := longBit x.type

/-- `bt rax, 62` on the first word of an element. -/
def isMontgomery (x : FrElement) : Bool := montgomeryBit x.type

/-- `movsx rdx, eax` on the first word of an element. -/
def signedWord (x : FrElement) : Word := x.shortVal.signExtend 64

/-- The sign extension keeps the number. -/
theorem signedWord_toInt (x : FrElement) : x.signedWord.toInt = x.shortVal.toInt :=
  BitVec.toInt_signExtend_of_le (by decide)

/-- The record stands for the field element `v`. -/
structure Represents (x : FrElement) (v : Fr) : Prop where
  /-- A short element has the number. -/
  short : x.isLong = false → (x.shortVal.toInt : Fr) = v
  /-- A long element that is not in Montgomery form has the limbs of `v`. -/
  normal : x.isLong = true → x.isMontgomery = false → Normal x.longVal v
  /-- An element in Montgomery form has the limbs of `v * R`, also if it is short. -/
  montgomery : x.isMontgomery = true → Normal x.longVal (v * R)

/-- A short record stands for its number. -/
theorem represents_short {s : BitVec 32} {v : Fr} (h : (s.toInt : Fr) = v) (a : FrRawElement) :
    Represents ⟨s, SHORT, a⟩ v :=
  ⟨fun _ => h, by simp [isLong], by simp [isMontgomery]⟩

/-- A short record in Montgomery form stands for its number, if the limbs agree. -/
theorem represents_shortMontgomery {s : BitVec 32} {v : Fr} {a : FrRawElement}
    (h : (s.toInt : Fr) = v) (ha : Normal a (v * R)) : Represents ⟨s, SHORTMONTGOMERY, a⟩ v :=
  ⟨fun _ => h, by simp [isLong], fun _ => ha⟩

/-- A long record stands for the element of its limbs. -/
theorem represents_long {v : Fr} {a : FrRawElement} (ha : Normal a v) (s : BitVec 32) :
    Represents ⟨s, LONG, a⟩ v :=
  ⟨by simp [isLong], fun _ _ => ha, by simp [isMontgomery]⟩

/-- A long record in Montgomery form stands for the element of its limbs over `R`. -/
theorem represents_longMontgomery {v : Fr} {a : FrRawElement} (ha : Normal a (v * R))
    (s : BitVec 32) : Represents ⟨s, LONGMONTGOMERY, a⟩ v :=
  ⟨by simp [isLong], by simp [isMontgomery], fun _ => ha⟩

/-- A record stands for one field element at most. -/
theorem Represents.unique {x : FrElement} {v w : Fr} (hv : x.Represents v) (hw : x.Represents w) :
    v = w := by
  cases hl : x.isLong with
  | false => exact (hv.short hl).symm.trans (hw.short hl)
  | true =>
    cases hm : x.isMontgomery with
    | false => exact (hv.normal hl hm).unique_right (hw.normal hl hm)
    | true =>
      exact mul_right_cancel₀ R_ne_zero ((hv.montgomery hm).unique_right (hw.montgomery hm))

end FrElement

open FrElement

/-! ## Signed words -/

/-- The absolute value of a negative word. -/
theorem neg_toNat {i : Word} (h : i.toInt < 0) : ((-i).toNat : ℤ) = -i.toInt := by
  have hlt := i.isLt
  rw [BitVec.toInt_eq_toNat_cond] at h ⊢
  rw [BitVec.toNat_neg]
  split_ifs at h ⊢ with hhalf
  · omega
  · rw [Nat.mod_eq_of_lt (by omega)]
    omega

/-- A negative word as a field element. -/
theorem cast_neg_toNat {i : Word} (h : i.toInt < 0) : ((-i).toNat : Fr) = -(i.toInt : Fr) := by
  rw [← Int.cast_natCast, neg_toNat h, Int.cast_neg]

/-- A word that is not negative. -/
theorem cast_toNat {i : Word} (h : ¬i.toInt < 0) : (i.toNat : Fr) = (i.toInt : Fr) := by
  have hpos : (i.toNat : ℤ) = i.toInt := by
    have hlt := i.isLt
    rw [BitVec.toInt_eq_toNat_cond] at h ⊢
    split_ifs at h ⊢ with hhalf
    · rfl
    · omega
  rw [← hpos, Int.cast_natCast]

/-- The block that adds a short operand: a negative one is subtracted. -/
def addSigned (a : FrRawElement) (rdx : Word) : FrRawElement :=
  if rdx.toInt < 0 then rawSubLS a (-rdx) else rawAddLS a rdx

/-- The block that subtracts a short operand: a negative one is added. -/
def subSigned (a : FrRawElement) (rdx : Word) : FrRawElement :=
  if rdx.toInt < 0 then rawAddLS a (-rdx) else rawSubLS a rdx

/-- The block that multiplies with a short operand: with a negative one, the product with the
absolute value is negated. -/
def mulSigned (a : FrRawElement) (rdx : Word) : FrRawElement :=
  if rdx.toInt < 0 then rawNegL (rawMMul1 a (-rdx)) else rawMMul1 a rdx

section Signed

variable {a : FrRawElement} {x : Fr}

/-- `addSigned` adds a word with a sign. -/
theorem Normal.addSigned (ha : Normal a x) (i : Word) :
    Normal (addSigned a i) (x + (i.toInt : Fr)) := by
  rw [AuthCpp.addSigned]
  split_ifs with h
  · have hsub := ha.rawSubLS (-i)
    rwa [cast_neg_toNat h, sub_neg_eq_add] at hsub
  · have hadd := ha.rawAddLS i
    rwa [cast_toNat h] at hadd

/-- `subSigned` subtracts a word with a sign. -/
theorem Normal.subSigned (ha : Normal a x) (i : Word) :
    Normal (subSigned a i) (x - (i.toInt : Fr)) := by
  rw [AuthCpp.subSigned]
  split_ifs with h
  · have hadd := ha.rawAddLS (-i)
    rwa [cast_neg_toNat h, ← sub_eq_add_neg] at hadd
  · have hsub := ha.rawSubLS i
    rwa [cast_toNat h] at hsub

/-- `mulSigned` is the Montgomery product with a word with a sign. -/
theorem Normal.mulSigned (ha : Normal a x) (i : Word) :
    Normal (mulSigned a i) ((i.toInt : Fr) * x * R⁻¹) := by
  rw [AuthCpp.mulSigned]
  split_ifs with h
  · have hneg := (ha.rawMMul1 (-i)).rawNegL
    rwa [cast_neg_toNat h, neg_mul, neg_mul, neg_neg] at hneg
  · have hmul := ha.rawMMul1 i
    rwa [cast_toNat h] at hmul

end Signed

/-! ## Conversions -/

/-- A cell of the stack, before it is written. -/
def tmp : FrElement := ⟨0, 0, ⟨0, 0, 0, 0⟩⟩

/-- The record that `rawCopyS2L` writes. -/
def longOfWord (rsi : Word) : FrElement := ⟨0, LONG, rawCopyS2L rsi⟩

/-- What `Fr_toMontgomery` writes. -/
def toMontgomery (x : FrElement) : FrElement :=
  if x.isMontgomery then x
  else if x.isLong then ⟨x.shortVal, LONGMONTGOMERY, rawMMul x.longVal R2⟩
  else ⟨x.shortVal, SHORTMONTGOMERY, mulSigned R2 x.signedWord⟩

/-- What `Fr_toNormal` writes over the record `dst`.  A short element is copied with its form. -/
def toNormal (dst x : FrElement) : FrElement :=
  if x.isMontgomery ∧ x.isLong then ⟨dst.shortVal, LONG, rawFromMontgomery x.longVal⟩ else x

/-- What `Fr_toLongNormal` writes over the record `dst`. -/
def toLongNormal (dst x : FrElement) : FrElement :=
  if x.isLong then
    if x.isMontgomery then ⟨dst.shortVal, LONG, rawFromMontgomery x.longVal⟩ else x
  else longOfWord x.signedWord

/-- `Fr_toNormal` leaves short elements short. -/
@[simp]
lemma isLong_toNormal (dst x : FrElement) : (toNormal dst x).isLong = x.isLong := by
  rw [toNormal]
  split_ifs with h
  · exact longBit_types.2.2.1.trans h.2.symm
  · rfl

/-- A word with a sign becomes a long element that stands for it. -/
theorem longOfWord_represents (i : Word) : (longOfWord i).Represents (i.toInt : Fr) :=
  represents_long (normal_rawCopyS2L i) 0

/-- Out of Montgomery form. -/
lemma Normal.ofMontgomery {a : FrRawElement} {v : Fr} (ha : Normal a (v * R)) :
    Normal (AuthCpp.rawFromMontgomery a) v := by
  have h := ha.rawFromMontgomery
  rwa [mul_assoc, mul_inv_cancel₀ R_ne_zero, mul_one] at h

namespace FrElement.Represents

variable {x : FrElement} {v : Fr}

/-- The word of a short element stands for the element. -/
theorem signedWord (hx : x.Represents v) (hl : x.isLong = false) :
    (x.signedWord.toInt : Fr) = v := by
  rw [signedWord_toInt]
  exact hx.short hl

/-- The limbs after the conversion. -/
theorem normal_toMontgomery (hx : x.Represents v) : Normal (toMontgomery x).longVal (v * R) := by
  rw [AuthCpp.toMontgomery]
  split_ifs with hm hl
  · exact hx.montgomery hm
  · rw [Bool.not_eq_true] at hm
    exact (hx.normal hl hm).rawToMontgomery
  · rw [Bool.not_eq_true] at hl
    have h := normal_R2.mulSigned x.signedWord
    rw [hx.signedWord hl] at h
    rwa [mul_assoc, mul_assoc, mul_inv_cancel₀ R_ne_zero, mul_one] at h

/-- `Fr_toMontgomery` keeps the field element. -/
theorem toMontgomery (hx : x.Represents v) : (toMontgomery x).Represents v := by
  have hnormal := hx.normal_toMontgomery
  rw [AuthCpp.toMontgomery] at hnormal ⊢
  split_ifs at hnormal ⊢ with hm hl
  · exact hx
  · exact represents_longMontgomery hnormal _
  · rw [Bool.not_eq_true] at hl
    exact represents_shortMontgomery (hx.short hl) hnormal

/-- `Fr_toNormal` keeps the field element. -/
theorem toNormal (hx : x.Represents v) (dst : FrElement) : (toNormal dst x).Represents v := by
  rw [AuthCpp.toNormal]
  split_ifs with h
  · exact represents_long (hx.montgomery h.1).ofMontgomery _
  · exact hx

/-- The limbs of a long element after the conversion. -/
theorem normal_toNormal (hx : x.Represents v) (hl : x.isLong = true) (dst : FrElement) :
    Normal (AuthCpp.toNormal dst x).longVal v := by
  rw [AuthCpp.toNormal]
  split_ifs with h
  · exact (hx.montgomery h.1).ofMontgomery
  · exact hx.normal hl (Bool.eq_false_of_not_eq_true fun hm => h ⟨hm, hl⟩)

/-- A short element has the signed representative. -/
theorem valMinAbs_short (hx : x.Represents v) (hs : x.isLong = false) :
    v.valMinAbs = x.shortVal.toInt := by
  have hlt := x.shortVal.toInt_lt
  have hle := x.shortVal.le_toInt
  have hr : (2 ^ 64 : ℤ) < r := by exact_mod_cast word_lt_r
  rw [ZMod.valMinAbs_spec]
  refine ⟨(hx.short hs).symm, ?_⟩
  rw [Set.mem_Ioc]
  omega

/-- The representative of a short element. -/
theorem val_short (hx : x.Represents v) (hs : x.isLong = false) :
    (v.val : ℤ) = if x.shortVal.toInt < 0 then r + x.shortVal.toInt else x.shortVal.toInt := by
  have hval := hx.valMinAbs_short hs
  have hlt := ZMod.val_lt v
  rw [ZMod.valMinAbs_def_pos] at hval
  split_ifs at hval ⊢ <;> omega

/-- The limbs after the conversion. -/
theorem normal_toLongNormal (hx : x.Represents v) (dst : FrElement) :
    Normal (toLongNormal dst x).longVal v := by
  rw [AuthCpp.toLongNormal]
  split_ifs with hl hm
  · exact (hx.montgomery hm).ofMontgomery
  · rw [Bool.not_eq_true] at hm
    exact hx.normal hl hm
  · rw [Bool.not_eq_true] at hl
    have h := normal_rawCopyS2L x.signedWord
    rwa [hx.signedWord hl] at h

/-- `Fr_toLongNormal` keeps the field element. -/
theorem toLongNormal (hx : x.Represents v) (dst : FrElement) :
    (toLongNormal dst x).Represents v := by
  have hnormal := hx.normal_toLongNormal dst
  rw [AuthCpp.toLongNormal] at hnormal ⊢
  split_ifs at hnormal ⊢ with hl hm
  · exact represents_long hnormal _
  · exact hx
  · exact represents_long hnormal _

end FrElement.Represents

/-! ## The heap -/

/-- The records behind the pointers. -/
def Heap (P : Type) : Type := P → FrElement

namespace Heap

variable {P : Type} [DecidableEq P]

/-- A record is written. -/
def set (h : Heap P) (p : P) (x : FrElement) : Heap P := fun p' => if p' = p then x else h p'

/-- The type of a record is written, as with `mov [rdi+4], r11d`. -/
def setType (h : Heap P) (p : P) (t : BitVec 32) : Heap P := h.set p { h p with type := t }

/-- The record that was written is read. -/
@[simp]
lemma set_same (h : Heap P) (p : P) (x : FrElement) : h.set p x p = x :=
  if_pos rfl

/-- The other records stay as they are. -/
theorem set_of_ne (h : Heap P) {p p' : P} (hne : p' ≠ p) (x : FrElement) : h.set p x p' = h p' :=
  if_neg hne

/-- The last write counts. -/
@[simp]
lemma set_set (h : Heap P) (p : P) (x y : FrElement) : (h.set p x).set p y = h.set p y := by
  funext p'
  by_cases hp : p' = p
  · rw [hp, set_same, set_same]
  · rw [set_of_ne _ hp, set_of_ne _ hp, set_of_ne _ hp]

/-- A new type keeps the limbs. -/
@[simp]
lemma setType_longVal (h : Heap P) (p p' : P) (t : BitVec 32) :
    (h.setType p t p').longVal = (h p').longVal := by
  by_cases hp : p' = p
  · rw [hp, setType, set_same]
  · rw [setType, set_of_ne h hp]

/-- `Fr_copy`. -/
def frCopy (h : Heap P) (rdi rsi : P) : Heap P := h.set rdi (h rsi)

/-- `Fr_toMontgomery`. -/
def frToMontgomery (h : Heap P) (rdi rsi : P) : Heap P := h.set rdi (toMontgomery (h rsi))

/-- `Fr_toNormal`. -/
def frToNormal (h : Heap P) (rdi rsi : P) : Heap P := h.set rdi (toNormal (h rdi) (h rsi))

/-- `Fr_toLongNormal`. -/
def frToLongNormal (h : Heap P) (rdi rsi : P) : Heap P := h.set rdi (toLongNormal (h rdi) (h rsi))

/-- A long element, a long one in Montgomery form, and short ones. -/
def sample : Heap ℕ
  | 0 => ⟨0, LONG, FrRawElement.ofNat ((5 : ℕ) : Fr).val⟩
  | 1 => ⟨0, LONGMONTGOMERY, FrRawElement.ofNat (((7 : ℕ) : Fr) * R).val⟩
  | _ => ⟨-1, SHORT, ⟨0, 0, 0, 0⟩⟩

/-- The long record of the sample stands for 5. -/
theorem sample_zero : (sample 0).Represents ((5 : ℕ) : Fr) :=
  represents_long (normal_ofNat _) 0

/-- The long record of the sample in Montgomery form stands for 7. -/
theorem sample_one : (sample 1).Represents ((7 : ℕ) : Fr) :=
  represents_longMontgomery (normal_ofNat _) 0

/-- The short record of the sample stands for -1. -/
theorem sample_two : (sample 2).Represents (-1) :=
  represents_short (by decide) _

/-- The field elements of the sample. -/
def sampleValue (a : ℕ) : Fr :=
  if a = 0 then ((5 : ℕ) : Fr) else if a = 1 then ((7 : ℕ) : Fr) else -1

/-- The records of the sample stand for their field elements. -/
theorem sample_represents : ∀ a, (sample a).Represents (sampleValue a)
  | 0 => sample_zero
  | 1 => sample_one
  | _ + 2 => sample_two

/-- **The conversions keep the field element**, also in place; the limbs are those of the form that
is asked for. -/
theorem conversions_represent {h : Heap P} {rdi rsi : P} {v : Fr} (hv : (h rsi).Represents v) :
    (h.frCopy rdi rsi rdi).Represents v ∧
    ((h.frToMontgomery rdi rsi rdi).Represents v ∧
      Normal (h.frToMontgomery rdi rsi rdi).longVal (v * R)) ∧
    ((h.frToNormal rdi rsi rdi).Represents v ∧
      ((h rsi).isLong = true → Normal (h.frToNormal rdi rsi rdi).longVal v)) ∧
    (h.frToLongNormal rdi rsi rdi).Represents v ∧
      Normal (h.frToLongNormal rdi rsi rdi).longVal v := by
  rw [frCopy, frToMontgomery, frToNormal, frToLongNormal]
  simp only [set_same]
  exact ⟨hv, ⟨hv.toMontgomery, hv.normal_toMontgomery⟩,
    ⟨hv.toNormal _, fun hl => hv.normal_toNormal hl _⟩, hv.toLongNormal _, hv.normal_toLongNormal _⟩

/-- An element in Montgomery form is brought into normal form, in place. -/
theorem conversions_sample : Normal (sample.frToLongNormal 1 1 1).longVal ((7 : ℕ) : Fr) := by
  obtain ⟨-, -, -, -, h⟩ := @conversions_represent ℕ _ sample 1 1 _ sample_one
  exact h

end Heap

end AuthCpp
