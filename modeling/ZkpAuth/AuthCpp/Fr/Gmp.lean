import ZkpAuth.AuthCpp.Fr.Products

/-!
# Field elements and large integers in the C++ witness calculator

The functions of `auth_cpp/fr.cpp` that pass through the integers of GMP: reading an element from a
string of digits and writing one, division with remainder, powers and inverses.  An integer that
fits in 32 bits becomes a short element, any other one a long element.

An `mpz_t` is modelled by its value, an integer.  The functions of GMP that compute on these values
are no part of the repository.  They are a parameter `Gmp`, and the results assume of them what
their manual says, `Gmp.Documented`.

## Main definitions

* `AuthCpp.Gmp`, `AuthCpp.Gmp.Documented` — the functions of GMP and what they promise.
* `AuthCpp.toMpz`, `AuthCpp.fromMpz` — between elements and integers.
* `AuthCpp.str2element`, `AuthCpp.element2str` — between elements and digits.
* `AuthCpp.frIdiv`, `AuthCpp.frMod`, `AuthCpp.frPow`, `AuthCpp.frInv`, `AuthCpp.Heap.frDiv` — the
  operations.

## Main results

* `AuthCpp.FrElement.Represents.element2str` — the digits are those of the representative, whatever
  the form of the element.
* `AuthCpp.str2element_represents`, `AuthCpp.str2element_element2str` — reading reduces modulo the
  prime, and undoes writing.
* `AuthCpp.frIdiv_frMod` — division with remainder.
* `AuthCpp.frPow_represents`, `AuthCpp.Heap.frDiv_represents` — power and quotient of the field.
-/

set_option relaxedAutoImplicit false
set_option autoImplicit false

open Bn254

namespace AuthCpp

open FrElement FrRawElement

/-! ## The functions of GMP -/

/-- The functions of GMP that `fr.cpp` calls, each as a function to the value of its result. -/
structure Gmp where
  /-- `mpz_init_set_str` of a string and a base. -/
  mpzInitSetStr : List Char → ℕ → ℤ
  /-- `mpz_get_str` in a base. -/
  mpzGetStr : ℕ → ℤ → List Char
  /-- `mpz_fdiv_q` of a dividend and a divisor. -/
  mpzFdivQ : ℤ → ℤ → ℤ
  /-- `mpz_fdiv_r` of a dividend and a divisor. -/
  mpzFdivR : ℤ → ℤ → ℤ
  /-- `mpz_powm` of a base, an exponent and a modulus. -/
  mpzPowm : ℤ → ℤ → ℤ → ℤ
  /-- `mpz_invert` of a number and a modulus. -/
  mpzInvert : ℤ → ℤ → ℤ

namespace Gmp

/-- What the manual of GMP says of these functions, where the results rely on it. -/
structure Documented (G : Gmp) : Prop where
  /-- A string of decimal digits is read in base 10 as its number. -/
  mpzInitSetStr_eq : ∀ s : List Char, s ≠ [] → (∀ c ∈ s, c.isDigit = true) →
    G.mpzInitSetStr s 10 = (Nat.ofDigitChars 10 s 0 : ℕ)
  /-- A number that is not negative is written by its decimal digits. -/
  mpzGetStr_eq : ∀ n : ℕ, G.mpzGetStr 10 n = Nat.toDigits 10 n
  /-- The quotient is rounded down. -/
  mpzFdivQ_eq : ∀ n d : ℤ, d ≠ 0 → G.mpzFdivQ n d = n.fdiv d
  /-- The remainder belongs to the quotient that is rounded down. -/
  mpzFdivR_eq : ∀ n d : ℤ, d ≠ 0 → G.mpzFdivR n d = n.fmod d
  /-- The power is reduced modulo the modulus. -/
  mpzPowm_eq : ∀ (b : ℤ) (e : ℕ) (m : ℤ), 0 < m → G.mpzPowm b e m = b ^ e % m
  /-- The inverse is in the range of the remainders, for a number that has one. -/
  mpzInvert_mem : ∀ a m : ℤ, 1 < m → Int.gcd a m = 1 → 0 ≤ G.mpzInvert a m ∧ G.mpzInvert a m < m
  /-- It is an inverse. -/
  mul_mpzInvert : ∀ a m : ℤ, 1 < m → Int.gcd a m = 1 → a * G.mpzInvert a m ≡ 1 [ZMOD m]

/-- The operations of Lean's integers under the names of GMP. -/
def integers : Gmp where
  mpzInitSetStr s base := (Nat.ofDigitChars base s 0 : ℕ)
  mpzGetStr base n := Nat.toDigits base n.toNat
  mpzFdivQ := Int.fdiv
  mpzFdivR := Int.fmod
  mpzPowm b e m := b ^ e.toNat % m
  mpzInvert a m := Int.gcdA a m % m

/-- Lean's integers do what the manual of GMP says. -/
lemma integers_documented : integers.Documented where
  mpzInitSetStr_eq _ _ _ := rfl
  mpzGetStr_eq _ := rfl
  mpzFdivQ_eq _ _ _ := rfl
  mpzFdivR_eq _ _ _ := rfl
  mpzPowm_eq _ _ _ _ := rfl
  mpzInvert_mem _ m hm _ :=
    ⟨Int.emod_nonneg _ (by omega), Int.emod_lt_of_pos _ (by omega)⟩
  mul_mpzInvert a m _ hgcd := by
    have hbezout := Int.gcd_eq_gcd_ab a m
    rw [hgcd, Nat.cast_one] at hbezout
    calc a * (Int.gcdA a m % m)
        ≡ a * Int.gcdA a m [ZMOD m] := (Int.mod_modEq _ _).mul_left a
      _ ≡ a * Int.gcdA a m + m * Int.gcdB a m [ZMOD m] :=
        (Int.modEq_iff_dvd.mpr ⟨Int.gcdB a m, by ring⟩)
      _ ≡ 1 [ZMOD m] := by rw [← hbezout]

section Documented

variable {G : Gmp} (hG : G.Documented)

include hG

/-- The digits of a number are read as the number. -/
lemma Documented.mpzInitSetStr_toDigits (n : ℕ) :
    G.mpzInitSetStr (Nat.toDigits 10 n) 10 = n := by
  rw [hG.mpzInitSetStr_eq _ Nat.toDigits_ne_nil fun c hc =>
      Nat.isDigit_of_mem_toDigits (by decide) (by decide) hc,
    Nat.ofDigitChars_toDigits (by decide) (by decide)]

/-- The remainder by a positive divisor is that of Euclidean division. -/
lemma Documented.mpzFdivR_of_pos (n : ℤ) {d : ℤ} (hd : 0 < d) : G.mpzFdivR n d = n % d := by
  rw [hG.mpzFdivR_eq n d hd.ne', Int.fmod_eq_emod_of_nonneg n hd.le]

end Documented

end Gmp

/-! ## Integers -/

/-- `Fr_toMpz`. -/
def toMpz (pE : FrElement) : ℤ :=
  let tmp := toNormal tmp pE
  if tmp.isLong then tmp.longVal.toNat
  else if tmp.shortVal.toInt < 0 then tmp.shortVal.toInt + q.toNat
  else tmp.shortVal.toInt

/-- `Fr_fromMpz`.  The export takes the absolute value. -/
def fromMpz (pE : FrElement) (v : ℤ) : FrElement :=
  if -2 ^ 31 ≤ v ∧ v < 2 ^ 31 then { pE with type := SHORT, shortVal := .ofInt 32 v }
  else { pE with type := LONG, longVal := .ofNat v.natAbs }

/-- The integer is the representative. -/
theorem FrElement.Represents.toMpz {a : FrElement} {v : Fr} (hv : a.Represents v) :
    toMpz a = v.val := by
  rw [AuthCpp.toMpz, isLong_toNormal]
  by_cases hl : a.isLong = true
  · rw [if_pos hl, (hv.normal_toNormal hl tmp).toNat_eq]
  · rw [if_neg hl]
    rw [Bool.not_eq_true] at hl
    have hcopy : AuthCpp.toNormal tmp a = a := by
      rw [AuthCpp.toNormal, if_neg (by simp [hl])]
    rw [hcopy, hv.val_short hl, q_toNat, add_comm]

/-- The element stands for the class of the integer. -/
lemma fromMpz_represents (pE : FrElement) {v : ℤ} (hpos : 0 ≤ v) (hlt : v < r) :
    (fromMpz pE v).Represents (v : Fr) := by
  rw [fromMpz]
  split_ifs with hsmall
  · refine represents_short ?_ _
    rw [BitVec.toInt_ofInt_eq_self (by decide) hsmall.1 hsmall.2]
  · have hnat : (v.natAbs : ℤ) = v := Int.natAbs_of_nonneg hpos
    have hnormal := normal_ofNat ((v.natAbs : ℕ) : Fr)
    rw [ZMod.val_cast_of_lt (by omega), ← Int.cast_natCast, hnat] at hnormal
    exact represents_long hnormal _

/-! ## Digits -/

/-- `Fr_str2element`. -/
def str2element (G : Gmp) (pE : FrElement) (s : List Char) (base : ℕ) : FrElement :=
  fromMpz pE (G.mpzFdivR (G.mpzInitSetStr s base) q.toNat)

/-- `Fr_element2str`.  The text `"%d"` of a short element that is not negative are its decimal
digits. -/
def element2str (G : Gmp) (pE : FrElement) : List Char :=
  if pE.isLong then G.mpzGetStr 10 (toNormal tmp pE).longVal.toNat
  else if 0 ≤ pE.shortVal.toInt then Nat.toDigits 10 pE.shortVal.toInt.toNat
  else G.mpzGetStr 10 (pE.shortVal.toInt + q.toNat)

section Digits

variable {G : Gmp} (hG : G.Documented)

include hG in
/-- Reading reduces modulo the prime. -/
theorem str2element_represents (pE : FrElement) (s : List Char) (base : ℕ) :
    (str2element G pE s base).Represents ((G.mpzInitSetStr s base : ℤ) : Fr) := by
  have hr : (0 : ℤ) < r := by exact_mod_cast r_prime.pos
  have h := fromMpz_represents pE (Int.emod_nonneg (G.mpzInitSetStr s base) hr.ne')
    (Int.emod_lt_of_pos _ hr)
  rw [str2element, q_toNat, hG.mpzFdivR_of_pos _ hr]
  rwa [(ZMod.intCast_eq_intCast_iff _ _ r).mpr (Int.mod_modEq _ _)] at h

include hG in
/-- The digits are those of the representative, whatever the form of the element. -/
theorem FrElement.Represents.element2str {a : FrElement} {v : Fr} (hv : a.Represents v) :
    element2str G a = Nat.toDigits 10 v.val := by
  rw [AuthCpp.element2str]
  split_ifs with hl hpos
  · rw [(hv.normal_toNormal hl tmp).toNat_eq, hG.mpzGetStr_eq]
  · rw [Bool.not_eq_true] at hl
    have hval := hv.val_short hl
    rw [if_neg (not_lt.mpr hpos)] at hval
    rw [← hval, Int.toNat_natCast]
  · rw [Bool.not_eq_true] at hl
    have hval := hv.val_short hl
    rw [if_pos (not_le.mp hpos)] at hval
    rw [q_toNat, add_comm, ← hval, hG.mpzGetStr_eq]

include hG in
/-- **Reading undoes writing.** -/
theorem str2element_element2str {a : FrElement} {v : Fr} (hv : a.Represents v) (pE : FrElement) :
    (str2element G pE (element2str G a) 10).Represents v := by
  have h := str2element_represents hG pE (Nat.toDigits 10 v.val) 10
  rw [hG.mpzInitSetStr_toDigits, Int.cast_natCast, ZMod.natCast_zmod_val] at h
  rwa [hv.element2str hG]

/-- An element in Montgomery form is written and read. -/
theorem str2element_sample :
    (str2element .integers tmp (element2str .integers (Heap.sample 1)) 10).Represents
      ((7 : ℕ) : Fr) :=
  str2element_element2str Gmp.integers_documented Heap.sample_one tmp

end Digits

/-! ## Operations -/

/-- `Fr_idiv`. -/
def frIdiv (G : Gmp) (r a b : FrElement) : FrElement :=
  fromMpz r (G.mpzFdivQ (toMpz a) (toMpz b))

/-- `Fr_mod`. -/
def frMod (G : Gmp) (r a b : FrElement) : FrElement :=
  fromMpz r (G.mpzFdivR (toMpz a) (toMpz b))

/-- `Fr_pow`. -/
def frPow (G : Gmp) (r a b : FrElement) : FrElement :=
  fromMpz r (G.mpzPowm (toMpz a) (toMpz b) q.toNat)

/-- `Fr_inv`. -/
def frInv (G : Gmp) (r a : FrElement) : FrElement :=
  fromMpz r (G.mpzInvert (toMpz a) q.toNat)

/-- `Fr_div`: the inverse is written to a cell of the stack, which no pointer of the heap leads
to. -/
def Heap.frDiv {P : Type} [DecidableEq P] (G : Gmp) (h : Heap P) (r a b : P) : Heap P :=
  let stack : Heap (Option P) := fun p => p.elim (frInv G tmp (h b)) h
  fun p => stack.frMul (some r) (some a) none (some p)

/-- The representative of an element other than zero is prime to the modulus. -/
lemma gcd_val_r {v : Fr} (hne : v ≠ 0) : Int.gcd v.val r = 1 := by
  refine Nat.Coprime.symm ((Nat.Prime.coprime_iff_not_dvd r_prime).mpr fun hdvd => hne ?_)
  rw [← ZMod.val_eq_zero]
  exact Nat.eq_zero_of_dvd_of_lt hdvd (ZMod.val_lt v)

section Operations

variable {G : Gmp} (hG : G.Documented) {a b : FrElement} {v w : Fr}

include hG in
/-- The quotient of the representatives. -/
lemma frIdiv_represents (hv : a.Represents v) (hw : b.Represents w) (hne : w ≠ 0)
    (dst : FrElement) : (frIdiv G dst a b).Represents ((v.val / w.val : ℕ) : Fr) := by
  have hd : (w.val : ℤ) ≠ 0 := Int.natCast_ne_zero.mpr (mt (ZMod.val_eq_zero w).mp hne)
  have hlt : v.val / w.val < r := (Nat.div_le_self _ _).trans_lt (ZMod.val_lt v)
  have h := fromMpz_represents dst (Int.natCast_nonneg (v.val / w.val)) (by exact_mod_cast hlt)
  rw [Int.cast_natCast] at h
  rwa [frIdiv, hv.toMpz, hw.toMpz, hG.mpzFdivQ_eq _ _ hd, ← Int.ofNat_fdiv]

include hG in
/-- The remainder of the representatives. -/
lemma frMod_represents (hv : a.Represents v) (hw : b.Represents w) (hne : w ≠ 0)
    (dst : FrElement) : (frMod G dst a b).Represents ((v.val % w.val : ℕ) : Fr) := by
  have hd : (w.val : ℤ) ≠ 0 := Int.natCast_ne_zero.mpr (mt (ZMod.val_eq_zero w).mp hne)
  have hlt : v.val % w.val < r := (Nat.mod_le _ _).trans_lt (ZMod.val_lt v)
  have h := fromMpz_represents dst (Int.natCast_nonneg (v.val % w.val)) (by exact_mod_cast hlt)
  rw [Int.cast_natCast] at h
  rwa [frMod, hv.toMpz, hw.toMpz, hG.mpzFdivR_eq _ _ hd, ← Int.ofNat_fmod]

include hG in
/-- **`Fr_idiv` and `Fr_mod` divide with remainder**: the remainder is below the divisor. -/
theorem frIdiv_frMod (hv : a.Represents v) (hw : b.Represents w) (hne : w ≠ 0) (dst : FrElement) :
    ∃ x y : Fr, (frIdiv G dst a b).Represents x ∧ (frMod G dst a b).Represents y ∧
      v.val = w.val * x.val + y.val ∧ y.val < w.val := by
  have hpos : 0 < w.val := Nat.pos_of_ne_zero (mt (ZMod.val_eq_zero w).mp hne)
  have hdiv : ((v.val / w.val : ℕ) : Fr).val = v.val / w.val :=
    ZMod.val_cast_of_lt ((Nat.div_le_self _ _).trans_lt (ZMod.val_lt v))
  have hmod : ((v.val % w.val : ℕ) : Fr).val = v.val % w.val :=
    ZMod.val_cast_of_lt ((Nat.mod_le _ _).trans_lt (ZMod.val_lt v))
  refine ⟨_, _, frIdiv_represents hG hv hw hne dst, frMod_represents hG hv hw hne dst, ?_, ?_⟩
  · rw [hdiv, hmod, Nat.div_add_mod]
  · rw [hmod]
    exact Nat.mod_lt _ hpos

/-- An element in Montgomery form is divided by a long element. -/
theorem frIdiv_frMod_sample :
    ∃ x y : Fr, (frIdiv .integers tmp (Heap.sample 1) (Heap.sample 0)).Represents x ∧
      (frMod .integers tmp (Heap.sample 1) (Heap.sample 0)).Represents y ∧
        ((7 : ℕ) : Fr).val = ((5 : ℕ) : Fr).val * x.val + y.val ∧ y.val < ((5 : ℕ) : Fr).val :=
  frIdiv_frMod Gmp.integers_documented Heap.sample_one Heap.sample_zero (by decide) tmp

include hG in
/-- **The power of the field**, with the representative as the exponent. -/
theorem frPow_represents (hv : a.Represents v) (hw : b.Represents w) (dst : FrElement) :
    (frPow G dst a b).Represents (v ^ w.val) := by
  have hr : (0 : ℤ) < r := by exact_mod_cast r_prime.pos
  have h := fromMpz_represents dst (Int.emod_nonneg ((v.val : ℤ) ^ w.val) hr.ne')
    (Int.emod_lt_of_pos _ hr)
  rw [(ZMod.intCast_eq_intCast_iff _ _ r).mpr (Int.mod_modEq _ _), Int.cast_pow, Int.cast_natCast,
    ZMod.natCast_zmod_val] at h
  rw [frPow, hv.toMpz, hw.toMpz, q_toNat, hG.mpzPowm_eq _ _ _ hr]
  exact h

/-- An element in Montgomery form to the power of a long element. -/
theorem frPow_sample :
    (frPow .integers tmp (Heap.sample 1) (Heap.sample 0)).Represents
      (((7 : ℕ) : Fr) ^ ((5 : ℕ) : Fr).val) :=
  frPow_represents Gmp.integers_documented Heap.sample_one Heap.sample_zero tmp

include hG in
/-- The inverse of an element that is not zero. -/
lemma frInv_represents (hv : a.Represents v) (hne : v ≠ 0) (dst : FrElement) :
    (frInv G dst a).Represents v⁻¹ := by
  have hr : (1 : ℤ) < r := by exact_mod_cast r_prime.one_lt
  obtain ⟨hpos, hlt⟩ := hG.mpzInvert_mem v.val r hr (gcd_val_r hne)
  have hmul : v * (G.mpzInvert v.val r : Fr) = 1 := by
    have hcast := (ZMod.intCast_eq_intCast_iff _ _ r).mpr
      (hG.mul_mpzInvert v.val r hr (gcd_val_r hne))
    rwa [Int.cast_mul, Int.cast_natCast, ZMod.natCast_zmod_val, Int.cast_one] at hcast
  rw [frInv, hv.toMpz, q_toNat, inv_eq_of_mul_eq_one_right hmul]
  exact fromMpz_represents dst hpos hlt

include hG in
/-- **`Fr_div` divides**, whichever operands the result overwrites. -/
theorem Heap.frDiv_represents {P : Type} [DecidableEq P] {h : Heap P} {r a b : P} {v w : Fr}
    (hv : (h a).Represents v) (hw : (h b).Represents w) (hne : w ≠ 0) :
    (h.frDiv G r a b r).Represents (v / w) := by
  set stack : Heap (Option P) := fun p => p.elim (frInv G tmp (h b)) h
  have ha : (stack (some a)).Represents v := hv
  have htmp : (stack none).Represents w⁻¹ := frInv_represents hG hw hne tmp
  have hmul : (stack.frMul (some r) (some a) none (some r)).Represents (v * w⁻¹) :=
    Heap.frMul_represents ha htmp
  rw [div_eq_mul_inv]
  exact hmul

/-- A quotient overwrites the divisor. -/
theorem Heap.frDiv_sample :
    (sample.frDiv .integers 1 0 1 1).Represents (((5 : ℕ) : Fr) / ((7 : ℕ) : Fr)) :=
  frDiv_represents Gmp.integers_documented sample_zero sample_one (by decide)

end Operations

end AuthCpp
