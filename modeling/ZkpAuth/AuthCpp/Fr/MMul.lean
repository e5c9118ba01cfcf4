import ZkpAuth.AuthCpp.Fr.Raw

/-!
# Montgomery multiplication of raw field elements

The multiplications of `auth_cpp/fr.asm`.  They thread two chains of carries through the flags `CF`
and `OF`; a block of the assembly under one of its comments `FirstLoop`, `SecondLoop` and
`comparison` is a function on the registers `r11` to `r15` and the two flags.  All limbs of the
result are written at the end, so that the result may overwrite an operand.

A pair of blocks is a step of `Montgomery.mul`.

## Main definitions

* `AuthCpp.Registers` — the registers between two blocks.
* `AuthCpp.rawMMul`, `AuthCpp.rawMSquare`, `AuthCpp.rawMMul1`, `AuthCpp.rawFromMontgomery`,
  `AuthCpp.rawToMontgomery` — the functions.

## Main results

* `AuthCpp.Normal.rawMMul`, `AuthCpp.Normal.rawMMul1`, `AuthCpp.Normal.rawFromMontgomery`,
  `AuthCpp.Normal.rawToMontgomery` — the field elements that they compute.
-/

set_option relaxedAutoImplicit false
set_option autoImplicit false

open Bn254 MachineWord

namespace AuthCpp

open FrRawElement

/-! ## Blocks -/

/-- The accumulator and the flags of the two carry chains. -/
structure Registers where
  r11 : Word
  r12 : Word
  r13 : Word
  r14 : Word
  r15 : Word
  /-- The flag of `adcx`. -/
  cf : Bool
  /-- The flag of `adox`. -/
  of : Bool

namespace Registers

/-- The number in `r11` to `r14`. -/
def toNat (s : Registers) : ℕ :=
  s.r11.toNat + 2 ^ 64 * s.r12.toNat + 2 ^ 128 * s.r13.toNat + 2 ^ 192 * s.r14.toNat

/-- The number in `r11` to `r15`. -/
def toNat5 (s : Registers) : ℕ := s.toNat + 2 ^ 256 * s.r15.toNat

/-- The registers hold the number `t` in four words, and no carry is pending. -/
structure Holds (s : Registers) (t : ℕ) : Prop where
  toNat_eq : s.toNat = t
  cf_eq : s.cf = false
  of_eq : s.of = false

/-- The registers hold the number `t` in five words, and no carry is pending. -/
structure Holds5 (s : Registers) (t : ℕ) : Prop where
  toNat5_eq : s.toNat5 = t
  cf_eq : s.cf = false
  of_eq : s.of = false

end Registers

/-- The first block `FirstLoop`: the product of a word and `b`. -/
def firstLoop0 (rdx : Word) (b : FrRawElement) : Registers :=
  let (rax, r11) := mulx rdx b.v0
  let (r8, r12) := mulx rdx b.v1
  let (r12, cf) := adc r12 rax false
  let (rax, r13) := mulx rdx b.v2
  let (r13, cf) := adc r13 r8 cf
  let (r8, r14) := mulx rdx b.v3
  let (r14, cf) := adc r14 rax cf
  let (r15, cf) := adc 0 r8 cf
  ⟨r11, r12, r13, r14, r15, cf, false⟩

/-- The other blocks `FirstLoop`: the product of a word and `b` is added. -/
def firstLoop (rdx : Word) (b : FrRawElement) (s : Registers) : Registers :=
  let (r8, rax) := mulx rdx b.v0
  let (r11, cf) := adc s.r11 rax s.cf
  let (r12, of) := adc s.r12 r8 s.of
  let (r8, rax) := mulx rdx b.v1
  let (r12, cf) := adc r12 rax cf
  let (r13, of) := adc s.r13 r8 of
  let (r8, rax) := mulx rdx b.v2
  let (r13, cf) := adc r13 rax cf
  let (r14, of) := adc s.r14 r8 of
  let (r8, rax) := mulx rdx b.v3
  let (r14, cf) := adc r14 rax cf
  let (r15, of) := adc 0 r8 of
  let (r15, cf) := adc r15 0 cf
  ⟨r11, r12, r13, r14, r15, cf, of⟩

/-- A block `SecondLoop`: a multiple of `q` is added that clears the lowest word, and the words are
moved down by one. -/
def secondLoop (s : Registers) : Registers :=
  let (_, rdx) := mulx np s.r11
  let (r8, rax) := mulx rdx q.v0
  let (_, cf) := adc rax s.r11 s.cf
  let (rax, r11) := mulx rdx q.v1
  let (r11, cf) := adc r11 r8 cf
  let (r11, of) := adc r11 s.r12 s.of
  let (r8, r12) := mulx rdx q.v2
  let (r12, cf) := adc r12 rax cf
  let (r12, of) := adc r12 s.r13 of
  let (rax, r13) := mulx rdx q.v3
  let (r13, cf) := adc r13 r8 cf
  let (r13, of) := adc r13 s.r14 of
  let (r14, cf) := adc 0 rax cf
  let (r14, of) := adc r14 s.r15 of
  ⟨r11, r12, r13, r14, s.r15, cf, of⟩

/-- Between two blocks `SecondLoop`: `r15` is cleared. -/
def clearR15 (s : Registers) : Registers := { s with r15 := 0 }

/-- The block `comparison`, with the labels `sq` and `done`. -/
def comparison (s : Registers) : FrRawElement := subtractQ ⟨s.r11, s.r12, s.r13, s.r14⟩ false

/-! ## Functions -/

/-- `Fr_rawMMul`. -/
def rawMMul (a b : FrRawElement) : FrRawElement :=
  let s := secondLoop (firstLoop0 a.v0 b)
  let s := secondLoop (firstLoop a.v1 b s)
  let s := secondLoop (firstLoop a.v2 b s)
  let s := secondLoop (firstLoop a.v3 b s)
  comparison s

/-- `Fr_rawMSquare`: the code of `Fr_rawMMul`, where both operands are read from the one
pointer. -/
def rawMSquare (a : FrRawElement) : FrRawElement := rawMMul a a

/-- `Fr_rawMMul1`. -/
def rawMMul1 (a : FrRawElement) (rdx : Word) : FrRawElement :=
  let s := secondLoop (firstLoop0 rdx a)
  let s := secondLoop (clearR15 s)
  let s := secondLoop (clearR15 s)
  let s := secondLoop (clearR15 s)
  comparison s

/-- `Fr_rawFromMontgomery`. -/
def rawFromMontgomery (a : FrRawElement) : FrRawElement :=
  let s := secondLoop ⟨a.v0, a.v1, a.v2, a.v3, 0, false, false⟩
  let s := secondLoop (clearR15 s)
  let s := secondLoop (clearR15 s)
  let s := secondLoop (clearR15 s)
  comparison s

/-- `Fr_rawToMontgomery`. -/
def rawToMontgomery (a : FrRawElement) : FrRawElement := rawMMul a R2

/-! ## What a block computes -/

/-- The number of the word zero. -/
theorem toNat_zero : (0 : Word).toNat = 0 := rfl

/-- The product of a word and four limbs, limb by limb. -/
lemma word_mul_toNat (d : Word) (b : FrRawElement) :
    d.toNat * b.toNat = d.toNat * b.v0.toNat + 2 ^ 64 * (d.toNat * b.v1.toNat) +
      2 ^ 128 * (d.toNat * b.v2.toNat) + 2 ^ 192 * (d.toNat * b.v3.toNat) := by
  rw [FrRawElement.toNat]
  ring

/-- The first block multiplies.

**Proof sketch.** One equation for each product and each sum with carry, weighted by its place. -/
lemma firstLoop0_total (d : Word) (b : FrRawElement) :
    (firstLoop0 d b).toNat5 + 2 ^ 64 * 2 ^ 256 * (firstLoop0 d b).cf.toNat = d.toNat * b.toNat := by
  have p0 := mulx_toNat d b.v0
  have p1 := mulx_toNat d b.v1
  have p2 := mulx_toNat d b.v2
  have p3 := mulx_toNat d b.v3
  have a1 := adc_toNat (mulx d b.v1).2 (mulx d b.v0).1 false
  set x1 := adc (mulx d b.v1).2 (mulx d b.v0).1 false
  have a2 := adc_toNat (mulx d b.v2).2 (mulx d b.v1).1 x1.2
  set x2 := adc (mulx d b.v2).2 (mulx d b.v1).1 x1.2
  have a3 := adc_toNat (mulx d b.v3).2 (mulx d b.v2).1 x2.2
  set x3 := adc (mulx d b.v3).2 (mulx d b.v2).1 x2.2
  have a4 := adc_toNat 0 (mulx d b.v3).1 x3.2
  set x4 := adc 0 (mulx d b.v3).1 x3.2
  have hres : firstLoop0 d b = ⟨(mulx d b.v0).2, x1.1, x2.1, x3.1, x4.1, x4.2, false⟩ := rfl
  rw [Bool.toNat_false] at a1
  rw [toNat_zero] at a4
  simp only [hres, Registers.toNat5, Registers.toNat]
  rw [word_mul_toNat]
  linear_combination p0 + 2 ^ 64 * (p1 + a1) + 2 ^ 128 * (p2 + a2) + 2 ^ 192 * (p3 + a3) +
    2 ^ 256 * a4

/-- The other blocks multiply and add.

**Proof sketch.** One equation for each product and for each sum of the two carry chains, weighted
by its place. -/
lemma firstLoop_total {s : Registers} (hcf : s.cf = false) (hof : s.of = false) (d : Word)
    (b : FrRawElement) :
    (firstLoop d b s).toNat5 +
        2 ^ 64 * 2 ^ 256 * ((firstLoop d b s).cf.toNat + (firstLoop d b s).of.toNat) =
      s.toNat + d.toNat * b.toNat := by
  have p0 := mulx_toNat d b.v0
  have p1 := mulx_toNat d b.v1
  have p2 := mulx_toNat d b.v2
  have p3 := mulx_toNat d b.v3
  have a0 := adc_toNat s.r11 (mulx d b.v0).2 s.cf
  set x0 := adc s.r11 (mulx d b.v0).2 s.cf
  have b0 := adc_toNat s.r12 (mulx d b.v0).1 s.of
  set y0 := adc s.r12 (mulx d b.v0).1 s.of
  have a1 := adc_toNat y0.1 (mulx d b.v1).2 x0.2
  set x1 := adc y0.1 (mulx d b.v1).2 x0.2
  have b1 := adc_toNat s.r13 (mulx d b.v1).1 y0.2
  set y1 := adc s.r13 (mulx d b.v1).1 y0.2
  have a2 := adc_toNat y1.1 (mulx d b.v2).2 x1.2
  set x2 := adc y1.1 (mulx d b.v2).2 x1.2
  have b2 := adc_toNat s.r14 (mulx d b.v2).1 y1.2
  set y2 := adc s.r14 (mulx d b.v2).1 y1.2
  have a3 := adc_toNat y2.1 (mulx d b.v3).2 x2.2
  set x3 := adc y2.1 (mulx d b.v3).2 x2.2
  have b3 := adc_toNat 0 (mulx d b.v3).1 y2.2
  set y3 := adc 0 (mulx d b.v3).1 y2.2
  have a4 := adc_toNat y3.1 0 x3.2
  set x4 := adc y3.1 0 x3.2
  have hres : firstLoop d b s = ⟨x0.1, x1.1, x2.1, x3.1, x4.1, x4.2, y3.2⟩ := rfl
  rw [hcf, Bool.toNat_false] at a0
  rw [hof, Bool.toNat_false] at b0
  rw [toNat_zero] at a4 b3
  simp only [hres, Registers.toNat5, Registers.toNat]
  rw [word_mul_toNat]
  linear_combination p0 + a0 + 2 ^ 64 * (p1 + b0 + a1) + 2 ^ 128 * (p2 + b1 + a2) +
    2 ^ 192 * (p3 + b2 + a3) + 2 ^ 256 * (b3 + a4)

/-- A block `SecondLoop` adds a multiple of the modulus and drops a word.

**Proof sketch.** As for `firstLoop_total`.  The lowest word is the one that is dropped. -/
lemma secondLoop_total {s : Registers} (hcf : s.cf = false) (hof : s.of = false) :
    ∃ low : Word, low.toNat + 2 ^ 64 * (secondLoop s).toNat +
        2 ^ 64 * 2 ^ 256 * ((secondLoop s).cf.toNat + (secondLoop s).of.toNat) =
      s.toNat5 + (mulx np s.r11).2.toNat * r := by
  set m := (mulx np s.r11).2
  have p0 := mulx_toNat m q.v0
  have p1 := mulx_toNat m q.v1
  have p2 := mulx_toNat m q.v2
  have p3 := mulx_toNat m q.v3
  have a0 := adc_toNat (mulx m q.v0).2 s.r11 s.cf
  set x0 := adc (mulx m q.v0).2 s.r11 s.cf
  have a1 := adc_toNat (mulx m q.v1).2 (mulx m q.v0).1 x0.2
  set x1 := adc (mulx m q.v1).2 (mulx m q.v0).1 x0.2
  have b1 := adc_toNat x1.1 s.r12 s.of
  set y1 := adc x1.1 s.r12 s.of
  have a2 := adc_toNat (mulx m q.v2).2 (mulx m q.v1).1 x1.2
  set x2 := adc (mulx m q.v2).2 (mulx m q.v1).1 x1.2
  have b2 := adc_toNat x2.1 s.r13 y1.2
  set y2 := adc x2.1 s.r13 y1.2
  have a3 := adc_toNat (mulx m q.v3).2 (mulx m q.v2).1 x2.2
  set x3 := adc (mulx m q.v3).2 (mulx m q.v2).1 x2.2
  have b3 := adc_toNat x3.1 s.r14 y2.2
  set y3 := adc x3.1 s.r14 y2.2
  have a4 := adc_toNat 0 (mulx m q.v3).1 x3.2
  set x4 := adc 0 (mulx m q.v3).1 x3.2
  have b4 := adc_toNat x4.1 s.r15 y3.2
  set y4 := adc x4.1 s.r15 y3.2
  have hres : secondLoop s = ⟨y1.1, y2.1, y3.1, y4.1, s.r15, x4.2, y4.2⟩ := rfl
  have hprod := word_mul_toNat m q
  rw [q_toNat] at hprod
  rw [hcf, Bool.toNat_false] at a0
  rw [hof, Bool.toNat_false] at b1
  rw [toNat_zero] at a4
  refine ⟨x0.1, ?_⟩
  simp only [hres, Registers.toNat5, Registers.toNat]
  rw [hprod]
  linear_combination p0 + a0 + 2 ^ 64 * (p1 + a1 + b1) + 2 ^ 128 * (p2 + a2 + b2) +
    2 ^ 192 * (p3 + a3 + b3) + 2 ^ 256 * (a4 + b4)

/-- The first loop of the first round computes a product with one word. -/
lemma firstLoop0_holds (d : Word) (b : FrRawElement) :
    (firstLoop0 d b).Holds5 (d.toNat * b.toNat) := by
  have htotal := firstLoop0_total d b
  have hlt : d.toNat * b.toNat < 2 ^ 64 * 2 ^ 256 := Nat.mul_lt_mul'' d.isLt b.toNat_lt
  exact ⟨by omega, eq_false_of_toNat_eq_zero (by omega), rfl⟩

/-- The first loop of a later round adds a product with one word. -/
lemma firstLoop_holds {s : Registers} {t : ℕ} (hs : s.Holds t) (d : Word) (b : FrRawElement)
    (hlt : t + d.toNat * b.toNat < 2 ^ 64 * 2 ^ 256) :
    (firstLoop d b s).Holds5 (t + d.toNat * b.toNat) := by
  have htotal := firstLoop_total hs.cf_eq hs.of_eq d b
  rw [hs.toNat_eq] at htotal
  exact ⟨by omega, eq_false_of_toNat_eq_zero (by omega), eq_false_of_toNat_eq_zero (by omega)⟩

/-- The negated inverse of the modulus. -/
lemma dvd_r_mul_np : 2 ^ 64 ∣ r * np.toNat + 1 := by decide

/-- The factor that the block takes from the lowest word is the one for the whole number. -/
lemma mulx_np_toNat (s : Registers) :
    (mulx np s.r11).2.toNat = Montgomery.multiple (2 ^ 64) np.toNat s.toNat5 := by
  have hlow : s.r11.toNat ≡ s.toNat5 [MOD 2 ^ 64] := by
    rw [Registers.toNat5, Registers.toNat, Nat.ModEq]
    omega
  rw [mulx, BitVec.toNat_mul, Montgomery.multiple, mul_comm]
  exact hlow.mul_right _

/-- A block `SecondLoop` is the reduction of a step. -/
lemma secondLoop_holds {s : Registers} {t : ℕ} (hs : s.Holds5 t)
    (hlt : t + 2 ^ 64 * r < 2 ^ 64 * 2 ^ 256) :
    (secondLoop s).Holds (Montgomery.reduce (2 ^ 64) r np.toNat t) := by
  obtain ⟨low, htotal⟩ := secondLoop_total hs.cf_eq hs.of_eq
  have hm := (mulx np s.r11).2.isLt
  have hmr : (mulx np s.r11).2.toNat * r ≤ 2 ^ 64 * r := Nat.mul_le_mul_right r hm.le
  -- The word that is dropped is divisible by the base.
  have hreduce := Montgomery.reduce_mul (q := r) (t := t) dvd_r_mul_np
  rw [← hs.toNat5_eq, ← mulx_np_toNat, hs.toNat5_eq] at hreduce
  rw [hs.toNat5_eq] at htotal
  have hlow := low.isLt
  exact ⟨by omega, eq_false_of_toNat_eq_zero (by omega), eq_false_of_toNat_eq_zero (by omega)⟩

/-! ## Rounds -/

/-- The factor of the Montgomery form. -/
def R : Fr := ((2 ^ 256 : ℕ) : Fr)

/-- `R` has an inverse. -/
theorem R_ne_zero : R ≠ 0 := by
  intro h
  have hdvd : r ∣ 2 ^ 256 := (ZMod.natCast_eq_zero_iff (2 ^ 256) r).mp h
  have hle := Nat.le_of_dvd two_pos (r_prime.dvd_of_dvd_pow hdvd)
  exact absurd hle (by decide)

/-- `R` is not one. -/
theorem R_ne_one : R ≠ 1 := by
  intro h
  have hmod : 2 ^ 256 ≡ 1 [MOD r] :=
    (ZMod.natCast_eq_natCast_iff _ _ r).mp (h.trans Nat.cast_one.symm)
  exact absurd hmod (by decide)

/-- The step of `Montgomery.mul` for a digit `d` and the second factor `b`. -/
def round (b t d : ℕ) : ℕ := Montgomery.reduce (2 ^ 64) r np.toNat (t + d * b)

/-- Four rounds multiply, up to a power of the base. -/
lemma rounds_modEq (b t d0 d1 d2 d3 : ℕ) :
    round b (round b (round b (round b t d0) d1) d2) d3 * 2 ^ 256 ≡
      t + (d0 + 2 ^ 64 * d1 + 2 ^ 128 * d2 + 2 ^ 192 * d3) * b [MOD r] := by
  have hmul := Montgomery.mul_mul_pow (b := b) dvd_r_mul_np t [d0, d1, d2, d3]
  have hdigits : Nat.ofDigits (2 ^ 64) [d0, d1, d2, d3] =
      d0 + 2 ^ 64 * d1 + 2 ^ 128 * d2 + 2 ^ 192 * d3 := by
    simp only [Nat.ofDigits_cons, Nat.ofDigits_nil]
    ring
  have hpow : (2 ^ 64) ^ [d0, d1, d2, d3].length = 2 ^ 256 := (pow_mul 2 64 4).symm
  rw [hdigits, hpow, Montgomery.mul_cons, Montgomery.mul_cons, Montgomery.mul_cons,
    Montgomery.mul_cons, Montgomery.mul_nil] at hmul
  exact hmul

/-- Four rounds multiply, and divide by `R`. -/
lemma cast_rounds (b t d0 d1 d2 d3 : ℕ) :
    ((round b (round b (round b (round b t d0) d1) d2) d3 : ℕ) : Fr) =
      (t + (d0 + 2 ^ 64 * d1 + 2 ^ 128 * d2 + 2 ^ 192 * d3 : ℕ) * b) * R⁻¹ := by
  have h := (ZMod.natCast_eq_natCast_iff _ _ _).mpr (rounds_modEq b t d0 d1 d2 d3)
  rw [Nat.cast_mul, Nat.cast_add, Nat.cast_mul, ← R] at h
  rw [eq_mul_inv_iff_mul_eq₀ R_ne_zero]
  exact h

/-- The bound of the accumulator is positive. -/
lemma two_r_pos : 0 < 2 * r := by decide

section Rounds

variable {s : Registers} {b : FrRawElement} {y : Fr} {t : ℕ}

/-- A round keeps the accumulator below `2 * r`. -/
lemma round_lt (hb : Normal b y) (ht : t < 2 * r) {d : ℕ} (hd : d < 2 ^ 64) :
    round b.toNat t d < 2 * r :=
  Montgomery.reduce_lt (Nat.two_pow_pos 64) ht hd hb.lt.le

/-- What a round adds before the reduction leaves room for it. -/
lemma add_word_mul_lt (hb : Normal b y) (ht : t < 2 * r) (d : Word) :
    t + d.toNat * b.toNat + 2 ^ 64 * r < 2 ^ 64 * 2 ^ 256 := by
  have hdb : d.toNat * b.toNat ≤ 2 ^ 64 * r := Nat.mul_le_mul d.isLt.le hb.lt.le
  have hr := r_lt_two_pow_254
  omega

/-- The first pair of blocks. -/
lemma firstRound_holds (hb : Normal b y) (d : Word) :
    (secondLoop (firstLoop0 d b)).Holds (round b.toNat 0 d.toNat) := by
  have hlt := add_word_mul_lt hb (t := 0) two_r_pos d
  rw [zero_add] at hlt
  rw [round, zero_add]
  exact secondLoop_holds (firstLoop0_holds d b) hlt

/-- The other pairs of blocks. -/
lemma round_holds (hb : Normal b y) (hs : s.Holds t) (ht : t < 2 * r) (d : Word) :
    (secondLoop (firstLoop d b s)).Holds (round b.toNat t d.toNat) := by
  have hlt := add_word_mul_lt hb ht d
  exact secondLoop_holds (firstLoop_holds hs d b (by omega)) hlt

/-- A block `SecondLoop` alone is the round of the digit zero. -/
lemma zeroRound_holds (b : ℕ) (hs : s.Holds t) (ht : t < 2 * r) :
    (secondLoop (clearR15 s)).Holds (round b t 0) := by
  have h5 : (clearR15 s).Holds5 t := by
    refine ⟨?_, hs.cf_eq, hs.of_eq⟩
    rw [← hs.toNat_eq, Registers.toNat5, clearR15, toNat_zero, mul_zero, add_zero]
    rfl
  have hr := r_lt_two_pow_254
  rw [round, zero_mul, add_zero]
  exact secondLoop_holds h5 (by omega)

/-- The final comparison reduces the accumulator. -/
lemma normal_comparison (hs : s.Holds t) (ht : t < 2 * r) : Normal (comparison s) (t : Fr) := by
  refine normal_subtractQ ?_ ht
  rw [Bool.toNat_false, mul_zero, add_zero]
  exact hs.toNat_eq

end Rounds

/-! ## What the functions compute -/

namespace Normal

variable {a b : FrRawElement} {x y : Fr}

/-- **`Fr_rawMMul` multiplies** any four limbs with a representative, and divides by `R`. -/
theorem rawMMul (a : FrRawElement) (hb : Normal b y) :
    Normal (rawMMul a b) (a.toNat * y * R⁻¹) := by
  have h0 := firstRound_holds hb a.v0
  have l0 := round_lt hb (t := 0) two_r_pos a.v0.isLt
  have h1 := round_holds hb h0 l0 a.v1
  have l1 := round_lt hb l0 a.v1.isLt
  have h2 := round_holds hb h1 l1 a.v2
  have l2 := round_lt hb l1 a.v2.isLt
  have h3 := round_holds hb h2 l2 a.v3
  have l3 := round_lt hb l2 a.v3.isLt
  have h := normal_comparison h3 l3
  rw [cast_rounds, Nat.cast_zero, zero_add, hb.cast] at h
  exact h

/-- `Fr_rawMSquare` is the Montgomery square. -/
theorem rawMSquare (ha : Normal a x) : Normal (rawMSquare a) (x * x * R⁻¹) := by
  have h := rawMMul a ha
  rwa [ha.cast] at h

/-- `Fr_rawMMul1` multiplies with a word. -/
theorem rawMMul1 (ha : Normal a x) (w : Word) :
    Normal (rawMMul1 a w) (w.toNat * x * R⁻¹) := by
  have h0 := firstRound_holds ha w
  have l0 := round_lt ha (t := 0) two_r_pos w.isLt
  have h1 := zeroRound_holds a.toNat h0 l0
  have l1 := round_lt ha l0 (Nat.two_pow_pos 64)
  have h2 := zeroRound_holds a.toNat h1 l1
  have l2 := round_lt ha l1 (Nat.two_pow_pos 64)
  have h3 := zeroRound_holds a.toNat h2 l2
  have l3 := round_lt ha l2 (Nat.two_pow_pos 64)
  have h := normal_comparison h3 l3
  rw [cast_rounds, Nat.cast_zero, zero_add, ha.cast, mul_zero, mul_zero, mul_zero,
    add_zero, add_zero, add_zero] at h
  exact h

/-- `Fr_rawFromMontgomery` divides by `R`. -/
theorem rawFromMontgomery (ha : Normal a x) : Normal (rawFromMontgomery a) (x * R⁻¹) := by
  have hlt := ha.lt
  have hstart : Registers.Holds ⟨a.v0, a.v1, a.v2, a.v3, 0, false, false⟩ a.toNat := ⟨rfl, rfl, rfl⟩
  have h0 := zeroRound_holds 0 hstart (by omega)
  have l0 := round_lt normal_zero (t := a.toNat) (by omega) (Nat.two_pow_pos 64)
  have h1 := zeroRound_holds 0 h0 l0
  have l1 := round_lt normal_zero l0 (Nat.two_pow_pos 64)
  have h2 := zeroRound_holds 0 h1 l1
  have l2 := round_lt normal_zero l1 (Nat.two_pow_pos 64)
  have h3 := zeroRound_holds 0 h2 l2
  have l3 := round_lt normal_zero l2 (Nat.two_pow_pos 64)
  have h := normal_comparison h3 l3
  rw [cast_rounds, ha.cast, Nat.cast_zero, mul_zero, add_zero] at h
  exact h

end Normal

/-- The constant `Fr_R2`. -/
theorem normal_R2 : Normal R2 (R * R) := by
  have hmod : R2.toNat ≡ 2 ^ 256 * 2 ^ 256 [MOD r] := by decide
  have hcast := (ZMod.natCast_eq_natCast_iff _ _ r).mpr hmod
  rw [Nat.cast_mul, ← R] at hcast
  exact Normal.of_lt (by decide) hcast

/-- The constant `Fr_R3`. -/
theorem normal_R3 : Normal R3 (R * R * R) := by
  have hmod : R3.toNat ≡ 2 ^ 256 * 2 ^ 256 * 2 ^ 256 [MOD r] := by decide
  have hcast := (ZMod.natCast_eq_natCast_iff _ _ r).mpr hmod
  rw [Nat.cast_mul, Nat.cast_mul, ← R] at hcast
  exact Normal.of_lt (by decide) hcast

/-- `Fr_rawToMontgomery` multiplies with `R`. -/
theorem Normal.rawToMontgomery {a : FrRawElement} {x : Fr} (ha : Normal a x) :
    Normal (rawToMontgomery a) (x * R) := by
  have h := rawMMul a normal_R2
  rwa [ha.cast, mul_assoc, mul_assoc, mul_inv_cancel₀ R_ne_zero, mul_one] at h

-- From here on the functions are known by what they compute.
attribute [irreducible] rawMMul rawMMul1 rawFromMontgomery

end AuthCpp
