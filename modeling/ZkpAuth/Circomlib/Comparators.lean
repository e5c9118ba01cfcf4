import ZkpAuth.Lib.BitDecomposition
import ZkpAuth.Lib.Template

/-!
# The comparators of circomlib

The templates `IsZero` and `LessThan` of `circomlib/circuits/comparators.circom` and `Num2Bits`
of `circomlib/circuits/bitify.circom`, over an arbitrary prime field.  Each template has its
signals, its constraints (every `<==`, `==>` and `===` of the source is one equation) and its
witness computation, where the right-hand side of `<--` is the hint.  The source's signal `in`
is written `inp`.

## Main definitions

* `IsZero`, `Num2Bits`, `LessThan` — one namespace for each template, with `Signals`,
  `Constraints`, `compute` and `template`.

## Main results

* `IsZero.implements` — the zero test, whatever the prover puts on `inv`.
* `Num2Bits.constraints_iff_isBits` — the accumulator loop constrains a bit decomposition.
* `Num2Bits.implements` — below the modulus the bits are those of the canonical representative.
* `LessThan.implements` — what `LessThan(n)` decides, and when its constraints are solvable.
* `LessThan.out_eq_one_iff` — on operands of `n` bits it decides their order.
-/

set_option relaxedAutoImplicit false
set_option autoImplicit false

/-- The two wires of a comparison have indices.  The fact is named, so that every circuit writes
them alike. -/
instance Comparators.neZero_two : NeZero 2 := ⟨two_ne_zero⟩

/-! ## The zero test -/

namespace IsZero

variable {F : Type*} [Field F]

/-- The signals of `IsZero`. -/
structure Signals (F : Type*) where
  /-- The tested value. -/
  inp : F
  /-- `1` on zero and `0` elsewhere. -/
  out : F
  /-- The inverse hint, free to the prover. -/
  inv : F

/-- The constraints of `IsZero`. -/
structure Constraints (s : Signals F) : Prop where
  /-- `out <== -in*inv +1`. -/
  out_eq : s.out = -s.inp * s.inv + 1
  /-- `in*out === 0`. -/
  inp_mul_out : s.inp * s.out = 0

/-- The witness computation of `IsZero`, with the hint `inv <-- in!=0 ? 1/in : 0`. -/
def compute [DecidableEq F] (x : F) : Signals F :=
  let inv := if x ≠ 0 then 1 / x else 0
  { inp := x, out := -x * inv + 1, inv := inv }

/-- `IsZero` as a template. -/
def template (F : Type*) [Field F] [DecidableEq F] : Template F (Signals F) F where
  input := Signals.inp
  output := Signals.out
  Constraints := Constraints
  compute := compute

/-- **The zero test is sound and complete.** The output is forced even though `inv` is free:
on zero the first constraint makes it `1`, elsewhere the second makes it `0`. -/
theorem implements [DecidableEq F] :
    (template F).Implements Set.univ (fun x => BitDecomposition.toField (decide (x = 0))) where
  input_compute _ := rfl
  input_mem _ _ := Set.mem_univ _
  output_eq s h := by
    by_cases hx : s.inp = 0
    · simpa [template, hx] using h.out_eq
    · have hout : s.out = 0 := (mul_eq_zero.mp h.inp_mul_out).resolve_left hx
      simpa [template, hx] using hout
  constraints_compute x _ := by
    refine ⟨rfl, ?_⟩
    by_cases hx : x = 0 <;> simp [template, compute, hx]

end IsZero

/-! ## Bit decomposition -/

namespace Num2Bits

variable {p n : ℕ} [Fact p.Prime]

/-- The signals of `Num2Bits(n)`. -/
structure Signals (p n : ℕ) where
  /-- The decomposed value. -/
  inp : ZMod p
  /-- The bits, least significant first. -/
  out : Fin n → ZMod p

/-- The value of `lc1` after the loop of `Num2Bits(n)`, which carries `lc1` and `e2`. -/
def lc1 (out : Fin n → ZMod p) : ZMod p :=
  (Fin.foldl n (fun acc i => (acc.1 + out i * acc.2, acc.2 + acc.2)) (0, 1)).1

/-- The constraints of `Num2Bits(n)`. -/
structure Constraints (s : Signals p n) : Prop where
  /-- `out[i] * (out[i] -1 ) === 0`. -/
  boolean : ∀ i, s.out i * (s.out i - 1) = 0
  /-- `lc1 === in`. -/
  lc1_eq : lc1 s.out = s.inp

/-- The witness computation of `Num2Bits(n)`, with the hint `out[i] <-- (in >> i) & 1`. -/
def compute (x : ZMod p) : Signals p n where
  inp := x
  out i := (((x.val >>> (i : ℕ)) &&& 1 : ℕ) : ZMod p)

/-- `Num2Bits(n)` as a template. -/
def template (p n : ℕ) [Fact p.Prime] : Template (ZMod p) (Signals p n) (Fin n → ZMod p) where
  input := Signals.inp
  output := Signals.out
  Constraints := Constraints
  compute := compute

/-- The loop computes the weighted sum of the bits. -/
lemma lc1_eq_sum (out : Fin n → ZMod p) : lc1 out = ∑ i, out i * 2 ^ (i : ℕ) := by
  rw [lc1, BitDecomposition.foldl_double]

/-- The constraints say that `out` is a bit decomposition of `in`, for every width. -/
theorem constraints_iff_isBits (s : Signals p n) :
    Constraints s ↔ BitDecomposition.IsBits s.out s.inp := by
  constructor
  · intro h
    exact ⟨h.boolean, by rw [← lc1_eq_sum, h.lc1_eq]⟩
  · intro h
    exact ⟨h.boolean, by rw [lc1_eq_sum, h.sum_eq]⟩

/-- The hint of bit `i` is bit `i` of the canonical representative. -/
lemma compute_out (x : ZMod p) (i : Fin n) :
    (compute x : Signals p n).out i = BitDecomposition.toField (x.val.testBit i) := by
  rw [← BitDecomposition.cast_toNat, Nat.toNat_testBit]
  simp only [compute, Nat.and_one_is_mod, Nat.shiftRight_eq_div_pow]

/-- **`Num2Bits(n)` below the modulus.** If `2ⁿ ≤ p`, the constraints are solvable exactly for
the values below `2ⁿ`, and then the bits are those of the canonical representative. -/
theorem implements (hn : 2 ^ n ≤ p) :
    (template p n).Implements {x | x.val < 2 ^ n}
      (fun x i => BitDecomposition.toField (x.val.testBit i)) where
  input_compute _ := rfl
  input_mem s h :=
    ((BitDecomposition.isBits_iff_val hn _ _).mp ((constraints_iff_isBits s).mp h)).1
  output_eq s h :=
    funext ((BitDecomposition.isBits_iff_val hn _ _).mp ((constraints_iff_isBits s).mp h)).2
  constraints_compute x hx :=
    (constraints_iff_isBits _).mpr
      ((BitDecomposition.isBits_iff_val hn _ _).mpr ⟨hx, compute_out x⟩)

/-- A satisfying assignment decomposes a value of at most `n` bits. -/
theorem val_lt (hn : 2 ^ n ≤ p) {s : Signals p n} (h : Constraints s) : s.inp.val < 2 ^ n :=
  (implements hn).input_mem s h

/-- The bits of a satisfying assignment are those of the canonical representative. -/
theorem out_eq (hn : 2 ^ n ≤ p) {s : Signals p n} (h : Constraints s) (i : Fin n) :
    s.out i = BitDecomposition.toField (s.inp.val.testBit i) :=
  congrFun ((implements hn).output_eq s h) i

end Num2Bits

/-! ## The comparator -/

namespace LessThan

variable {p n : ℕ} [Fact p.Prime]

/-- The signals of `LessThan(n)`. -/
structure Signals (p n : ℕ) where
  /-- The compared values. -/
  inp : Fin 2 → ZMod p
  /-- The decision. -/
  out : ZMod p
  /-- The component `n2b = Num2Bits(n+1)`. -/
  n2b : Num2Bits.Signals p (n + 1)

/-- The value that `LessThan(n)` decomposes: `in[0]+ (1<<n) - in[1]`. -/
def shifted (n : ℕ) (inp : Fin 2 → ZMod p) : ZMod p := inp 0 + ((1 <<< n : ℕ) : ZMod p) - inp 1

/-- The constraints of `LessThan(n)`, together with the assertion on the parameter that the
compiler checks. -/
structure Constraints (s : Signals p n) : Prop where
  /-- `assert(n <= 252)`. -/
  assert_le : n ≤ 252
  /-- The constraints of the component. -/
  n2b : Num2Bits.Constraints s.n2b
  /-- `n2b.in <== in[0]+ (1<<n) - in[1]`. -/
  n2b_inp : s.n2b.inp = shifted n s.inp
  /-- `out <== 1-n2b.out[n]`. -/
  out_eq : s.out = 1 - s.n2b.out (Fin.last n)

/-- The witness computation of `LessThan(n)`. -/
def compute (inp : Fin 2 → ZMod p) : Signals p n :=
  let n2b := Num2Bits.compute (shifted n inp)
  { inp := inp, out := 1 - n2b.out (Fin.last n), n2b := n2b }

/-- `LessThan(n)` as a template. -/
def template (p n : ℕ) [Fact p.Prime] :
    Template (Fin 2 → ZMod p) (Signals p n) (ZMod p) where
  input := Signals.inp
  output := Signals.out
  Constraints := Constraints
  compute := compute

/-- The top bit of a number of `n + 1` bits. -/
lemma testBit_top {n v : ℕ} (hv : v < 2 ^ (n + 1)) : v.testBit n = !decide (v < 2 ^ n) := by
  by_cases h : v < 2 ^ n
  · simp [h, Nat.testBit_lt_two_pow h]
  · simp [h, Nat.testBit_of_two_pow_le_and_two_pow_add_one_gt (Nat.le_of_not_lt h) hv]

/-- **What `LessThan(n)` decides.** With `n + 1` bits below the modulus, the constraints are
solvable exactly when `in[0] + 2ⁿ - in[1]` has a representative below `2ⁿ⁺¹`, and then the output
says whether it is below `2ⁿ`.

**Proof sketch.** The component's bits are those of the representative of the decomposed value,
and the output is the complement of the top one. -/
theorem implements (hn : n ≤ 252) (hp : 2 ^ (n + 1) ≤ p) :
    (template p n).Implements {inp | (shifted n inp).val < 2 ^ (n + 1)}
      (fun inp => BitDecomposition.toField (decide ((shifted n inp).val < 2 ^ n))) where
  input_compute _ := rfl
  input_mem s h := by
    have hlt := Num2Bits.val_lt hp h.n2b
    rwa [h.n2b_inp] at hlt
  output_eq s h := by
    have hlt := Num2Bits.val_lt hp h.n2b
    have htop := Num2Bits.out_eq hp h.n2b (Fin.last n)
    rw [Fin.val_last, testBit_top hlt, h.n2b_inp] at htop
    change s.out = BitDecomposition.toField (decide ((shifted n s.inp).val < 2 ^ n))
    rw [h.out_eq, htop, BitDecomposition.one_sub_toField, Bool.not_not]
  constraints_compute inp hinp :=
    ⟨hn, (Num2Bits.implements hp).constraints_compute _ hinp, rfl, rfl⟩

/-- For operands of `n` bits the decomposed value does not wrap around. -/
theorem shifted_val (hp : 2 ^ (n + 1) ≤ p) {inp : Fin 2 → ZMod p} (h₀ : (inp 0).val < 2 ^ n)
    (h₁ : (inp 1).val < 2 ^ n) : (shifted n inp).val = (inp 0).val + 2 ^ n - (inp 1).val := by
  have hpow : 2 ^ (n + 1) = 2 ^ n + 2 ^ n := by ring
  have hcast : shifted n inp = (((inp 0).val + 2 ^ n - (inp 1).val : ℕ) : ZMod p) := by
    rw [Nat.cast_sub (by omega), Nat.cast_add, ZMod.natCast_zmod_val, ZMod.natCast_zmod_val,
      ← Nat.one_shiftLeft]
    rfl
  rw [hcast, ZMod.val_cast_of_lt (by omega)]

/-- **The comparator on operands of `n` bits** decides the order of the canonical
representatives. -/
theorem out_eq_one_iff (hn : n ≤ 252) (hp : 2 ^ (n + 1) ≤ p) {s : Signals p n}
    (h : Constraints s) (h₀ : (s.inp 0).val < 2 ^ n) (h₁ : (s.inp 1).val < 2 ^ n) :
    s.out = 1 ↔ (s.inp 0).val < (s.inp 1).val := by
  have hout := (implements hn hp).output_eq s h
  change s.out = BitDecomposition.toField (decide ((shifted n s.inp).val < 2 ^ n)) at hout
  rw [hout, BitDecomposition.toField_decide_eq_one, shifted_val hp h₀ h₁]
  omega

end LessThan
