import Mathlib.Data.ZMod.ValMinAbs
import ZkpAuth.Circomlib.Comparators
import ZkpAuth.Circomlib.PoseidonConstants
import ZkpAuth.Lib.BitDecomposition
import ZkpAuth.Lib.Loop

/-!
# Field elements, constants and loops of the C++ witness calculator

The circuit code of `auth_cpp/auth.cpp` computes with field elements only: also its loop variables
and the results of its comparisons are elements of the field.  Numbers are read from the constant
table of `auth.dat`.

## Main definitions

* `AuthCpp.frLt`, `AuthCpp.frGt`, `AuthCpp.frEq`, `AuthCpp.frIsTrue`, `AuthCpp.frToInt` — the field
  routines.
* `AuthCpp.Constants` — the constant table, with the small numbers that the code takes from it.
* `AuthCpp.forLoop`, `AuthCpp.singleLoop` — the two shapes of loops in the circuit code.

## Main results

* `AuthCpp.forLoop_yields`, `AuthCpp.forLoop_two`, `AuthCpp.singleLoop_eq` — the loops end.
-/

set_option relaxedAutoImplicit false
set_option autoImplicit false

open Bn254 BitDecomposition

namespace AuthCpp

/-! ## Field routines -/

/-- `Fr_lt`: the comparison of the signed representatives. -/
def frLt (a b : Fr) : Fr := toField (decide (a.valMinAbs < b.valMinAbs))

/-- `Fr_gt`. -/
def frGt (a b : Fr) : Fr := toField (decide (b.valMinAbs < a.valMinAbs))

/-- `Fr_eq`. -/
def frEq (a b : Fr) : Fr := toField (decide (a = b))

/-- `Fr_isTrue`. -/
def frIsTrue (a : Fr) : Bool := decide (a ≠ ((0 : ℕ) : Fr))

/-- `Fr_toInt`, which the circuit code applies to small numbers only. -/
def frToInt (a : Fr) : ℕ := a.val

/-- A Boolean is read back from its field element. -/
@[simp]
lemma frIsTrue_toField (b : Bool) : frIsTrue (toField b) = b := by
  cases b <;> rfl

/-- On small numbers `Fr_lt` is the comparison of naturals. -/
theorem frIsTrue_frLt {m n : ℕ} (hm : m ≤ r / 2) (hn : n ≤ r / 2) :
    frIsTrue (frLt (m : Fr) (n : Fr)) = decide (m < n) := by
  rw [frLt, frIsTrue_toField, ZMod.valMinAbs_natCast_of_le_half hm,
    ZMod.valMinAbs_natCast_of_le_half hn, decide_eq_decide, Nat.cast_lt]

/-- On small numbers `Fr_gt` is the comparison of naturals. -/
theorem frIsTrue_frGt {m n : ℕ} (hm : m ≤ r / 2) (hn : n ≤ r / 2) :
    frIsTrue (frGt (m : Fr) (n : Fr)) = decide (n < m) :=
  frIsTrue_frLt hn hm

/-- A number below the modulus is read back from its field element. -/
theorem frToInt_natCast {n : ℕ} (hn : n < r) : frToInt (n : Fr) = n := ZMod.val_cast_of_lt hn

/-- On numbers below the modulus `Fr_eq` is the equality of naturals. -/
lemma frIsTrue_frEq {m n : ℕ} (hm : m < r) (hn : n < r) :
    frIsTrue (frEq (m : Fr) (n : Fr)) = decide (m = n) := by
  rw [frEq, frIsTrue_toField, decide_eq_decide]
  refine ⟨fun h => ?_, congrArg _⟩
  have hval := congrArg frToInt h
  rwa [frToInt_natCast hm, frToInt_natCast hn] at hval

/-! ## The constant table -/

/-- The constant table of `auth.dat`, with the entries that the code takes its small numbers
from. -/
structure Constants where
  /-- `circuitConstants`. -/
  value : ℕ → Fr
  /-- The constant `0`. -/
  zero : value 72 = ((0 : ℕ) : Fr)
  /-- The constant `2`. -/
  two : value 73 = ((2 : ℕ) : Fr)
  /-- The constant `1`. -/
  one : value 74 = ((1 : ℕ) : Fr)
  /-- The constant `4`. -/
  four : value 79 = ((4 : ℕ) : Fr)
  /-- The constant `3`. -/
  three : value 195 = ((3 : ℕ) : Fr)
  /-- The constant `56`. -/
  fiftySix : value 284 = ((56 : ℕ) : Fr)

namespace Constants

variable (K : Constants)

/-- The test of a loop variable for zero. -/
theorem frIsTrue_frEq_zero {n : ℕ} (hn : n < r) :
    frIsTrue (frEq (n : Fr) (K.value 72)) = decide (n = 0) := by
  rw [K.zero, frIsTrue_frEq hn (by decide)]

/-- The number before a loop variable. -/
theorem frToInt_sub_one {n : ℕ} (hpos : 0 < n) (hn : n < r) :
    frToInt ((n : Fr) - K.value 74) = n - 1 := by
  rw [K.one, ← Nat.cast_sub hpos, frToInt_natCast (by omega)]

/-- The table `POSEIDON_C(2)` in the local variables. -/
def poseidonC (i : ℕ) : Fr := if i < 72 then K.value i else ((0 : ℕ) : Fr)

/-- The table `POSEIDON_S(2)` in the local variables.  The first of each three entries is the
constant `M[0][0]`, and the last of all is `M[0][1]`. -/
def poseidonS (i : ℕ) : Fr :=
  if i < 168 then
    K.value (if i % 3 = 0 then 75 else if i = 167 then 76 else 84 + 2 * (i / 3) + (i % 3 - 1))
  else ((0 : ℕ) : Fr)

/-- The table `POSEIDON_M(2)` in the local variables, row after row. -/
def poseidonM (i : ℕ) : Fr := K.value (75 + i)

/-- The table `POSEIDON_P(2)` in the local variables.  Its first column is that of `M`. -/
def poseidonP (i : ℕ) : Fr := K.value (if i % 2 = 0 then 75 + i else 82 + i / 2)

/-- The four tables. -/
def poseidon : Poseidon.Constants Fr 2 where
  nRoundsP := 56
  nRoundsP_pos := Poseidon.constants2.nRoundsP_pos
  C := K.poseidonC
  S := K.poseidonS
  M j i := K.poseidonM (2 * j + i)
  P j i := K.poseidonP (2 * j + i)

/-- The function that the C++ code hashes with. -/
def hash (x : Fr) : Fr := Poseidon.hash K.poseidon fun _ => x

end Constants

/-! ## Loops -/

section Loops

variable {σ : Type} (K : Constants)

/-- The condition of a loop with the counter `p.1`. -/
def forCond (bound : Fr) (p : Fr × σ) : Bool := frIsTrue (frLt p.1 bound)

/-- One iteration of a loop with the counter `p.1`. -/
def forStep (body : Fr → σ → Except String σ) (p : Fr × σ) : Except String (Fr × σ) := do
  let s ← body p.1 p.2
  return (p.1 + K.value 74, s)

/-- The loop `i = 0; while (i < bound) { body; i = i + 1 }`.  The loops of the circuit code have at
most 56 iterations. -/
def forLoop (bound : Fr) (body : Fr → σ → Except String σ) (s : σ) : Except String σ := do
  let p ← whileDo "while" (forCond bound) (forStep K body) 64 (K.value 72, s)
  return p.2

/-- A loop of one iteration: the compiler replaces the loop variable in the body by its value. -/
def singleLoop (start stop : ℕ) (body : σ → Except String σ) (s : σ) : Except String σ := do
  let p ← whileDo "while" (forCond (K.value stop))
    (fun p => do
      let s ← body p.2
      return (K.value stop, s)) 2 (K.value start, s)
  return p.2

variable {K}

/-- The condition on small numbers. -/
lemma forCond_natCast {m n : ℕ} (hm : m ≤ r / 2) (hn : n ≤ r / 2) (s : σ) :
    forCond (n : Fr) ((m : Fr), s) = decide (m < n) :=
  frIsTrue_frLt hm hn

/-- **The rule of a loop with a counter.** -/
theorem forLoop_yields {body : Fr → σ → Except String σ} (I : ℕ → σ → Prop) {n : ℕ} (hn : n < 64)
    {bound : Fr} (hbound : bound = (n : Fr))
    (hstep : ∀ i < n, ∀ s, I i s → Yields (body (i : Fr) s) (I (i + 1))) {s : σ} (hs : I 0 s) :
    Yields (forLoop K bound body s) (I n) := by
  have hsmall : ∀ i ≤ n, i ≤ r / 2 := fun i hi => by
    have h64 : 64 ≤ r / 2 := by decide
    omega
  have hwhile : Yields (whileDo "while" (forCond bound) (forStep K body) 64 (K.value 72, s))
      fun p : Fr × σ => p.1 = (n : Fr) ∧ I n p.2 := by
    refine whileDo_yields (fun i (p : Fr × σ) => p.1 = (i : Fr) ∧ I i p.2) ?_ ?_ hn ⟨K.zero, hs⟩
    · rintro i hi ⟨x, s⟩ ⟨rfl, hs⟩
      refine ⟨?_, (hstep i hi s hs).bind fun s' hs' => .ok ⟨?_, hs'⟩⟩
      · rw [hbound, forCond_natCast (hsmall i hi.le) (hsmall n le_rfl)]
        exact decide_eq_true hi
      · rw [K.one, ← Nat.cast_add]
    · rintro ⟨x, s⟩ ⟨rfl, -⟩
      rw [hbound, forCond_natCast (hsmall n le_rfl) (hsmall n le_rfl)]
      exact decide_eq_false (lt_irrefl n)
  refine Yields.bind hwhile fun p hp => ?_
  exact .ok hp.2

/-- A loop of two iterations. -/
theorem forLoop_two (body : Fr → σ → Except String σ) (s : σ) :
    forLoop K (K.value 73) body s =
      (body ((0 : ℕ) : Fr) s >>= fun s => body ((1 : ℕ) : Fr) s) := by
  have hcond : ∀ i ≤ 2, ∀ s : σ, forCond (K.value 73) (((i : ℕ) : Fr), s) = decide (i < 2) := by
    intro i hi s
    rw [K.two, forCond_natCast (hi.trans (by decide)) (by decide)]
  have hnext : ∀ i : ℕ, (i : Fr) + K.value 74 = ((i + 1 : ℕ) : Fr) := fun i => by
    rw [K.one, ← Nat.cast_add]
  rw [forLoop, K.zero, whileDo_of_true (hcond 0 (by omega) _), forStep, bind_assoc, bind_assoc]
  refine bind_congr fun s₁ => ?_
  rw [pure_bind, hnext, whileDo_of_true (hcond 1 (by omega) _), forStep, bind_assoc, bind_assoc]
  conv_rhs => rw [← bind_pure (body ((1 : ℕ) : Fr) s₁)]
  refine bind_congr fun s₂ => ?_
  rw [pure_bind, hnext, whileDo_of_false (hcond 2 (by omega) _)]
  rfl

/-- A loop of one iteration runs its body once. -/
theorem singleLoop_eq {start stop m n : ℕ} (hstart : K.value start = (m : Fr))
    (hstop : K.value stop = (n : Fr)) (hmn : m < n) (hn : n ≤ r / 2) (body : σ → Except String σ)
    (s : σ) : singleLoop K start stop body s = body s := by
  have hlast : ∀ s', whileDo "while" (forCond (K.value stop))
      (fun p => do
        let s ← body p.2
        return (K.value stop, s)) 1 (K.value stop, s') = .ok (K.value stop, s') := by
    intro s'
    refine whileDo_of_false ?_ 0
    rw [hstop, forCond_natCast hn hn]
    exact decide_eq_false (lt_irrefl n)
  rw [singleLoop, whileDo_of_true]
  · cases body s with
    | error e => rfl
    | ok s' => exact congrArg (· >>= fun p => pure p.2) (hlast s')
  · rw [hstart, hstop, forCond_natCast (hmn.le.trans hn) hn]
    exact decide_eq_true hmn

end Loops

end AuthCpp
