import Mathlib.Algebra.BigOperators.Fin
import ZkpAuth.Circomlib.Poseidon
import ZkpAuth.Lib.PartialRounds

/-!
# The reference implementation of Poseidon

`circomlibjs/src/poseidon_reference.js`: each round adds one constant to every element of the state,
applies the fifth power to all elements or to the first one only, and multiplies by one matrix.  The
circuit and the other implementations follow an optimized schedule instead, with constants and
sparse matrices that are computed in advance.

## Main definitions

* `Poseidon.Reference.Tables`, `Poseidon.Reference.round`, `Poseidon.Reference.state` — the tables
  and the rounds.
* `Poseidon.Optimizes` — how the optimized tables are related to those of the reference.

## Main results

* `Poseidon.Optimizes.squeeze_eq` — the optimized schedule computes the reference.
-/

set_option relaxedAutoImplicit false
set_option autoImplicit false

open Matrix PartialRounds

namespace Poseidon

variable {F : Type*} [CommRing F]

namespace Reference

/-- The entries of the tables `C` and `M` at one width, and of `N_ROUNDS_P`. -/
structure Tables (F : Type*) (t : ℕ) where
  nRoundsP : ℕ
  C : ℕ → F
  M : Fin t → Fin t → F

/-- `pow5`. -/
def pow5 (a : F) : F := a * ((a * a) * (a * a))

variable {t : ℕ} (T : Tables F t)

/-- The body of the loop over the rounds. -/
def round (r : ℕ) (state : Fin t → F) : Fin t → F :=
  let state : Fin t → F := fun i => state i + T.C (r * t + i)
  let state : Fin t → F :=
    if r < 8 / 2 ∨ 8 / 2 + T.nRoundsP ≤ r then fun i => pow5 (state i)
    else fun i => if (i : ℕ) = 0 then pow5 (state i) else state i
  fun i => lc (fun j => T.M i j) state

/-- The state after `r` rounds. -/
def state (x : Fin t → F) : ℕ → Fin t → F
  | 0 => x
  | r + 1 => round T r (state x r)

/-- The state after the loop. -/
def permutation (x : Fin t → F) : Fin t → F := state T x (8 + T.nRoundsP)

end Reference

open Reference

/-! ## Layers as matrices -/

/-- The power is that of the circuit. -/
theorem pow5_eq_sigma (x : F) : pow5 x = sigma x := by
  rw [sigma_eq_pow, pow5]
  ring

/-- The linear combination as a sum. -/
theorem lc_eq_sum {t : ℕ} (coeff inp : Fin t → F) : lc coeff inp = ∑ j, coeff j * inp j := by
  unfold lc
  induction t with
  | zero => simp
  | succ t ih =>
    rw [Fin.foldl_succ_last, Fin.sum_univ_castSucc, ← ih]

/-- The mixing layer as a product of a row with a matrix. -/
lemma mix_eq_vecMul {t : ℕ} (M : Fin t → Fin t → F) (x : Fin t → F) : mix M x = x ᵥ* of M := by
  funext i
  rw [mix, lc_eq_sum]
  apply Finset.sum_congr rfl
  intro j _
  exact mul_comm _ _

variable {n : ℕ}

/-- The matrix of `MixS(t, S, r)`. -/
def sparse (S : ℕ → F) (r : ℕ) : Matrix (Fin (n + 1)) (Fin (n + 1)) F := of fun i j =>
  let t := n + 1
  if (j : ℕ) = 0 then S ((t * 2 - 1) * r + i)
  else if (i : ℕ) = 0 then S ((t * 2 - 1) * r + t + j - 1)
  else if i = j then 1 else 0

/-- The sparse mixing layer as a product of a row with a matrix. -/
lemma mixS_eq_vecMul (S : ℕ → F) (r : ℕ) (x : Fin (n + 1) → F) :
    mixS S r x = x ᵥ* sparse S r := by
  funext i
  simp only [mixS, vecMul, dotProduct, sparse, of_apply, Fin.val_eq_zero_iff]
  by_cases hi : i = 0
  · simp only [if_pos hi, lc_eq_sum]
    apply Finset.sum_congr rfl
    intro j _
    exact mul_comm _ _
  · simp only [if_neg hi]
    rw [Fin.sum_univ_succ, if_pos rfl, add_comm]
    congr 1
    have hsucc : ∀ j : Fin n, ¬j.succ = 0 := Fin.succ_ne_zero
    obtain ⟨k, rfl⟩ := Fin.exists_succ_eq.mpr hi
    simp [hsucc]

/-! ## The optimized tables -/

/-- The S-boxes of a full round. -/
def sboxes {t : ℕ} (x : Fin t → F) : Fin t → F := fun j => sigma (x j)

/-- The constants from the offset `off` of a table on. -/
def constantsAt (C : ℕ → F) (off : ℕ) : Fin (n + 1) → F := fun i => C (off + i)

/-- The tables of the optimized schedule and those of the reference.  Constants before a linear
layer stand for their image behind it. -/
structure Optimizes (T : Tables F (n + 1)) (K : Constants F (n + 1)) : Prop where
  nRoundsP_eq : K.nRoundsP = T.nRoundsP
  /-- The matrix is transposed. -/
  matrix : ∀ i j, K.M i j = T.M j i
  /-- The first constants are the same. -/
  start : (constantsAt K.C 0 : Fin (n + 1) → F) = constantsAt T.C 0
  /-- The constants of the first full rounds. -/
  first : ∀ r < 3, constantsAt K.C ((r + 1) * (n + 1)) ᵥ* of K.M =
    constantsAt T.C ((r + 1) * (n + 1))
  /-- The constants of the partial rounds: `d r` are those before the linear layer of round `r`. -/
  moved : ∃ acc d : ℕ → Fin (n + 1) → F,
    constantsAt K.C (4 * (n + 1)) ᵥ* of K.M = acc 0 ∧
      acc T.nRoundsP = constantsAt T.C ((4 + T.nRoundsP) * (n + 1)) ∧
      ∀ r < T.nRoundsP, d r ᵥ* of K.M = acc (r + 1) ∧
        acc r = onHead 0 (fun _ => 0) (d r) + constantsAt T.C ((4 + r) * (n + 1)) ∧
        K.C ((4 + 1) * (n + 1) + r) = d r 0
  /-- The sparse matrices: `B r` is the change of the state before partial round `r`. -/
  changed : ∃ B : ℕ → Matrix (Fin (n + 1)) (Fin (n + 1)) F,
    of K.P = of K.M * B 0 ∧ B T.nRoundsP = 1 ∧
      ∀ r < T.nRoundsP, FixesHead 0 (B r) ∧ of K.M * B (r + 1) = B r * sparse K.S r
  /-- The constants of the last full rounds. -/
  last : ∀ r < 3, constantsAt K.C ((4 + 1) * (n + 1) + T.nRoundsP + r * (n + 1)) ᵥ* of K.M =
    constantsAt T.C ((4 + T.nRoundsP + (r + 1)) * (n + 1))

/-! ## The optimized schedule computes the reference -/

/-- A full round of the reference. -/
lemma round_full {T : Tables F (n + 1)} {K : Constants F (n + 1)} (h : Optimizes T K) {r : ℕ}
    (hr : r < 4 ∨ 4 + T.nRoundsP ≤ r) (y : Fin (n + 1) → F) :
    round T r y = sboxes (y + constantsAt T.C (r * (n + 1))) ᵥ* of K.M := by
  funext i
  simp only [Reference.round, if_pos hr, lc_eq_sum, pow5_eq_sigma]
  apply Finset.sum_congr rfl
  intro j _
  change _ = sboxes (y + constantsAt T.C (r * (n + 1))) j * K.M j i
  rw [h.matrix, mul_comm]
  rfl

/-- A partial round of the reference. -/
lemma round_partial {T : Tables F (n + 1)} {K : Constants F (n + 1)} (h : Optimizes T K) {r : ℕ}
    (hr : r < T.nRoundsP) (y : Fin (n + 1) → F) :
    round T (4 + r) y = onHead 0 sigma (y + constantsAt T.C ((4 + r) * (n + 1))) ᵥ* of K.M := by
  have hr' : ¬(4 + r < 8 / 2 ∨ 8 / 2 + T.nRoundsP ≤ 4 + r) := by omega
  funext i
  simp only [Reference.round, if_neg hr', lc_eq_sum, pow5_eq_sigma]
  apply Finset.sum_congr rfl
  intro j _
  change _ = onHead 0 sigma (y + constantsAt T.C ((4 + r) * (n + 1))) j * K.M j i
  rw [h.matrix, mul_comm]
  by_cases hj : j = 0
  · subst hj
    rfl
  · rw [onHead_of_ne 0 _ _ hj, if_neg (Fin.val_ne_zero_iff.mpr hj)]
    rfl

/-- A full round of the optimized schedule. -/
theorem fullRound_eq (C : ℕ → F) (M : Fin (n + 1) → Fin (n + 1) → F) (off : ℕ)
    (x : Fin (n + 1) → F) :
    Ex.fullRound C M off x = (sboxes x + constantsAt C off) ᵥ* of M := by
  rw [Ex.fullRound, mix_eq_vecMul]
  congr 1
  funext i
  rw [ark, Pi.add_apply, constantsAt, sboxes, Nat.add_comm]

namespace Optimizes

variable {T : Tables F (n + 1)} {K : Constants F (n + 1)}

/-- The first half: the state has the constants of the next round already.

**Proof sketch.** Induction on the round. -/
lemma firstState_eq (h : Optimizes T K) (x : Fin (n + 1) → F) : ∀ r ≤ 3,
    Ex.firstState K x r = Reference.state T x r + constantsAt T.C (r * (n + 1)) := by
  intro r
  induction r with
  | zero =>
    intro _
    rw [Nat.zero_mul, ← h.start]
    funext i
    simp [Ex.firstState, ark, Reference.state, constantsAt]
  | succ r ih =>
    intro hr
    rw [Ex.firstState, fullRound_eq, ih (by omega), Matrix.add_vecMul, h.first r (by omega),
      Reference.state, round_full h (.inl (by omega))]

/-- The rounds of the reference between the halves. -/
lemma state_add (h : Optimizes T K) (x : Fin (n + 1) → F) : ∀ r ≤ T.nRoundsP,
    Reference.state T x (4 + r) = roundsWith 0 sigma
      (fun r => constantsAt T.C ((4 + r) * (n + 1))) (fun _ => of K.M)
      (Reference.state T x 4) r := by
  intro r
  induction r with
  | zero =>
    intro _
    rfl
  | succ r ih =>
    intro hr
    rw [← Nat.add_assoc, Reference.state, round_partial h (by omega), ih (by omega)]
    rfl

/-- The rounds of the optimized schedule between the halves. -/
lemma partialState_eq_rounds (x : Fin (n + 1) → F) (r : ℕ) :
    Ex.partialState K x r = rounds 0 (fun r y => sigma y + K.C ((4 + 1) * (n + 1) + r))
      (sparse K.S) (Ex.partialState K x 0) r := by
  induction r with
  | zero => rfl
  | succ r ih =>
    change mixS K.S r (Ex.partialInp K r (Ex.partialState K x r)) = _
    rw [mixS_eq_vecMul, ih]
    rfl

/-- **The partial rounds**: behind them the state has the constants of the next round already.

**Proof sketch.** Before them the state differs from that of the reference by the moved constants
and by a change of coordinates.  The rules of the library lead both through the rounds. -/
theorem partialState_eq (h : Optimizes T K) (x : Fin (n + 1) → F) :
    Ex.partialState K x T.nRoundsP = Reference.state T x (4 + T.nRoundsP) +
      constantsAt T.C ((4 + T.nRoundsP) * (n + 1)) := by
  obtain ⟨acc, d, hstart, hend, hmoved⟩ := h.moved
  obtain ⟨B, hP, hone, hchanged⟩ := h.changed
  have hfour : Ex.partialState K x 0 = (Reference.state T x 4 + acc 0) ᵥ* B 0 := by
    have hround : Reference.state T x 4 = round T 3 (Reference.state T x 3) := rfl
    rw [Ex.partialState, fullRound_eq, h.firstState_eq x 3 le_rfl, hP, ← Matrix.vecMul_vecMul,
      Matrix.add_vecMul, hstart, hround, round_full h (.inl (by omega))]
  have hconstants : rounds 0 (fun r y => sigma y + K.C ((4 + 1) * (n + 1) + r)) (sparse K.S)
      (Ex.partialState K x 0) T.nRoundsP =
      rounds 0 (fun r y => sigma y + d r 0) (sparse K.S) (Ex.partialState K x 0) T.nRoundsP := by
    have hcongr : ∀ r ≤ T.nRoundsP,
        rounds 0 (fun r y => sigma y + K.C ((4 + 1) * (n + 1) + r)) (sparse K.S)
          (Ex.partialState K x 0) r =
        rounds 0 (fun r y => sigma y + d r 0) (sparse K.S) (Ex.partialState K x 0) r := by
      intro r
      induction r with
      | zero =>
        intro _
        rfl
      | succ r ih =>
        intro hr
        rw [rounds, rounds, ih (by omega), (hmoved r hr).2.2]
    exact hcongr _ le_rfl
  have hchange := rounds_vecMul 0 (fun r y => sigma y + d r 0) (A := fun _ => of K.M)
    (fun r hr => (hchanged r hr).1) (fun r hr => (hchanged r hr).2)
    (Reference.state T x 4 + acc 0) T.nRoundsP le_rfl
  have hmove := roundsWith_add 0 sigma (A := fun _ => of K.M) (fun r hr => (hmoved r hr).1)
    (fun r hr => (hmoved r hr).2.1) (Reference.state T x 4) T.nRoundsP le_rfl
  rw [partialState_eq_rounds, hconstants, hfour, hchange, ← hmove, hone, Matrix.vecMul_one, hend,
    h.state_add x T.nRoundsP le_rfl]

/-- The second half. -/
lemma lastState_eq (h : Optimizes T K) (x : Fin (n + 1) → F) : ∀ r ≤ 3,
    Ex.lastState K x r = Reference.state T x (4 + T.nRoundsP + r) +
      constantsAt T.C ((4 + T.nRoundsP + r) * (n + 1)) := by
  intro r
  induction r with
  | zero =>
    intro _
    rw [Ex.lastState, h.nRoundsP_eq]
    exact h.partialState_eq x
  | succ r ih =>
    intro hr
    rw [Ex.lastState, fullRound_eq, ih (by omega), Matrix.add_vecMul, h.nRoundsP_eq,
      h.last r (by omega), ← Nat.add_assoc, Reference.state, round_full h (.inr (by omega))]

/-- **The optimized schedule computes the reference**, at every width, on every state. -/
theorem squeeze_eq (h : Optimizes T K) (x : Fin (n + 1) → F) (i : ℕ) :
    Ex.squeeze K x i = permutation T x (Fin.ofNat (n + 1) i) := by
  have hlast : mix K.M (sboxes (Ex.lastState K x 3)) = permutation T x := by
    have hround : permutation T x = round T (4 + T.nRoundsP + 3)
        (Reference.state T x (4 + T.nRoundsP + 3)) := by
      rw [permutation, show 8 + T.nRoundsP = 4 + T.nRoundsP + 3 + 1 by omega, Reference.state]
    rw [mix_eq_vecMul, hround, round_full h (.inr (by omega)), h.lastState_eq x 3 le_rfl]
  rw [← hlast]
  rfl

end Optimizes

end Poseidon
