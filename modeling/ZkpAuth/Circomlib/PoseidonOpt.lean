import Mathlib.Data.Fin.VecNotation
import ZkpAuth.Circomlib.PoseidonOptimize

/-!
# The JavaScript implementations of Poseidon

`poseidon` of `circomlibjs/src/poseidon_reference.js` and of `circomlibjs/src/poseidon_opt.js`: a
function of the inputs, an initial state and the number of outputs, which checks the number of
inputs.

## Main definitions

* `Poseidon.Reference.poseidon`, `Poseidon.Opt.poseidon` — the two functions.

## Main results

* `Poseidon.Opt.permutation_eq_squeeze` — the second runs the schedule of the circuit.
* `Poseidon.Opt.poseidon_eq_reference` — the two functions agree when the tables of the second come
  from the tool.
* `Poseidon.exists_hashConstraints_iff` — so does the circuit.
-/

set_option relaxedAutoImplicit false
set_option autoImplicit false

open Matrix PartialRounds

namespace Poseidon

variable {F : Type*}

/-- `N_ROUNDS_P`. -/
def N_ROUNDS_P : List ℕ := [56, 57, 56, 60, 60, 63, 64, 63, 60, 66, 60, 65, 70, 60, 64, 68]

/-- The value of `poseidon`: one element, or an array of them. -/
def output {n : ℕ} (nOut : ℕ) (state : Fin (n + 1) → F) : F ⊕ List F :=
  let nOut := if nOut = 0 then 1 else nOut
  if nOut = 1 then .inl (vecHead state) else .inr ((List.ofFn state).take nOut)

section Reference

variable [CommRing F]

/-- `poseidon` of the reference.  `none` is a failed assertion on the number of inputs. -/
def Reference.poseidon (T : ∀ n, Tables F (n + 1)) (inputs : List F) (initState : F) (nOut : ℕ) :
    Option (F ⊕ List F) :=
  if 0 < inputs.length ∧ inputs.length ≤ N_ROUNDS_P.length then
    some (output nOut (permutation (T inputs.length) (Fin.cons initState inputs.get)))
  else none

end Reference

/-! ## The optimized implementation -/

namespace Opt

section Rounds

variable [CommRing F] {n : ℕ}

/-- The loops of a full round: the fifth powers, the constants from `off` on, the matrix. -/
def fullRound (C : ℕ → F) (M : Fin (n + 1) → Fin (n + 1) → F) (off : ℕ) (state : Fin (n + 1) → F) :
    Fin (n + 1) → F :=
  let state : Fin (n + 1) → F := fun i => Reference.pow5 (state i)
  let state : Fin (n + 1) → F := fun i => state i + C (off + i)
  fun i => lc (fun j => M j i) state

/-- The body of the loop over the partial rounds. -/
def partialRound (K : Constants F (n + 1)) (r : ℕ) (state : Fin (n + 1) → F) : Fin (n + 1) → F :=
  let t := n + 1
  let state : Fin (n + 1) → F := fun i =>
    if (i : ℕ) = 0 then Reference.pow5 (state i) + K.C ((4 + 1) * t + r) else state i
  let s0 := lc (fun j => K.S ((t * 2 - 1) * r + j)) state
  fun k => if (k : ℕ) = 0 then s0 else state k + vecHead state * K.S ((t * 2 - 1) * r + t + k - 1)

/-- The state before the output. -/
def permutation (K : Constants F (n + 1)) (x : Fin (n + 1) → F) : Fin (n + 1) → F :=
  let t := n + 1
  let state : Fin (n + 1) → F := fun i => x i + K.C i
  let state := (List.range 3).foldl (fun state r => fullRound K.C K.M ((r + 1) * t) state) state
  let state := fullRound K.C K.P ((3 + 1) * t) state
  let state := (List.range K.nRoundsP).foldl (fun state r => partialRound K r state) state
  let state := (List.range 3).foldl
    (fun state r => fullRound K.C K.M ((4 + 1) * t + K.nRoundsP + r * t) state) state
  let state : Fin (n + 1) → F := fun i => Reference.pow5 (state i)
  fun i => lc (fun j => K.M j i) state

/-- `poseidon` of the optimized implementation. -/
def poseidon (K : ∀ n, Constants F (n + 1)) (inputs : List F) (initState : F) (nOut : ℕ) :
    Option (F ⊕ List F) :=
  if 0 < inputs.length ∧ inputs.length ≤ N_ROUNDS_P.length then
    some (output nOut (permutation (K inputs.length) (Fin.cons initState inputs.get)))
  else none

/-! ## The schedule of the circuit -/

/-- A loop with a counter runs through the states of a recursion. -/
lemma foldl_range_eq {σ : Type*} {body : ℕ → σ → σ} {state : ℕ → σ}
    (hstep : ∀ r, state (r + 1) = body r (state r)) (m : ℕ) :
    (List.range m).foldl (fun s r => body r s) (state 0) = state m := by
  induction m with
  | zero => rfl
  | succ m ih =>
    rw [List.range_succ, List.foldl_append, ih, hstep]
    rfl

/-- A full round is that of the circuit. -/
theorem fullRound_eq (C : ℕ → F) (M : Fin (n + 1) → Fin (n + 1) → F) (off : ℕ)
    (state : Fin (n + 1) → F) : fullRound C M off state = Ex.fullRound C M off state := by
  have hark : (fun i : Fin (n + 1) => Reference.pow5 (state i) + C (off + i)) =
      ark C off fun j => sigma (state j) := by
    funext i
    rw [pow5_eq_sigma, ark, Nat.add_comm]
  unfold fullRound
  simp only [hark]
  rfl

/-- A partial round is that of the circuit. -/
theorem partialRound_eq (K : Constants F (n + 1)) (r : ℕ) (state : Fin (n + 1) → F) :
    partialRound K r state = mixS K.S r (Ex.partialInp K r state) := by
  have hstate : (fun i : Fin (n + 1) => if (i : ℕ) = 0 then
      Reference.pow5 (state i) + K.C ((4 + 1) * (n + 1) + r) else state i) =
      Ex.partialInp K r state := by
    funext i
    by_cases hi : i = 0
    · simp [Ex.partialInp, hi, pow5_eq_sigma]
    · simp [Ex.partialInp, hi]
  unfold partialRound
  simp only [hstate]
  funext k
  simp only [mixS, Fin.val_eq_zero_iff]
  split_ifs with hk
  · rfl
  · simp only [Ex.partialInp, if_neg hk]
    rfl

/-- **The JavaScript code runs the schedule of the circuit.**

**Proof sketch.** Each loop of the code is the recursion of one phase of the schedule. -/
theorem permutation_eq_squeeze (K : Constants F (n + 1)) (x : Fin (n + 1) → F) (i : Fin (n + 1)) :
    permutation K x i = Ex.squeeze K x i := by
  have hstart : (fun i : Fin (n + 1) => x i + K.C i) = Ex.firstState K x 0 := by
    funext i
    simp [Ex.firstState, ark]
  have hfirst : (List.range 3).foldl
      (fun state r => fullRound K.C K.M ((r + 1) * (n + 1)) state) (Ex.firstState K x 0) =
      Ex.firstState K x 3 :=
    foldl_range_eq (fun r => (fullRound_eq _ _ _ _).symm) 3
  have hmiddle : fullRound K.C K.P ((3 + 1) * (n + 1)) (Ex.firstState K x 3) =
      Ex.partialState K x 0 := fullRound_eq _ _ _ _
  have hpartial : (List.range K.nRoundsP).foldl (fun state r => partialRound K r state)
      (Ex.partialState K x 0) = Ex.partialState K x K.nRoundsP :=
    foldl_range_eq (fun r => (partialRound_eq K r _).symm) K.nRoundsP
  have hstep : ∀ r, Ex.lastState K x (r + 1) =
      fullRound K.C K.M ((4 + 1) * (n + 1) + K.nRoundsP + r * (n + 1)) (Ex.lastState K x r) :=
    fun r => (fullRound_eq _ _ _ _).symm
  have hlast : (List.range 3).foldl
      (fun state r => fullRound K.C K.M ((4 + 1) * (n + 1) + K.nRoundsP + r * (n + 1)) state)
      (Ex.partialState K x K.nRoundsP) = Ex.lastState K x 3 := foldl_range_eq hstep 3
  unfold permutation
  simp only [hstart, hfirst, hmiddle, hpartial, hlast, pow5_eq_sigma]
  rw [Ex.squeeze, mixLast, Fin.ofNat_val_eq_self]

end Rounds

/-! ## Agreement -/

/-- The two functions agree on tables that are related for every number of inputs. -/
lemma poseidon_eq_of_optimizes [CommRing F] {T : ∀ n, Reference.Tables F (n + 1)}
    {K : ∀ n, Constants F (n + 1)} {inputs : List F}
    (h : 0 < inputs.length → inputs.length ≤ N_ROUNDS_P.length →
      Optimizes (T inputs.length) (K inputs.length)) (initState : F) (nOut : ℕ) :
    poseidon K inputs initState nOut = Reference.poseidon T inputs initState nOut := by
  unfold poseidon Reference.poseidon
  split_ifs with hlen
  · have hstate : permutation (K inputs.length) (Fin.cons initState inputs.get) =
        Reference.permutation (T inputs.length) (Fin.cons initState inputs.get) := by
      funext i
      rw [permutation_eq_squeeze, (h hlen.1 hlen.2).squeeze_eq, Fin.ofNat_val_eq_self]
    rw [hstate]
  · rfl

/-- Tables with triangular matrices and round constants that all differ. -/
def triangularTables (n : ℕ) : Reference.Tables ℚ (n + 1) where
  nRoundsP := 2
  C i := (i : ℚ)
  M i j := if j ≤ i then 1 else 0

/-- The triangular matrices have inverses. -/
lemma isUnit_triangular (n : ℕ) :
    IsUnit (of fun i j : Fin n => if j ≤ i then (1 : ℚ) else 0) := by
  have hlower : (of fun i j : Fin n => if j ≤ i then (1 : ℚ) else 0).BlockTriangular
      OrderDual.toDual := fun i j hij => if_neg (not_le.mpr hij)
  have hdet : det (of fun i j : Fin n => if j ≤ i then (1 : ℚ) else 0) = 1 := by
    rw [det_of_isLowerTriangular _ hlower]
    simp
  rw [isUnit_iff_isUnit_det, hdet]
  exact isUnit_one

/-- The lower right block of a triangular matrix is triangular. -/
lemma hat_triangular (n : ℕ) : hat (of (triangularTables n).M) =
    of fun i j : Fin n => if j ≤ i then (1 : ℚ) else 0 := by
  ext i j
  simp [hat, triangularTables]

/-- **The optimized implementation agrees with the reference** on every list of inputs, for tables
that the tool has computed: also where the number of inputs fails the assertions. -/
theorem poseidon_eq_reference [Field F] [DecidableEq F] {T : ∀ n, Reference.Tables F (n + 1)}
    {K : ∀ n, OptimizedTables F (n + 1)} (hn : ∀ n, 0 < (T n).nRoundsP)
    (htool : ∀ n, 0 < n → n ≤ N_ROUNDS_P.length → optimizeConstants (T n) = some (K n))
    (inputs : List F) (initState : F) (nOut : ℕ) :
    poseidon (fun n => (K n).constants (T n).nRoundsP (hn n)) inputs initState nOut =
      Reference.poseidon T inputs initState nOut :=
  poseidon_eq_of_optimizes
    (fun hpos hle => optimizes_of_optimizeConstants (hn _) (htool _ hpos hle)) initState nOut

/-- The tool returns tables for the triangular matrices, and the two functions agree on a list of
two inputs. -/
theorem poseidon_triangularTables :
    ∃ K : ∀ n, OptimizedTables ℚ (n + 1),
      poseidon (fun n => (K n).constants 2 Nat.two_pos) [2, 3] 0 1 =
        Reference.poseidon triangularTables [2, 3] 0 1 := by
  have hsome : ∀ n, ∃ K, optimizeConstants (triangularTables n) = some K := fun n => by
    refine Option.ne_none_iff_exists'.mp fun hnone => ?_
    rw [optimizeConstants_eq_none, convertConstants_eq_none_iff,
      calculatePS_eq_none_iff Nat.two_pos, hat_triangular] at hnone
    exact hnone.elim (fun h => h (isUnit_triangular (n + 1))) fun h => h (isUnit_triangular n)
  choose K hK using hsome
  exact ⟨K, poseidon_eq_reference (fun _ => Nat.two_pos) (fun n _ _ => hK n) [2, 3] 0 1⟩

end Opt

/-- The hash of the circuit is what the reference implementation returns. -/
theorem reference_eq_hash [CommRing F] {T : ∀ n, Reference.Tables F (n + 1)} {inputs : List F}
    {K : Constants F (inputs.length + 1)} (hpos : 0 < inputs.length)
    (hle : inputs.length ≤ N_ROUNDS_P.length) (h : Optimizes (T inputs.length) K) :
    Reference.poseidon T inputs 0 1 = some (.inl (hash K inputs.get)) := by
  have hhash : hash K inputs.get = Reference.permutation (T inputs.length)
      (Fin.cons 0 inputs.get) 0 := h.squeeze_eq _ 0
  rw [hhash]
  unfold Reference.poseidon
  rw [if_pos ⟨hpos, hle⟩]
  rfl

/-- **The circuit computes the reference.**  The outputs that satisfying assignments of
`Poseidon(nInputs)` have on given inputs are what `poseidon` returns. -/
theorem exists_hashConstraints_iff [CommRing F] {T : ∀ n, Reference.Tables F (n + 1)}
    {inputs : List F} {K : Constants F (inputs.length + 1)} (hpos : 0 < inputs.length)
    (hle : inputs.length ≤ N_ROUNDS_P.length) (h : Optimizes (T inputs.length) K) (y : F) :
    (∃ s, HashConstraints K s ∧ s.inputs = inputs.get ∧ s.out = y) ↔
      Reference.poseidon T inputs 0 1 = some (.inl y) := by
  rw [reference_eq_hash hpos hle h, Option.some.injEq, Sum.inl.injEq]
  constructor
  · rintro ⟨s, hs, hinputs, rfl⟩
    have hout : s.out = hash K s.inputs := (implements K).output_eq s hs
    rw [hout, hinputs]
  · rintro rfl
    have hconstraints := (implements K).constraints_compute inputs.get (Set.mem_univ _)
    have hout := (implements K).output_eq _ hconstraints
    exact ⟨compute K inputs.get, hconstraints, rfl, hout⟩

end Poseidon
