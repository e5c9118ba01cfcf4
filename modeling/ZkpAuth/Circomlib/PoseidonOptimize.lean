import ZkpAuth.Circomlib.MatrixInverse
import ZkpAuth.Circomlib.PoseidonReference

/-!
# The optimization of the Poseidon constants

`circomlibjs/tools/poseidon_optimize_constants.js` computes the tables of the optimized schedule
from those of the reference: it moves the constants of the partial rounds through the matrix, and
factors the matrix of each partial round into one that leaves the first element alone and a sparse
one.

## Main definitions

* `Poseidon.convertConstants`, `Poseidon.sparseFactorize`, `Poseidon.calculatePS` — the functions of
  the tool.
* `Poseidon.optimizeConstants` — its run at one width.

## Main results

* `Poseidon.optimizes_of_optimizeConstants` — the tables that the tool returns are related to those
  of the reference as the optimized schedule needs them.
* `Poseidon.optimizeConstants_eq_none_iff` — the tool throws exactly if the matrix or its lower
  right block is singular.
-/

set_option relaxedAutoImplicit false
set_option autoImplicit false

open Matrix PartialRounds

namespace Poseidon

open Reference

variable {F : Type*} [Field F]

/-- The tables that the tool writes for one width. -/
structure OptimizedTables (F : Type*) (t : ℕ) where
  C : List F
  M : Fin t → Fin t → F
  P : Fin t → Fin t → F
  S : List F

/-! ## The tool -/

section Tool

variable {t : ℕ}

/-- `vec_mul_matrix`. -/
def vecMulMatrix (v : Fin t → F) (A : Fin t → Fin t → F) : Fin t → F :=
  fun j => lc v fun i => A i j

/-- `matrix_mul_vec`. -/
def matrixMulVec (A : Fin t → Fin t → F) (v : Fin t → F) : Fin t → F := fun i => lc (A i) v

/-- `matrix_mul`. -/
def matrixMul (A B : Fin t → Fin t → F) : Fin t → Fin t → F := fun i j => lc (A i) fun k => B k j

/-- `matrix_traspose`. -/
def matrixTraspose (A : Fin t → Fin t → F) : Fin t → Fin t → F := fun i j => A j i

/-- `C.slice(r*t, r*t+t)`. -/
def slice (t : ℕ) (C : ℕ → F) (r : ℕ) : Fin t → F := fun k => C (r * t + k)

variable {n : ℕ}

/-- `partialConst` and `acc` after `i` passes of the loop over the partial rounds, which goes from
the last one to the first. -/
def movePartial (nRoundsP : ℕ) (C : ℕ → F) (Minv : Fin (n + 1) → Fin (n + 1) → F) :
    ℕ → List F × (Fin (n + 1) → F)
  | 0 => ([], slice (n + 1) C (4 + nRoundsP))
  | i + 1 =>
    let (partialConst, acc) := movePartial nRoundsP C Minv i
    let accp := vecMulMatrix acc Minv
    (partialConst ++ [vecHead accp],
      fun k => (if (k : ℕ) = 0 then 0 else accp k) + slice (n + 1) C (4 + nRoundsP - 1 - i) k)

/-- `convertConstants`. -/
def convertConstants [DecidableEq F] (nRoundsP : ℕ) (C : ℕ → F)
    (M : Fin (n + 1) → Fin (n + 1) → F) : Option (List F) := do
  let t := n + 1
  let Minv ← matrixInverse M
  let crt := fun r => List.ofFn (vecMulMatrix (slice t C (r + 1)) Minv)
  let (partialConst, acc) := movePartial nRoundsP C Minv nRoundsP
  some (List.ofFn (slice t C 0) ++ (List.range 3).flatMap crt ++
    List.ofFn (vecMulMatrix acc Minv) ++ partialConst.reverse ++
    (List.range 3).flatMap fun r => crt (4 + nRoundsP + r))

/-- `sparseFactorize`: the matrix `mp`, and the entries of the sparse one. -/
def sparseFactorize [DecidableEq F] (m : Fin (n + 1) → Fin (n + 1) → F) :
    Option ((Fin (n + 1) → Fin (n + 1) → F) × List F) := do
  let m_hat : Fin n → Fin n → F := fun i j => m i.succ j.succ
  let mp : Fin (n + 1) → Fin (n + 1) → F := fun i j =>
    if 0 < (i : ℕ) ∧ 0 < (j : ℕ) then m i j
    else if (i : ℕ) = 0 ∧ (j : ℕ) = 0 then 1 else 0
  let w : Fin n → F := fun i => vecHead (m i.succ)
  let m_hat_inv ← matrixInverse m_hat
  let wp := matrixMulVec m_hat_inv w
  some (mp, [vecHead (vecHead m)] ++ List.ofFn wp ++ List.ofFn (vecTail (vecHead m)))

/-- The list `sparse` and the matrix `m` after `i` passes of the loop of `calculatePS`. -/
def factorizePartial [DecidableEq F] (M : Fin (n + 1) → Fin (n + 1) → F) :
    ℕ → Option (List (List F) × (Fin (n + 1) → Fin (n + 1) → F))
  | 0 => some ([], M)
  | i + 1 => do
    let (sparse, m) ← factorizePartial M i
    let (mp, mpp) ← sparseFactorize m
    some (sparse ++ [mpp], matrixMul M mp)

/-- `calculatePS`. -/
def calculatePS [DecidableEq F] (nRoundsP : ℕ) (M : Fin (n + 1) → Fin (n + 1) → F) :
    Option ((Fin (n + 1) → Fin (n + 1) → F) × List F) := do
  let (sparse, m) ← factorizePartial M nRoundsP
  some (m, sparse.reverse.flatten)

/-- The body of the loop of `run` over the widths. -/
def optimizeConstants [DecidableEq F] (T : Tables F (n + 1)) :
    Option (OptimizedTables F (n + 1)) := do
  let oM := matrixTraspose T.M
  let oC ← convertConstants T.nRoundsP T.C oM
  let (oP, oS) ← calculatePS T.nRoundsP oM
  some { C := oC, M := oM, P := oP, S := oS }

end Tool

/-- The tables as the optimized schedule reads them. -/
def OptimizedTables.constants {t : ℕ} (K : OptimizedTables F t) (nRoundsP : ℕ)
    (h : 0 < nRoundsP) : Constants F t where
  nRoundsP := nRoundsP
  nRoundsP_pos := h
  C i := K.C.getD i 0
  S i := K.S.getD i 0
  M := K.M
  P := K.P

/-! ## Sums and blocks -/

section Products

variable {t : ℕ}

/-- `vec_mul_matrix` is the product of a row with a matrix. -/
lemma vecMulMatrix_eq (v : Fin t → F) (A : Fin t → Fin t → F) :
    vecMulMatrix v A = v ᵥ* of A := by
  funext j
  rw [vecMulMatrix, lc_eq_sum]
  rfl

/-- `matrix_mul_vec` is the product of a matrix with a column. -/
lemma matrixMulVec_eq (A : Fin t → Fin t → F) (v : Fin t → F) :
    matrixMulVec A v = of A *ᵥ v := by
  funext i
  rw [matrixMulVec, lc_eq_sum]
  rfl

/-- `matrix_mul` is the product of two matrices. -/
lemma of_matrixMul (A B : Fin t → Fin t → F) : of (matrixMul A B) = of A * of B := by
  ext i j
  rw [mul_apply, of_apply, matrixMul, lc_eq_sum]
  rfl

end Products

/-- An entry of a list of blocks of one length. -/
lemma getElem?_flatten {α : Type*} {L : List (List α)} {len : ℕ}
    (hlen : ∀ l ∈ L, l.length = len) {r k : ℕ} (hr : r < L.length) (hk : k < len) :
    L.flatten[len * r + k]? = L[r][k]? := by
  induction L generalizing r with
  | nil => exact absurd hr (Nat.not_lt_zero r)
  | cons l L ih =>
    have hl : l.length = len := hlen l (by simp)
    rw [List.flatten_cons]
    cases r with
    | zero =>
      rw [Nat.mul_zero, Nat.zero_add, List.getElem?_append_left (by omega)]
      rfl
    | succ r =>
      have hindex : len * (r + 1) + k = l.length + (len * r + k) := by
        rw [hl]
        ring
      rw [hindex, List.getElem?_append_right (by omega), Nat.add_sub_cancel_left,
        ih (fun l hl => hlen l (by simp [hl])) (by simpa using hr)]
      rfl

/-- The blocks that a loop pushes. -/
lemma getElem?_flatMap_ofFn {α : Type*} {t : ℕ} (f : ℕ → Fin t → α) {m r : ℕ} (hr : r < m)
    (k : Fin t) : ((List.range m).flatMap fun r => List.ofFn (f r))[t * r + k]? = some (f r k) := by
  rw [List.flatMap_def, getElem?_flatten (by simp) (by simpa using hr) k.isLt]
  simp

/-- The length of a list of rows of one length. -/
lemma length_flatMap_ofFn {α : Type*} {t : ℕ} (f : ℕ → Fin t → α) (m : ℕ) :
    ((List.range m).flatMap fun r => List.ofFn (f r)).length = t * m := by
  simp [mul_comm]

/-! ## The moved constants -/

section Constants

variable {n nRoundsP : ℕ} {C : ℕ → F} {M Minv : Fin (n + 1) → Fin (n + 1) → F}

/-- Each partial round leaves one constant. -/
lemma length_movePartial (i : ℕ) : (movePartial nRoundsP C Minv i).1.length = i := by
  induction i with
  | zero => rfl
  | succ i ih => simp [movePartial, ih]

/-- The constants that stay. -/
lemma getElem?_movePartial {i j : ℕ} (hj : j < i) :
    (movePartial nRoundsP C Minv i).1[j]? =
      some (((movePartial nRoundsP C Minv j).2 ᵥ* of Minv) 0) := by
  induction i with
  | zero => exact absurd hj (Nat.not_lt_zero j)
  | succ i ih =>
    have hlen : (movePartial nRoundsP C Minv i).1.length = i := length_movePartial i
    simp only [movePartial]
    by_cases hji : j < i
    · rw [List.getElem?_append_left (by omega), ih hji]
    · have hj : j = i := by omega
      subst hj
      rw [List.getElem?_append_right (by omega), hlen, Nat.sub_self, vecMulMatrix_eq]
      rfl

/-- The constants that move on. -/
lemma movePartial_succ (i : ℕ) :
    (movePartial nRoundsP C Minv (i + 1)).2 =
      onHead 0 (fun _ => 0) ((movePartial nRoundsP C Minv i).2 ᵥ* of Minv) +
        slice (n + 1) C (4 + nRoundsP - 1 - i) := by
  funext k
  rw [← vecMulMatrix_eq]
  simp [movePartial, onHead]

/-- The entries of the list that `convertConstants` returns, over the inverse of the matrix. -/
structure Converted (nRoundsP : ℕ) (C : ℕ → F) (Minv : Fin (n + 1) → Fin (n + 1) → F)
    (res : List F) : Prop where
  /-- The constants before the first round. -/
  start : ∀ k : Fin (n + 1), res[(k : ℕ)]? = some (slice (n + 1) C 0 k)
  /-- Those of the first full rounds, moved before the matrix. -/
  first : ∀ r < 3, ∀ k : Fin (n + 1),
    res[(r + 1) * (n + 1) + k]? = some ((slice (n + 1) C (r + 1) ᵥ* of Minv) k)
  /-- What the partial rounds leave for the full round before them. -/
  middle : ∀ k : Fin (n + 1), res[4 * (n + 1) + k]? =
    some (((movePartial nRoundsP C Minv nRoundsP).2 ᵥ* of Minv) k)
  /-- One constant for each partial round. -/
  moved : ∀ r < nRoundsP, res[(4 + 1) * (n + 1) + r]? =
    some (((movePartial nRoundsP C Minv (nRoundsP - 1 - r)).2 ᵥ* of Minv) 0)
  /-- Those of the last full rounds, moved before the matrix. -/
  last : ∀ r < 3, ∀ k : Fin (n + 1), res[(4 + 1) * (n + 1) + nRoundsP + r * (n + 1) + k]? =
    some ((slice (n + 1) C (4 + nRoundsP + r + 1) ᵥ* of Minv) k)

/-- The offset of the second of two appended lists. -/
lemma getElem?_append_of_length {α : Type*} {l : List α} {len : ℕ} (h : l.length = len)
    (l' : List α) (k : ℕ) : (l ++ l')[len + k]? = l'[k]? := by
  rw [List.getElem?_append_right (by omega), h, Nat.add_sub_cancel_left]

/-- The constants are five parts, one after the other.

**Proof sketch.** The index of each constant is split along the lengths of the parts before it. -/
lemma converted_append (nRoundsP : ℕ) (C : ℕ → F) (Minv : Fin (n + 1) → Fin (n + 1) → F) :
    let crt := fun r => List.ofFn (vecMulMatrix (slice (n + 1) C (r + 1)) Minv)
    Converted nRoundsP C Minv (List.ofFn (slice (n + 1) C 0) ++ (List.range 3).flatMap crt ++
      List.ofFn (vecMulMatrix (movePartial nRoundsP C Minv nRoundsP).2 Minv) ++
      (movePartial nRoundsP C Minv nRoundsP).1.reverse ++
      (List.range 3).flatMap fun r => crt (4 + nRoundsP + r)) := by
  intro crt
  have hfirst : ((List.range 3).flatMap crt).length = (n + 1) * 3 := length_flatMap_ofFn _ 3
  have hmoved : (movePartial nRoundsP C Minv nRoundsP).1.reverse.length = nRoundsP := by
    rw [List.length_reverse, length_movePartial]
  simp only [List.append_assoc]
  constructor
  · intro k
    rw [List.getElem?_append_left (List.length_ofFn ▸ k.isLt), List.getElem?_ofFn, dif_pos k.isLt]
  · intro r hr k
    have hindex : (r + 1) * (n + 1) + k = (n + 1) + ((n + 1) * r + k) := by ring
    have hlt : (n + 1) * r + k < (n + 1) * 3 := by
      have hmul := Nat.mul_le_mul_left (n + 1) (show r + 1 ≤ 3 by omega)
      have hk := k.isLt
      rw [Nat.mul_succ] at hmul
      omega
    rw [hindex, getElem?_append_of_length (List.length_ofFn ..),
      List.getElem?_append_left (hfirst ▸ hlt), getElem?_flatMap_ofFn _ hr, vecMulMatrix_eq]
  · intro k
    have hindex : 4 * (n + 1) + (k : ℕ) = (n + 1) + ((n + 1) * 3 + k) := by ring
    rw [hindex, getElem?_append_of_length (List.length_ofFn ..),
      getElem?_append_of_length hfirst, List.getElem?_append_left (List.length_ofFn ▸ k.isLt),
      List.getElem?_ofFn, dif_pos k.isLt, vecMulMatrix_eq]
  · intro r hr
    have hindex : (4 + 1) * (n + 1) + r = (n + 1) + ((n + 1) * 3 + ((n + 1) + r)) := by ring
    rw [hindex, getElem?_append_of_length (List.length_ofFn ..),
      getElem?_append_of_length hfirst, getElem?_append_of_length (List.length_ofFn ..),
      List.getElem?_append_left (by omega), List.getElem?_reverse (by rwa [length_movePartial]),
      length_movePartial, getElem?_movePartial (by omega)]
  · intro r hr k
    have hindex : (4 + 1) * (n + 1) + nRoundsP + r * (n + 1) + k =
        (n + 1) + ((n + 1) * 3 + ((n + 1) + (nRoundsP + ((n + 1) * r + k)))) := by ring
    rw [hindex, getElem?_append_of_length (List.length_ofFn ..),
      getElem?_append_of_length hfirst, getElem?_append_of_length (List.length_ofFn ..),
      getElem?_append_of_length hmoved, getElem?_flatMap_ofFn _ hr, vecMulMatrix_eq]

/-- **`convertConstants`** returns a list exactly if the matrix has an inverse. -/
theorem convertConstants_eq_some [DecidableEq F] {res : List F}
    (h : convertConstants nRoundsP C M = some res) :
    ∃ Minv, matrixInverse M = some Minv ∧ Converted nRoundsP C Minv res := by
  obtain ⟨Minv, hMinv, hres⟩ := Option.bind_eq_some_iff.mp h
  obtain rfl := Option.some.inj hres
  exact ⟨Minv, hMinv, converted_append nRoundsP C Minv⟩

end Constants

/-! ## The factorization -/

section Factorization

variable {n : ℕ}

/-- The block of `m_hat`. -/
def hat (m : Matrix (Fin (n + 1)) (Fin (n + 1)) F) : Matrix (Fin n) (Fin n) F :=
  m.submatrix Fin.succ Fin.succ

/-- The matrix with this block that leaves the first element to itself. -/
def corner (X : Matrix (Fin n) (Fin n) F) : Matrix (Fin (n + 1)) (Fin (n + 1)) F :=
  of (Fin.cases (Fin.cases 1 fun _ => 0) fun i => Fin.cases 0 (X i))

/-- The corner of the matrix is one. -/
@[simp]
lemma corner_zero_zero (X : Matrix (Fin n) (Fin n) F) : corner X 0 0 = 1 := rfl

/-- The rest of its first row is zero. -/
@[simp]
lemma corner_zero_succ (X : Matrix (Fin n) (Fin n) F) (j : Fin n) : corner X 0 j.succ = 0 := rfl

/-- The rest of its first column is zero. -/
@[simp]
lemma corner_succ_zero (X : Matrix (Fin n) (Fin n) F) (i : Fin n) : corner X i.succ 0 = 0 := rfl

/-- Its block. -/
@[simp]
lemma corner_succ_succ (X : Matrix (Fin n) (Fin n) F) (i j : Fin n) :
    corner X i.succ j.succ = X i j := rfl

/-- The identity has the identity as its block. -/
lemma corner_one : corner (1 : Matrix (Fin n) (Fin n) F) = 1 := by
  ext i j
  cases i using Fin.cases with
  | zero => cases j using Fin.cases <;> simp [one_apply, (Fin.succ_ne_zero _).symm]
  | succ i => cases j using Fin.cases <;> simp [one_apply, Fin.succ_ne_zero]

/-- The matrix leaves the first element to itself. -/
lemma fixesHead_corner (X : Matrix (Fin n) (Fin n) F) : FixesHead 0 (corner X) := by
  constructor
  · intro j
    cases j using Fin.cases <;> simp [Fin.succ_ne_zero]
  · intro i
    cases i using Fin.cases <;> simp [Fin.succ_ne_zero]

/-- The block of a product with such a matrix. -/
lemma hat_mul_corner (A : Matrix (Fin (n + 1)) (Fin (n + 1)) F) (X : Matrix (Fin n) (Fin n) F) :
    hat (A * corner X) = hat A * X := by
  ext i j
  simp [hat, mul_apply, Fin.sum_univ_succ]

/-- A matrix with the first row of `m` factors it if its first column is the right one. -/
lemma corner_hat_mul {m A : Matrix (Fin (n + 1)) (Fin (n + 1)) F} (hhead : A 0 0 = m 0 0)
    (hrow : ∀ j : Fin n, A 0 j.succ = m 0 j.succ)
    (hcol : hat m *ᵥ (fun i => A i.succ 0) = fun i => m i.succ 0)
    (hblock : ∀ i j : Fin n, A i.succ j.succ = (1 : Matrix (Fin n) (Fin n) F) i j) :
    corner (hat m) * A = m := by
  ext i j
  rw [mul_apply, Fin.sum_univ_succ]
  cases i using Fin.cases with
  | zero =>
    cases j using Fin.cases with
    | zero => simp [hhead]
    | succ j => simp [hrow]
  | succ i =>
    cases j using Fin.cases with
    | zero => simpa [mulVec, dotProduct] using congrFun hcol i
    | succ j => simp [hblock, one_apply, hat]

/-! ### One step -/

/-- A sparse matrix depends on its block of entries. -/
lemma sparse_eq_of_block {S S' : ℕ → F} {r : ℕ}
    (h : ∀ k < (n + 1) * 2 - 1, S (((n + 1) * 2 - 1) * r + k) = S' k) :
    (sparse S r : Matrix (Fin (n + 1)) (Fin (n + 1)) F) = sparse S' 0 := by
  ext i j
  simp only [sparse, of_apply]
  split_ifs with hj hi hij
  · rw [h i (by omega), Nat.mul_zero, Nat.zero_add]
  · have hindex : ((n + 1) * 2 - 1) * r + (n + 1) + (j : ℕ) - 1 =
        ((n + 1) * 2 - 1) * r + ((n + 1) + j - 1) := by omega
    rw [hindex, h _ (by omega), Nat.mul_zero, Nat.zero_add]
  · rfl
  · rfl

/-- The matrix of a list of entries. -/
lemma sparse_list (a : F) (wp row : Fin n → F) :
    let A : Matrix (Fin (n + 1)) (Fin (n + 1)) F :=
      sparse (fun i => ([a] ++ List.ofFn wp ++ List.ofFn row).getD i 0) 0
    A 0 0 = a ∧ (∀ j : Fin n, A 0 j.succ = row j) ∧ (∀ i : Fin n, A i.succ 0 = wp i) ∧
      ∀ i j : Fin n, A i.succ j.succ = (1 : Matrix (Fin n) (Fin n) F) i j := by
  refine ⟨?_, ?_, ?_, ?_⟩
  · simp [sparse]
  · intro j
    have hlen : ([a] ++ List.ofFn wp).length = n + 1 := by simp
    have hindex : (n + 1) + ((j : ℕ) + 1) - 1 = (n + 1) + j := by omega
    simp only [sparse, of_apply, Fin.val_succ, Nat.succ_ne_zero, if_false, Fin.val_zero, if_true,
      Nat.mul_zero, Nat.zero_add, hindex, List.getD_eq_getElem?_getD]
    rw [getElem?_append_of_length hlen, List.getElem?_ofFn, dif_pos j.isLt]
    rfl
  · intro i
    simp only [sparse, of_apply, Fin.val_succ, Fin.val_zero, if_true, Nat.mul_zero, Nat.zero_add,
      List.getD_eq_getElem?_getD]
    rw [List.getElem?_append_left (by simp), List.singleton_append, List.getElem?_cons_succ,
      List.getElem?_ofFn, dif_pos i.isLt]
    rfl
  · intro i j
    simp [sparse, one_apply]

/-- The invariant of the loop: the matrix is `M`, with the changes of coordinates so far before it,
and the lists are those of the sparse factors. -/
structure Factored (M : Fin (n + 1) → Fin (n + 1) → F) (i : ℕ) (sparse : List (List F))
    (m : Fin (n + 1) → Fin (n + 1) → F) : Prop where
  /-- The current matrix. -/
  matrix : of m = of M * corner (hat (of M) ^ i)
  /-- One list for each factor. -/
  length : sparse.length = i
  /-- The entries of a sparse matrix. -/
  block : ∀ l ∈ sparse, l.length = (n + 1) * 2 - 1
  /-- A factor turns one change of coordinates into the next. -/
  factor : ∀ j, ∀ hj : j < sparse.length, of M * corner (hat (of M) ^ j) =
    corner (hat (of M) ^ (j + 1)) * Poseidon.sparse (fun k => sparse[j].getD k 0) 0

/-- The sparse matrices are pushed from the last one on.

**Proof sketch.** The blocks have one length, and round `r` finds the one that was pushed `r`
places from the end. -/
lemma sparse_flatten {M : Fin (n + 1) → Fin (n + 1) → F} {nRoundsP : ℕ}
    {l : List (List F)} {m : Fin (n + 1) → Fin (n + 1) → F} (h : Factored M nRoundsP l m) {r : ℕ}
    (hr : r < nRoundsP) :
    of M * corner (hat (of M) ^ (nRoundsP - (r + 1))) = corner (hat (of M) ^ (nRoundsP - r)) *
      sparse (fun i => l.reverse.flatten.getD i 0) r := by
  have hlen := h.length
  have hj : nRoundsP - (r + 1) < l.length := by omega
  have hfactor := h.factor (nRoundsP - (r + 1)) hj
  rw [show nRoundsP - (r + 1) + 1 = nRoundsP - r by omega] at hfactor
  have hblock : ∀ b ∈ l.reverse, b.length = (n + 1) * 2 - 1 := fun b hb =>
    h.block b (List.mem_reverse.mp hb)
  have hr' : r < l.reverse.length := by
    rw [List.length_reverse]
    omega
  have hindex : l.length - 1 - r = nRoundsP - (r + 1) := by omega
  rw [hfactor]
  congr 1
  symm
  apply sparse_eq_of_block
  intro k hk
  simp only [List.getD_eq_getElem?_getD]
  rw [getElem?_flatten hblock hr' hk, List.getElem_reverse]
  simp only [hindex]

variable [DecidableEq F]

/-- **`sparseFactorize`** factors the matrix.

**Proof sketch.** Only the first column below the first row needs an argument: there the block
meets the product of its inverse with that column. -/
theorem sparseFactorize_eq_some {m mp : Fin (n + 1) → Fin (n + 1) → F} {L : List F}
    (h : sparseFactorize m = some (mp, L)) :
    L.length = (n + 1) * 2 - 1 ∧ of mp = corner (hat (of m)) ∧
      of m = corner (hat (of m)) * sparse (fun i => L.getD i 0) 0 := by
  obtain ⟨m_hat_inv, hinv, hres⟩ := Option.bind_eq_some_iff.mp h
  have hres := Option.some.inj hres
  rw [Prod.mk.injEq] at hres
  obtain ⟨rfl, rfl⟩ := hres
  have hmul : hat (of m) * of m_hat_inv = 1 :=
    mul_eq_one_comm.mp (matrixInverse_eq_some_iff.mp hinv)
  refine ⟨?_, ?_, ?_⟩
  · simp
    omega
  · ext i j
    cases i using Fin.cases <;> cases j using Fin.cases <;> simp [hat]
  · obtain ⟨hhead, hrow, hcol, hblock⟩ := sparse_list (vecHead (vecHead m))
      (matrixMulVec m_hat_inv fun i => vecHead (m i.succ)) (vecTail (vecHead m))
    symm
    apply corner_hat_mul hhead hrow _ hblock
    rw [funext hcol, matrixMulVec_eq, mulVec_mulVec]
    change (hat (of m) * of m_hat_inv) *ᵥ _ = _
    rw [hmul, one_mulVec]
    rfl

/-- `sparseFactorize` throws exactly if the lower right block is singular. -/
lemma sparseFactorize_ne_none {m : Fin (n + 1) → Fin (n + 1) → F} :
    sparseFactorize m ≠ none ↔ IsUnit (hat (of m)) := by
  have hinverse : matrixInverse (fun i j : Fin n => m i.succ j.succ) = none ↔
      ¬IsUnit (hat (of m)) := matrixInverse_eq_none_iff
  rw [not_iff_comm, ← hinverse, sparseFactorize]
  cases matrixInverse fun i j : Fin n => m i.succ j.succ <;> simp

/-! ### All rounds -/

variable {M : Fin (n + 1) → Fin (n + 1) → F}

/-- **The loop keeps the invariant.**

**Proof sketch.** Induction on the number of factors.  The block of the current matrix is a power
of the block of `M`, and each step takes one more factor out of it. -/
theorem factorizePartial_eq_some {i : ℕ} {sparse : List (List F)}
    {m : Fin (n + 1) → Fin (n + 1) → F} (h : factorizePartial M i = some (sparse, m)) :
    Factored M i sparse m := by
  induction i generalizing sparse m with
  | zero =>
    have hres := Option.some.inj h
    rw [Prod.mk.injEq] at hres
    obtain ⟨rfl, rfl⟩ := hres
    constructor
    · rw [pow_zero, corner_one, Matrix.mul_one]
    · rfl
    · intro l hl
      cases hl
    · intro j hj
      cases hj
  | succ i ih =>
    obtain ⟨⟨sparse₀, m₀⟩, h₀, hstep⟩ := Option.bind_eq_some_iff.mp h
    obtain ⟨⟨mp, mpp⟩, hfactorize, hres⟩ := Option.bind_eq_some_iff.mp hstep
    have hres := Option.some.inj hres
    rw [Prod.mk.injEq] at hres
    obtain ⟨rfl, rfl⟩ := hres
    have hfactored := ih h₀
    obtain ⟨hlen, hmp, hmul⟩ := sparseFactorize_eq_some hfactorize
    have hhat : hat (of m₀) = hat (of M) ^ (i + 1) := by
      rw [hfactored.matrix, hat_mul_corner, pow_succ']
    constructor
    · rw [of_matrixMul, hmp, hhat]
    · rw [List.length_append, hfactored.length]
      rfl
    · intro l hl
      rcases List.mem_append.mp hl with hl | hl
      · exact hfactored.block l hl
      · obtain rfl := List.mem_singleton.mp hl
        exact hlen
    · intro j hj
      by_cases hji : j < sparse₀.length
      · rw [List.getElem_append_left hji]
        exact hfactored.factor j hji
      · have hlength := hfactored.length
        have hj' : j = i := by
          rw [List.length_append, List.length_singleton] at hj
          omega
        subst hj'
        rw [List.getElem_append_right (by omega), ← hfactored.matrix, ← hhat]
        simpa [hlength] using hmul

/-- The loop throws exactly if the block is singular, and it runs at all.

**Proof sketch.** Induction on the number of factors.  A power of the block is invertible exactly
if the block is. -/
lemma factorizePartial_ne_none {i : ℕ} :
    factorizePartial M i ≠ none ↔ (0 < i → IsUnit (hat (of M))) := by
  induction i with
  | zero => simp [factorizePartial]
  | succ i ih =>
    constructor
    · intro h _
      obtain ⟨⟨sparse, m⟩, h₀, hstep⟩ := Option.bind_eq_some_iff.mp
        (Option.ne_none_iff_exists'.mp h).choose_spec
      obtain ⟨res, hfactorize, _⟩ := Option.bind_eq_some_iff.mp hstep
      have hunit := sparseFactorize_ne_none.mp (Option.ne_none_iff_exists'.mpr ⟨res, hfactorize⟩)
      rw [(factorizePartial_eq_some h₀).matrix, hat_mul_corner, ← pow_succ'] at hunit
      exact isUnit_pow_succ_iff.mp hunit
    · intro h
      have hunit := h (Nat.succ_pos i)
      obtain ⟨⟨sparse, m⟩, h₀⟩ := Option.ne_none_iff_exists'.mp (ih.mpr fun _ => hunit)
      have hm : sparseFactorize m ≠ none := by
        rw [sparseFactorize_ne_none, (factorizePartial_eq_some h₀).matrix, hat_mul_corner,
          ← pow_succ']
        exact hunit.pow _
      obtain ⟨⟨mp, mpp⟩, hfactorize⟩ := Option.ne_none_iff_exists'.mp hm
      simp [factorizePartial, h₀, hfactorize]

end Factorization

/-! ## The tool -/

section Tool

variable [DecidableEq F] {n : ℕ} {T : Tables F (n + 1)}

omit [DecidableEq F] in
/-- The lists of the two functions are those of the optimized schedule.

**Proof sketch.** The constants before the linear layer of partial round `r` are those of the loop
`r + 1` rounds from the end, and the change of coordinates before it is the power of the block for
the rounds that are left. -/
lemma optimizes_of_converted {Minv : Fin (n + 1) → Fin (n + 1) → F} {oC : List F}
    {l : List (List F)} {m : Fin (n + 1) → Fin (n + 1) → F} (hn : 0 < T.nRoundsP)
    (hmul : of Minv * of (matrixTraspose T.M) = 1) (hC : Converted T.nRoundsP T.C Minv oC)
    (hS : Factored (matrixTraspose T.M) T.nRoundsP l m) :
    Optimizes T (OptimizedTables.constants ⟨oC, matrixTraspose T.M, m, l.reverse.flatten⟩
      T.nRoundsP hn) := by
  have hback : ∀ v : Fin (n + 1) → F, v ᵥ* of Minv ᵥ* of (matrixTraspose T.M) = v := by
    intro v
    rw [vecMul_vecMul, hmul, vecMul_one]
  have hrow : ∀ (off : ℕ) (v : Fin (n + 1) → F),
      (∀ k : Fin (n + 1), oC[off + (k : ℕ)]? = some (v k)) →
        constantsAt (fun i => oC.getD i 0) off = v := by
    intro off v hv
    funext k
    rw [constantsAt, List.getD_eq_getElem?_getD, hv]
    rfl
  let acc : ℕ → Fin (n + 1) → F := fun r => (movePartial T.nRoundsP T.C Minv (T.nRoundsP - r)).2
  let B : ℕ → Matrix (Fin (n + 1)) (Fin (n + 1)) F := fun r =>
    corner (hat (of (matrixTraspose T.M)) ^ (T.nRoundsP - r))
  constructor
  case nRoundsP_eq => rfl
  case matrix =>
    intro i j
    rfl
  case start =>
    apply hrow 0
    intro k
    rw [Nat.zero_add, hC.start]
    simp [slice, constantsAt]
  case first =>
    intro r hr
    change constantsAt (fun i => oC.getD i 0) _ ᵥ* of (matrixTraspose T.M) = _
    rw [hrow _ _ (hC.first r hr), hback]
    rfl
  case moved =>
    refine ⟨acc, fun r => acc (r + 1) ᵥ* of Minv, ?_, ?_, ?_⟩
    · change constantsAt (fun i => oC.getD i 0) _ ᵥ* of (matrixTraspose T.M) = _
      rw [hrow _ _ hC.middle, hback]
      rfl
    · change (movePartial T.nRoundsP T.C Minv (T.nRoundsP - T.nRoundsP)).2 = _
      rw [Nat.sub_self]
      rfl
    · intro r hr
      refine ⟨hback _, ?_, ?_⟩
      · change (movePartial T.nRoundsP T.C Minv (T.nRoundsP - r)).2 = _
        rw [show T.nRoundsP - r = T.nRoundsP - (r + 1) + 1 by omega, movePartial_succ,
          show 4 + T.nRoundsP - 1 - (T.nRoundsP - (r + 1)) = 4 + r by omega]
        rfl
      · change oC.getD _ 0 = (acc (r + 1) ᵥ* of Minv) 0
        rw [List.getD_eq_getElem?_getD, hC.moved r hr, Nat.sub_sub, Nat.add_comm 1 r]
        rfl
  case changed =>
    refine ⟨B, hS.matrix, ?_, ?_⟩
    · change corner (_ ^ (T.nRoundsP - T.nRoundsP)) = 1
      rw [Nat.sub_self, pow_zero, corner_one]
    · intro r hr
      exact ⟨fixesHead_corner _, sparse_flatten hS hr⟩
  case last =>
    intro r hr
    change constantsAt (fun i => oC.getD i 0) _ ᵥ* of (matrixTraspose T.M) = _
    rw [hrow _ _ (hC.last r hr), hback]
    rfl

/-- **The tool returns the tables that the optimized schedule needs.** -/
theorem optimizes_of_optimizeConstants {K : OptimizedTables F (n + 1)} (hn : 0 < T.nRoundsP)
    (h : optimizeConstants T = some K) : Optimizes T (K.constants T.nRoundsP hn) := by
  obtain ⟨oC, hC, hrest⟩ := Option.bind_eq_some_iff.mp h
  obtain ⟨⟨oP, oS⟩, hPS, hK⟩ := Option.bind_eq_some_iff.mp hrest
  obtain rfl := Option.some.inj hK
  obtain ⟨⟨l, m⟩, hloop, hres⟩ := Option.bind_eq_some_iff.mp hPS
  have hres := Option.some.inj hres
  rw [Prod.mk.injEq] at hres
  obtain ⟨rfl, rfl⟩ := hres
  obtain ⟨Minv, hMinv, hconverted⟩ := convertConstants_eq_some hC
  exact optimizes_of_converted hn (matrixInverse_eq_some_iff.mp hMinv) hconverted
    (factorizePartial_eq_some hloop)

/-- `convertConstants` throws exactly if the matrix is singular. -/
theorem convertConstants_eq_none_iff :
    convertConstants T.nRoundsP T.C (matrixTraspose T.M) = none ↔ ¬IsUnit (of T.M) := by
  have hM : matrixInverse (matrixTraspose T.M) = none ↔ ¬IsUnit (of T.M) := by
    rw [matrixInverse_eq_none_iff]
    exact not_congr (isUnit_transpose (of T.M))
  rw [← hM, convertConstants]
  cases matrixInverse (matrixTraspose T.M) <;> simp

/-- `calculatePS` throws exactly if the lower right block is singular. -/
theorem calculatePS_eq_none_iff (hn : 0 < T.nRoundsP) :
    calculatePS T.nRoundsP (matrixTraspose T.M) = none ↔ ¬IsUnit (hat (of T.M)) := by
  have hhat : factorizePartial (matrixTraspose T.M) T.nRoundsP = none ↔
      ¬IsUnit (hat (of T.M)) := by
    rw [← not_iff_not, ← ne_eq, factorizePartial_ne_none, not_not]
    have htranspose : IsUnit (hat (of (matrixTraspose T.M))) ↔ IsUnit (hat (of T.M)) :=
      isUnit_transpose (hat (of T.M))
    rw [htranspose]
    exact ⟨fun h => h hn, fun h _ => h⟩
  rw [← hhat, calculatePS]
  cases factorizePartial (matrixTraspose T.M) T.nRoundsP <;> simp

/-- The tool throws exactly if one of its functions does. -/
theorem optimizeConstants_eq_none :
    optimizeConstants T = none ↔
      convertConstants T.nRoundsP T.C (matrixTraspose T.M) = none ∨
        calculatePS T.nRoundsP (matrixTraspose T.M) = none := by
  rw [optimizeConstants]
  cases convertConstants T.nRoundsP T.C (matrixTraspose T.M) <;>
    cases calculatePS T.nRoundsP (matrixTraspose T.M) <;> simp

/-- **The tool throws exactly if the matrix or its lower right block is singular.** -/
theorem optimizeConstants_eq_none_iff (hn : 0 < T.nRoundsP) :
    optimizeConstants T = none ↔ ¬IsUnit (of T.M) ∨ ¬IsUnit (hat (of T.M)) := by
  rw [optimizeConstants_eq_none, convertConstants_eq_none_iff, calculatePS_eq_none_iff hn]

/-- The tool throws on the matrix that exchanges two elements: it has an inverse, but its lower
right block is zero. -/
theorem optimizeConstants_swap :
    IsUnit (of ![![0, 1], ![1, 0]] : Matrix (Fin 2) (Fin 2) ℚ) ∧
      optimizeConstants (⟨1, fun i => (i : ℚ), ![![0, 1], ![1, 0]]⟩ : Tables ℚ (1 + 1)) = none := by
  have hblock : hat (of ![![0, 1], ![1, 0]] : Matrix (Fin (1 + 1)) (Fin (1 + 1)) ℚ) = 0 := by
    ext i j
    fin_cases i
    fin_cases j
    rfl
  refine ⟨?_, (optimizeConstants_eq_none_iff Nat.one_pos).mpr (.inr ?_)⟩
  · refine .of_mul_eq_one (of ![![0, 1], ![1, 0]]) ?_
    ext i j
    fin_cases i <;> fin_cases j <;> simp [mul_apply, Fin.sum_univ_two]
  · change ¬IsUnit (hat (of ![![0, 1], ![1, 0]] : Matrix (Fin (1 + 1)) (Fin (1 + 1)) ℚ))
    rw [hblock]
    exact not_isUnit_zero

end Tool

end Poseidon
