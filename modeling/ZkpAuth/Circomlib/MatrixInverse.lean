import Mathlib.LinearAlgebra.Matrix.NonsingularInverse
import Mathlib.LinearAlgebra.Matrix.Block
import Mathlib.LinearAlgebra.Matrix.ToLin
import Mathlib.Algebra.BigOperators.Fin

/-!
# The inverse of a matrix

`matrix_inverse` of `circomlibjs/tools/poseidon_optimize_constants.js`: Gaussian elimination with a
search for the pivot in each column, on the matrix next to the identity.  A column without a pivot
throws an error.

## Main definitions

* `Poseidon.Augmented` — the two halves of the array `B`.
* `Poseidon.pivotStep`, `Poseidon.triangularize`, `Poseidon.backSubstitute`,
  `Poseidon.matrixInverse` — the algorithm.
* `Poseidon.Eliminated` — the invariant of the elimination.

## Main results

* `Poseidon.matrixInverse_eq_some_iff` — the algorithm returns the inverse.
* `Poseidon.matrixInverse_eq_none_iff` — it throws exactly on a matrix without an inverse.
* `Poseidon.matrixInverse_eq_ite` — both in one equation.
-/

set_option relaxedAutoImplicit false
set_option autoImplicit false

open Matrix

namespace Poseidon

variable {F : Type*} [Field F] {m : ℕ}

/-- The array `B`: the columns before `m`, and those from `m` on. -/
@[ext]
structure Augmented (F : Type*) (m : ℕ) where
  left : Fin m → Fin m → F
  right : Fin m → Fin m → F

/-! ## The algorithm -/

/-- The first row from `h` on without a zero in column `h`. -/
def findPivot [DecidableEq F] (B : Augmented F m) (h : Fin m) : Option (Fin m) :=
  (List.finRange m).find? fun i => h ≤ i ∧ B.left i h ≠ 0

/-- `[B[h], B[i_max]] = [B[i_max], B[h]]`. -/
def swapRows (B : Augmented F m) (h i_max : Fin m) : Augmented F m where
  left i := B.left (Equiv.swap h i_max i)
  right i := B.right (Equiv.swap h i_max i)

/-- The loop over the rows below the pivot.  Each writes a zero below the pivot, and the columns
behind that of the pivot. -/
def eliminateBelow (B : Augmented F m) (h : Fin m) (inv_pivot : F) : Augmented F m where
  left := fun i j =>
    if h < i then
      if j = h then 0
      else if h < j then B.left i j - B.left h j * (B.left i h * inv_pivot)
      else B.left i j
    else B.left i j
  right := fun i j =>
    if h < i then B.right i j - B.right h j * (B.left i h * inv_pivot) else B.right i j

/-- The row of the pivot is divided by the pivot. -/
def normalizeRow (B : Augmented F m) (h : Fin m) (inv_pivot : F) : Augmented F m where
  left := fun i j =>
    if i = h then
      if j = h then 1
      else if h < j then B.left i j * inv_pivot
      else B.left i j
    else B.left i j
  right := fun i j => if i = h then B.right i j * inv_pivot else B.right i j

/-- The body of the loop over the columns.  `none` is the error "Matrix is not inveritible". -/
def pivotStep [DecidableEq F] (B : Augmented F m) (h : Fin m) : Option (Augmented F m) :=
  (findPivot B h).map fun i_max =>
    let B := swapRows B h i_max
    let inv_pivot := (B.left h h)⁻¹
    normalizeRow (eliminateBelow B h inv_pivot) h inv_pivot

/-- The array after `h` columns. -/
def triangularize [DecidableEq F] (A : Fin m → Fin m → F) : ℕ → Option (Augmented F m)
  | 0 => some ⟨A, fun i j => if i = j then 1 else 0⟩
  | h + 1 => do
    let B ← triangularize A h
    if hm : h < m then pivotStep B ⟨h, hm⟩ else some B

/-- The body of the inner loop of the back substitution. -/
def subtractRow (B : Augmented F m) (i i2 : Fin m) : Augmented F m where
  left := of fun a j => if a = i ∧ j = i2 then 0 else B.left a j
  right := of fun a j =>
    if a = i then B.right i j - B.left i i2 * B.right i2 j else B.right a j

/-- The inner loop of the back substitution, over the rows below `i`. -/
def substituteRow (i : Fin m) (B : Augmented F m) : Augmented F m :=
  ((List.finRange m).filter (i < ·)).foldl (fun B i2 => subtractRow B i i2) B

/-- The back substitution, from the last row on, below which there is none. -/
def backSubstitute (B : Augmented F m) : Augmented F m :=
  (List.finRange m).reverse.foldl (fun B i => substituteRow i B) B

/-- `matrix_inverse`. -/
def matrixInverse [DecidableEq F] (A : Fin m → Fin m → F) : Option (Fin m → Fin m → F) := do
  let B ← triangularize A m
  some (backSubstitute B).right

/-! ## Elimination -/

/-- The array after `h` columns: its right half transforms `A` into the left half, and is
invertible; the first `h` columns of the left half are those of a triangular matrix. -/
structure Eliminated (A : Fin m → Fin m → F) (h : ℕ) (B : Augmented F m) : Prop where
  /-- The right half transforms `A` into the left half. -/
  row : ∀ i, B.right i ᵥ* of A = B.left i
  /-- The right half is invertible. -/
  kernel : ∀ v, (∀ i, B.right i ⬝ᵥ v = 0) → v = 0
  /-- Below the diagonal the first columns are zero. -/
  below : ∀ i j : Fin m, (j : ℕ) < h → j < i → B.left i j = 0
  /-- On the diagonal they are one. -/
  diagonal : ∀ j : Fin m, (j : ℕ) < h → B.left j j = 1

/-- The pivot that is found is not zero, and not above the row. -/
lemma findPivot_eq_some [DecidableEq F] {B : Augmented F m} {h i : Fin m}
    (hi : findPivot B h = some i) :
    h ≤ i ∧ B.left i h ≠ 0 := by
  simpa using List.find?_some hi

/-- If none is found, the column is zero from the row on. -/
lemma findPivot_eq_none [DecidableEq F] {B : Augmented F m} {h : Fin m}
    (hnone : findPivot B h = none)
    {i : Fin m} (hi : h ≤ i) : B.left i h = 0 := by
  have hall := List.find?_eq_none.mp hnone i (List.mem_finRange i)
  simpa [hi] using hall

namespace Eliminated

variable {A : Fin m → Fin m → F} {B : Augmented F m} {h : Fin m}

/-- Before the elimination, the right half is the identity. -/
theorem start (A : Fin m → Fin m → F) :
    Eliminated A 0 ⟨A, fun i j => if i = j then 1 else 0⟩ := by
  constructor
  · intro i
    funext j
    simp [vecMul, dotProduct]
  · intro v hv
    funext i
    simpa [dotProduct] using hv i
  · intro i j hj
    omega
  · intro j hj
    omega

/-- A swap with a row further down. -/
lemma swapRows (he : Eliminated A h B) {i_max : Fin m} (hi : h ≤ i_max) :
    Eliminated A h (swapRows B h i_max) := by
  constructor
  · intro i
    exact he.row _
  · intro v hv
    apply he.kernel
    intro i
    have hvi := hv (Equiv.swap h i_max i)
    simpa [Poseidon.swapRows] using hvi
  · intro i j hj hji
    apply he.below _ j hj
    have hswap : (j : ℕ) < (Equiv.swap h i_max i : Fin m) := by
      rw [Equiv.swap_apply_def]
      split_ifs <;> omega
    exact hswap
  · intro j hj
    have hne : j ≠ h ∧ j ≠ i_max := by
      constructor <;> rintro rfl <;> omega
    simpa [Poseidon.swapRows, Equiv.swap_apply_of_ne_of_ne hne.1 hne.2] using he.diagonal j hj

/-- The step at a pivot subtracts multiples of its row from the rows below, and divides it.

**Proof sketch.** Left of the pivot the row of the pivot is zero, so the entries that the code
does not touch are right too. -/
lemma left_eq (he : Eliminated A h B) (hpivot : B.left h h ≠ 0) (i : Fin m) :
    (normalizeRow (eliminateBelow B h (B.left h h)⁻¹) h (B.left h h)⁻¹).left i =
      if h < i then B.left i - (B.left i h * (B.left h h)⁻¹) • B.left h
      else if i = h then (B.left h h)⁻¹ • B.left h
      else B.left i := by
  have hzero : ∀ j, j ≠ h → ¬h < j → B.left h j = 0 := by
    intro j hj hlt
    exact he.below h j (by omega) (by omega)
  funext j
  by_cases hi : h < i
  · have hne : i ≠ h := by omega
    simp only [normalizeRow, eliminateBelow, if_pos hi, if_neg hne, Pi.sub_apply, Pi.smul_apply,
      smul_eq_mul]
    split_ifs with hj hlt
    · rw [hj, mul_assoc, inv_mul_cancel₀ hpivot, mul_one, sub_self]
    · rw [mul_comm]
    · rw [hzero j hj hlt, mul_zero, sub_zero]
  · by_cases hih : i = h
    · simp only [normalizeRow, eliminateBelow, if_neg hi, if_pos hih, Pi.smul_apply, smul_eq_mul]
      split_ifs with hj hlt
      · rw [hj, inv_mul_cancel₀ hpivot]
      · rw [hih, mul_comm]
      · rw [hih, hzero j hj hlt, mul_zero]
    · simp only [normalizeRow, eliminateBelow, if_neg hi, if_neg hih]

/-- The right half after the elimination below a pivot and the normalization of its row. -/
lemma right_eq (B : Augmented F m) (h i : Fin m) (c : F) :
    (normalizeRow (eliminateBelow B h c) h c).right i =
      if h < i then B.right i - (B.left i h * c) • B.right h
      else if i = h then c • B.right h
      else B.right i := by
  funext j
  by_cases hi : h < i
  · have hne : i ≠ h := by omega
    simp only [normalizeRow, eliminateBelow, if_pos hi, if_neg hne, Pi.sub_apply, Pi.smul_apply,
      smul_eq_mul]
    rw [mul_comm (B.right h j)]
  · by_cases hih : i = h
    · simp only [normalizeRow, eliminateBelow, if_neg hi, if_pos hih, Pi.smul_apply, smul_eq_mul]
      rw [hih, mul_comm]
    · simp only [normalizeRow, eliminateBelow, if_neg hi, if_neg hih]

/-- **The step at a pivot** keeps the invariant, with one more column.

**Proof sketch.** The step multiplies both halves by the same elementary matrix.  Each part of the
invariant is then read off row by row. -/
theorem pivot (he : Eliminated A h B) (hpivot : B.left h h ≠ 0) :
    Eliminated A (h + 1) (normalizeRow (eliminateBelow B h (B.left h h)⁻¹) h (B.left h h)⁻¹) := by
  constructor
  · intro i
    rw [he.left_eq hpivot, right_eq]
    split_ifs
    · rw [sub_vecMul, smul_vecMul, he.row, he.row]
    · rw [smul_vecMul, he.row]
    · exact he.row i
  · intro v hv
    have hrow : ∀ i, (if h < i then B.right i - (B.left i h * (B.left h h)⁻¹) • B.right h
        else if i = h then (B.left h h)⁻¹ • B.right h else B.right i) ⬝ᵥ v = 0 := by
      intro i
      rw [← right_eq]
      exact hv i
    have hh : B.right h ⬝ᵥ v = 0 := by
      have hself := hrow h
      rw [if_neg (lt_irrefl h), if_pos rfl, smul_dotProduct, smul_eq_mul] at hself
      exact (mul_eq_zero.mp hself).resolve_left (inv_ne_zero hpivot)
    apply he.kernel
    intro i
    have hi := hrow i
    split_ifs at hi with hlt heq
    · rwa [sub_dotProduct, smul_dotProduct, hh, smul_zero, sub_zero] at hi
    · rwa [heq]
    · exact hi
  · intro i j hj hji
    rw [he.left_eq hpivot]
    by_cases hjh : j = h
    · subst hjh
      rw [if_pos hji, Pi.sub_apply, Pi.smul_apply, smul_eq_mul, mul_assoc,
        inv_mul_cancel₀ hpivot, mul_one, sub_self]
    · have hlt : (j : ℕ) < h := by omega
      have hh : B.left h j = 0 := he.below h j hlt (by omega)
      split_ifs
      · rw [Pi.sub_apply, Pi.smul_apply, hh, smul_zero, sub_zero]
        exact he.below i j hlt hji
      · rw [Pi.smul_apply, hh, smul_zero]
      · exact he.below i j hlt hji
  · intro j hj
    rw [he.left_eq hpivot, if_neg (by omega)]
    split_ifs with hjh
    · rw [hjh, Pi.smul_apply, smul_eq_mul, inv_mul_cancel₀ hpivot]
    · exact he.diagonal j (by omega)

variable [DecidableEq F]

/-- One step of the elimination. -/
theorem pivotStep (he : Eliminated A h B) {B' : Augmented F m}
    (hstep : Poseidon.pivotStep B h = some B') : Eliminated A (h + 1) B' := by
  obtain ⟨i_max, hfind, rfl⟩ := Option.map_eq_some_iff.mp hstep
  obtain ⟨hle, hne⟩ := findPivot_eq_some hfind
  apply (he.swapRows hle).pivot
  simpa [Poseidon.swapRows] using hne

/-- The invariant holds after each column.

**Proof sketch.** Induction on the number of columns. -/
theorem triangularize (A : Fin m → Fin m → F) (h : ℕ) {B : Augmented F m}
    (hB : Poseidon.triangularize A h = some B) (hm : h ≤ m) : Eliminated A h B := by
  induction h generalizing B with
  | zero =>
    obtain rfl := Option.some.inj hB
    exact start A
  | succ h ih =>
    obtain ⟨B₀, hB₀, hstep⟩ := Option.bind_eq_some_iff.mp hB
    have hlt : h < m := hm
    rw [dif_pos hlt] at hstep
    exact (ih hB₀ (by omega)).pivotStep (h := ⟨h, hlt⟩) hstep

end Eliminated

/-- Without a pivot the matrix is singular.

**Proof sketch.** A left inverse `Z` of the left half has zeros in row `h` up to column `h`, since
the columns before are triangular.  The column without a pivot has zeros from there on. -/
lemma Eliminated.not_left_inverse {A : Fin m → Fin m → F} {B : Augmented F m} {h : Fin m}
    (he : Eliminated A h B) (hnone : ∀ i, h ≤ i → B.left i h = 0)
    (Z : Matrix (Fin m) (Fin m) F) (hZ : Z * of B.left = 1) : False := by
  have hentry : ∀ j, ∑ k, Z h k * B.left k j = if h = j then 1 else 0 := by
    intro j
    have hj := congrFun (congrFun hZ h) j
    rwa [mul_apply, one_apply] at hj
  have hzero : ∀ n : ℕ, ∀ i : Fin m, (i : ℕ) = n → i < h → Z h i = 0 := by
    intro n
    induction n using Nat.strong_induction_on with
    | _ n ih =>
      intro i hin hih
      have hi := hentry i
      rw [if_neg hih.ne', Finset.sum_eq_single i] at hi
      · rwa [he.diagonal i hih, mul_one] at hi
      · intro k _ hki
        by_cases hlt : k < i
        · rw [ih k (by omega) k rfl (hlt.trans hih), zero_mul]
        · rw [he.below k i hih (by omega), mul_zero]
      · intro hmem
        exact absurd (Finset.mem_univ i) hmem
  have hh := hentry h
  rw [if_pos rfl, Finset.sum_eq_zero] at hh
  · exact zero_ne_one hh
  · intro k _
    by_cases hlt : k < h
    · rw [hzero k k rfl hlt, zero_mul]
    · rw [hnone k (by omega), mul_zero]

/-! ## Back substitution -/

section BackSubstitution

variable {L R : Fin m → Fin m → F}

/-- The inner loop over some of the rows below `i`.

**Proof sketch.** Induction on the rows.  None of them is row `i`, so the factors are those of the
start. -/
lemma foldl_subtractRow (i : Fin m) {l : List (Fin m)} (hl : ∀ k ∈ l, i < k) (hnodup : l.Nodup)
    (B : Augmented F m) :
    let B' := l.foldl (fun B i2 => subtractRow B i i2) B
    (∀ a ≠ i, B'.left a = B.left a ∧ B'.right a = B.right a) ∧
      B'.right i = B.right i - (l.map fun k => B.left i k • B.right k).sum := by
  induction l generalizing B with
  | nil => simp
  | cons k l ih =>
    have hik : i < k := hl k (by simp)
    obtain ⟨hk, hnodup⟩ := List.nodup_cons.mp hnodup
    obtain ⟨hother, hrow⟩ := ih (fun a ha => hl a (by simp [ha])) hnodup (subtractRow B i k)
    refine ⟨?_, ?_⟩
    · intro a ha
      obtain ⟨hleft, hright⟩ := hother a ha
      refine ⟨hleft.trans ?_, hright.trans ?_⟩
      · funext j
        simp [subtractRow, ha]
      · funext j
        simp [subtractRow, ha]
    · have hsame : l.map (fun a => (subtractRow B i k).left i a • (subtractRow B i k).right a) =
          l.map fun a => B.left i a • B.right a := by
        apply List.map_congr_left
        intro a ha
        have hak : a ≠ k := by
          rintro rfl
          exact hk ha
        have hai : a ≠ i := (hl a (by simp [ha])).ne'
        funext j
        simp [subtractRow, hak, hai]
      have hfirst : (subtractRow B i k).right i = B.right i - B.left i k • B.right k := by
        funext j
        simp [subtractRow]
      rw [List.foldl_cons, hrow, hsame, hfirst, List.map_cons, List.sum_cons, sub_sub]

/-- The inner loop subtracts the rows below `i` with the coefficients of the left half. -/
lemma substituteRow_spec (i : Fin m) (B : Augmented F m) :
    (∀ a ≠ i, (substituteRow i B).left a = B.left a ∧ (substituteRow i B).right a = B.right a) ∧
      (substituteRow i B).right i =
        B.right i - ∑ k with i < k, B.left i k • B.right k := by
  have hnodup : ((List.finRange m).filter (i < ·)).Nodup := (List.nodup_finRange m).filter _
  have hspec := foldl_subtractRow i (l := (List.finRange m).filter (i < ·))
    (fun k hk => by simpa using hk) hnodup B
  refine ⟨hspec.1, ?_⟩
  rw [substituteRow, hspec.2, ← List.sum_toFinset _ hnodup]
  simp

/-- The rows of `l` solve the triangular system, and the others are as before. -/
structure Solved (L R : Fin m → Fin m → F) (l : List (Fin m)) (B : Augmented F m) : Prop where
  /-- The other rows are as before. -/
  other : ∀ a ∉ l, B.left a = L a ∧ B.right a = R a
  /-- A row of `l` solves its equation. -/
  row : ∀ a ∈ l, ∑ k, L a k • B.right k = R a

/-- **The back substitution solves the triangular system.**

**Proof sketch.** Induction on the rows from the last one on. -/
theorem solved_foldr (hbelow : ∀ i j : Fin m, j < i → L i j = 0) (hdiag : ∀ i, L i i = 1)
    {l : List (Fin m)} (hsorted : l.Pairwise (· < ·)) (hclosed : ∀ a ∈ l, ∀ k, a < k → k ∈ l) :
    Solved L R l (l.foldr substituteRow ⟨L, R⟩) := by
  induction l with
  | nil => exact ⟨fun _ _ => ⟨rfl, rfl⟩, by simp⟩
  | cons i l ih =>
    obtain ⟨hi, hsorted⟩ := List.pairwise_cons.mp hsorted
    have hil : i ∉ l := fun hmem => lt_irrefl i (hi i hmem)
    have hmem : ∀ k, i < k → k ∈ l := by
      intro k hk
      have hcons := hclosed i (by simp) k hk
      rcases List.mem_cons.mp hcons with rfl | hk'
      · exact absurd hk (lt_irrefl _)
      · exact hk'
    have hsolved := ih hsorted fun a ha k hk => hmem k ((hi a ha).trans hk)
    obtain ⟨hother, hrow⟩ := substituteRow_spec i (l.foldr substituteRow ⟨L, R⟩)
    rw [List.foldr_cons]
    constructor
    · intro a ha
      rw [List.mem_cons, not_or] at ha
      obtain ⟨hleft, hright⟩ := hsolved.other a ha.2
      exact ⟨(hother a ha.1).1.trans hleft, (hother a ha.1).2.trans hright⟩
    · intro a ha
      -- The sum over a row, at the new right half.
      have hsplit : ∀ a, (∀ k, k < i → L a k = 0) →
          ∑ k, L a k • (substituteRow i (l.foldr substituteRow ⟨L, R⟩)).right k =
            L a i • (substituteRow i (l.foldr substituteRow ⟨L, R⟩)).right i +
              ∑ k with i < k, L a k • (l.foldr substituteRow ⟨L, R⟩).right k := by
        intro a hzero
        rw [← Finset.add_sum_erase _ _ (Finset.mem_univ i)]
        congr 1
        rw [Finset.sum_filter]
        have herase : ∀ k ∈ Finset.univ.erase i,
            L a k • (substituteRow i (l.foldr substituteRow ⟨L, R⟩)).right k =
              if i < k then L a k • (l.foldr substituteRow ⟨L, R⟩).right k else 0 := by
          intro k hk
          have hki := Finset.ne_of_mem_erase hk
          rw [(hother k hki).2]
          split_ifs with hlt
          · rfl
          · rw [hzero k (by omega), zero_smul]
        rw [Finset.sum_congr rfl herase, ← Finset.add_sum_erase _ _ (Finset.mem_univ i),
          if_neg (lt_irrefl i), zero_add]
      rcases List.mem_cons.mp ha with rfl | hal
      · obtain ⟨hleft, hright⟩ := hsolved.other a hil
        rw [hsplit a fun k hk => hbelow a k hk, hrow, hdiag, one_smul, hleft, hright]
        exact sub_add_cancel _ _
      · have hia := hi a hal
        have hzero : ∀ k, k < i → L a k = 0 := fun k hk => hbelow a k (hk.trans hia)
        have hold := hsolved.row a hal
        rw [← hold, hsplit a hzero, hbelow a i hia, zero_smul, zero_add, Finset.sum_filter]
        apply Finset.sum_congr rfl
        intro k _
        split_ifs with hlt
        · rfl
        · rw [hbelow a k (by omega), zero_smul]

/-- The right half after the back substitution. -/
lemma mul_backSubstitute (hbelow : ∀ i j : Fin m, j < i → L i j = 0) (hdiag : ∀ i, L i i = 1) :
    of L * of (backSubstitute ⟨L, R⟩).right = of R := by
  have hsolved := solved_foldr (R := R) hbelow hdiag (l := List.finRange m)
    (List.pairwise_lt_finRange m) fun _ _ k _ => List.mem_finRange k
  rw [backSubstitute, List.foldl_reverse]
  ext i j
  have hi := congrFun (hsolved.row i (List.mem_finRange i)) j
  rw [Finset.sum_apply] at hi
  rw [mul_apply]
  exact hi

end BackSubstitution

/-! ## The inverse -/

section Inverse

variable [DecidableEq F] {A B : Fin m → Fin m → F}

/-- A returned matrix is a left inverse.

**Proof sketch.** With `L` and `R` for the halves after the elimination, `R * A = L`, and the result
solves `L * X = R`.  As `L` is triangular it can be cancelled in `L * (X * A) = L`. -/
lemma matrixInverse_mul (h : matrixInverse A = some B) : of B * of A = 1 := by
  obtain ⟨E, hE, hB⟩ := Option.bind_eq_some_iff.mp h
  obtain rfl := Option.some.inj hB
  have he := Eliminated.triangularize A m hE le_rfl
  have hbelow : ∀ i j : Fin m, j < i → E.left i j = 0 := fun i j hji => he.below i j j.isLt hji
  have hdiag : ∀ i, E.left i i = 1 := fun i => he.diagonal i i.isLt
  have hsolve := mul_backSubstitute (R := E.right) hbelow hdiag
  have hrow : of E.right * of A = of E.left := by
    ext i j
    exact congrFun (he.row i) j
  have hdet : (of E.left).det = 1 := by
    have htriangular : (of E.left).IsUpperTriangular := fun i j hji => hbelow i j hji
    rw [det_of_isUpperTriangular htriangular]
    exact Finset.prod_eq_one fun i _ => hdiag i
  have hunit : IsUnit (of E.left).det := by
    rw [hdet]
    exact isUnit_one
  have hcancel : of E.left * (of (backSubstitute E).right * of A) = of E.left * 1 := by
    rw [← Matrix.mul_assoc, hsolve, hrow, Matrix.mul_one]
  have hinv := congrArg ((of E.left)⁻¹ * ·) hcancel
  simpa only [nonsing_inv_mul_cancel_left _ _ hunit] using hinv

/-- Up to the last column of an invertible matrix there is a pivot.

**Proof sketch.** Without a pivot the left half has no left inverse.  But it is the right half
times `A`, and both have one. -/
lemma triangularize_ne_none {X : Matrix (Fin m) (Fin m) F} (hX : X * of A = 1) :
    ∀ h ≤ m, triangularize A h ≠ none := by
  intro h
  induction h with
  | zero =>
    intro _ hnone
    cases hnone
  | succ h ih =>
    intro hm hnone
    have hlt : h < m := hm
    obtain ⟨B, hB⟩ := Option.ne_none_iff_exists'.mp (ih (by omega))
    rw [triangularize, hB] at hnone
    change (if hm : h < m then pivotStep B ⟨h, hm⟩ else some B) = none at hnone
    rw [dif_pos hlt] at hnone
    have hfind := Option.map_eq_none_iff.mp hnone
    have he := Eliminated.triangularize A h hB (by omega)
    have hrow : of B.right * of A = of B.left := by
      ext i j
      exact congrFun (he.row i) j
    -- The right half has a left inverse, and so has the left half.
    have hinj : Function.Injective (of B.right).mulVec := by
      intro v w hvw
      have hsub := he.kernel (v - w) fun i => ?_
      · exact sub_eq_zero.mp hsub
      · have hi := congrFun hvw i
        rw [dotProduct_sub]
        exact sub_eq_zero.mpr hi
    obtain ⟨Y, hY⟩ := (mulVec_injective_iff_isUnit.mp hinj).exists_left_inv
    refine he.not_left_inverse (h := ⟨h, hlt⟩) (fun i hi => findPivot_eq_none hfind hi) (X * Y) ?_
    rw [← hrow, Matrix.mul_assoc, ← Matrix.mul_assoc Y, hY, Matrix.one_mul, hX]

/-- **`matrix_inverse` returns the inverse**, and nothing else. -/
theorem matrixInverse_eq_some_iff : matrixInverse A = some B ↔ of B * of A = 1 := by
  constructor
  · exact matrixInverse_mul
  · intro h
    obtain ⟨E, hE⟩ := Option.ne_none_iff_exists'.mp (triangularize_ne_none h m le_rfl)
    have hsome : matrixInverse A = some (backSubstitute E).right := by
      rw [matrixInverse, hE]
      rfl
    have hinv : of (backSubstitute E).right = of B := by
      have hright := mul_eq_one_comm.mp (matrixInverse_mul hsome)
      exact (left_inv_eq_right_inv h hright).symm
    rw [hsome]
    exact congrArg some hinv

/-- **`matrix_inverse` throws exactly on a singular matrix.** -/
theorem matrixInverse_eq_none_iff : matrixInverse A = none ↔ ¬IsUnit (of A) := by
  constructor
  · intro hnone hunit
    obtain ⟨X, hX⟩ := hunit.exists_left_inv
    have hsome := matrixInverse_eq_some_iff.mpr (show of X * of A = 1 from hX)
    rw [hnone] at hsome
    cases hsome
  · intro hunit
    cases h : matrixInverse A with
    | none => rfl
    | some B =>
      have hmul := matrixInverse_mul h
      exact absurd (IsUnit.of_mul_eq_one _ (mul_eq_one_comm.mp hmul)) hunit

variable (A) in
open Classical in
/-- **`matrix_inverse` on every matrix**: the inverse, or an exception if there is none. -/
theorem matrixInverse_eq_ite :
    matrixInverse A = if IsUnit (of A) then some fun i j => (of A)⁻¹ i j else none := by
  split_ifs with hunit
  · refine matrixInverse_eq_some_iff.mpr ?_
    exact nonsing_inv_mul (of A) ((isUnit_iff_isUnit_det _).mp hunit)
  · exact matrixInverse_eq_none_iff.mpr hunit

end Inverse

end Poseidon
