import Mathlib.Data.Matrix.Mul
import Mathlib.Tactic.Abel

/-!
# Permutations with partial rounds

A partial round applies a function to one element of a state, the head, and then a linear map to
the whole state.  Two changes of such a permutation leave it as it is up to a change of the state:
the constants of the other elements can be moved through the linear layers, and a linear map that
fixes the head can be moved through the functions.

States are row vectors over any index type, and the head is at the index `o`.

## Main definitions

* `PartialRounds.onHead` — a function on the head of a state.
* `PartialRounds.FixesHead` — a matrix that leaves the head to itself.
* `PartialRounds.rounds`, `PartialRounds.roundsWith` — partial rounds, without and with constants.

## Main results

* `PartialRounds.roundsWith_add` — with the constants moved, only the head has any.
* `PartialRounds.rounds_vecMul` — the rounds after a change of coordinates in each of them.
-/

set_option relaxedAutoImplicit false
set_option autoImplicit false

open Matrix

namespace PartialRounds

variable {F ι : Type*} [DecidableEq ι] (o : ι)

/-- `f` on the head of a state. -/
def onHead (f : F → F) (x : ι → F) : ι → F :=
  fun j => if j = o then f (x o) else x j

/-- The function is applied to the element. -/
@[simp]
lemma onHead_self (f : F → F) (x : ι → F) : onHead o f x o = f (x o) := if_pos rfl

/-- The others stay as they are. -/
theorem onHead_of_ne (f : F → F) (x : ι → F) {j : ι} (hj : j ≠ o) : onHead o f x j = x j :=
  if_neg hj

variable [CommRing F]

/-- A matrix that leaves the head of a state to itself. -/
structure FixesHead (B : Matrix ι ι F) : Prop where
  row : ∀ j, B o j = if j = o then 1 else 0
  col : ∀ i, B i o = if i = o then 1 else 0

variable {o}

namespace FixesHead

/-- The identity leaves the element to itself. -/
theorem one : FixesHead o (1 : Matrix ι ι F) := by
  constructor
  · intro j
    simp [Matrix.one_apply, eq_comm]
  · intro i
    simp [Matrix.one_apply]

variable [Fintype ι] {B : Matrix ι ι F}

/-- The head stays. -/
lemma vecMul_head (h : FixesHead o B) (x : ι → F) : (x ᵥ* B) o = x o := by
  simp [vecMul, dotProduct, h.col]

/-- The other elements do not depend on the head. -/
lemma vecMul_congr (h : FixesHead o B) {x y : ι → F} (hxy : ∀ j ≠ o, x j = y j) {j : ι}
    (hj : j ≠ o) : (x ᵥ* B) j = (y ᵥ* B) j := by
  simp only [vecMul, dotProduct]
  apply Finset.sum_congr rfl
  intro i _
  by_cases hi : i = o
  · rw [hi, h.row, if_neg hj, mul_zero, mul_zero]
  · rw [hxy i hi]

/-- A function on the head commutes with the matrix. -/
lemma onHead_vecMul (h : FixesHead o B) (f : F → F) (x : ι → F) :
    onHead o f (x ᵥ* B) = onHead o f x ᵥ* B := by
  funext j
  by_cases hj : j = o
  · rw [hj, onHead_self, h.vecMul_head, h.vecMul_head, onHead_self]
  · rw [onHead_of_ne o f _ hj]
    apply h.vecMul_congr _ hj
    intro i hi
    rw [onHead_of_ne o f x hi]

end FixesHead

/-! ## Rounds -/

variable [Fintype ι] (o)

/-- The state after `r` rounds, with the function `f r` and the matrix `A r` in round `r`. -/
def rounds (f : ℕ → F → F) (A : ℕ → Matrix ι ι F) (x : ι → F) : ℕ → ι → F
  | 0 => x
  | r + 1 => onHead o (f r) (rounds f A x r) ᵥ* A r

/-- The state after `r` rounds, where the constants `c r` are added first. -/
def roundsWith (f : F → F) (c : ℕ → ι → F) (A : ℕ → Matrix ι ι F) (x : ι → F) : ℕ → ι → F
  | 0 => x
  | r + 1 => onHead o f (roundsWith f c A x r + c r) ᵥ* A r

/-- **Moving the constants.**  The constants `acc (r + 1)` after a round are the image of constants
`d r` before its linear layer; that of the head stays there, and the others move in front of the
round.

**Proof sketch.** Induction on the round; the function does not see the constants of the other
elements. -/
theorem roundsWith_add (f : F → F) {c acc d : ℕ → ι → F} {A : ℕ → Matrix ι ι F} {N : ℕ}
    (hd : ∀ r < N, d r ᵥ* A r = acc (r + 1))
    (hacc : ∀ r < N, acc r = onHead o (fun _ => 0) (d r) + c r) (x : ι → F) :
    ∀ r ≤ N, roundsWith o f c A x r + acc r =
      rounds o (fun r y => f y + d r o) A (x + acc 0) r := by
  intro r
  induction r with
  | zero =>
    intro _
    rfl
  | succ r ih =>
    intro hr
    have hstep : onHead o (fun y => f y + d r o) (roundsWith o f c A x r + acc r) =
        onHead o f (roundsWith o f c A x r + c r) + d r := by
      funext j
      rw [hacc r hr]
      by_cases hj : j = o
      · simp [hj]
      · simp only [onHead_of_ne o _ _ hj, Pi.add_apply]
        abel
    unfold rounds roundsWith
    rw [← ih (by omega), hstep, Matrix.add_vecMul, hd r hr]

/-- **Changing the coordinates.**  Two sequences of rounds whose matrices differ by coordinate
changes that fix the head compute the same up to these. -/
theorem rounds_vecMul (f : ℕ → F → F) {A A' B : ℕ → Matrix ι ι F} {N : ℕ}
    (hB : ∀ r < N, FixesHead o (B r)) (hAB : ∀ r < N, A r * B (r + 1) = B r * A' r)
    (x : ι → F) :
    ∀ r ≤ N, rounds o f A' (x ᵥ* B 0) r = rounds o f A x r ᵥ* B r := by
  intro r
  induction r with
  | zero =>
    intro _
    rfl
  | succ r ih =>
    intro hr
    unfold rounds
    rw [ih (by omega), (hB r hr).onHead_vecMul, Matrix.vecMul_vecMul, ← hAB r hr,
      ← Matrix.vecMul_vecMul]

end PartialRounds
