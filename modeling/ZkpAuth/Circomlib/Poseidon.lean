import Mathlib.Data.Fin.Tuple.Basic
import Mathlib.Tactic.Ring
import ZkpAuth.Lib.Template

/-!
# The Poseidon template of circomlib

`Poseidon(nInputs)` of `circomlib/circuits/poseidon.circom` with the templates it instantiates,
over any commutative ring and any round constants.  The width is `t = nInputs + 1`.  The source
fixes `nRoundsF = 8`, so its `nRoundsF\2` is `4` throughout.

Component arrays are indexed by `ℕ`; only the indices that the source creates occur in the
constraints.

## Main definitions

* `Poseidon.Constants` — the tables `POSEIDON_C`, `POSEIDON_S`, `POSEIDON_M`, `POSEIDON_P` at one
  width, with the number of partial rounds.
* `Poseidon.Ex.Constraints`, `Poseidon.Constraints` — the constraints of `PoseidonEx` and
  `Poseidon`.
* `Poseidon.hash` — the function that they compute.

## Main results

* `Poseidon.Ex.out_eq` — the outputs of `PoseidonEx` are forced by its inputs.
* `Poseidon.implements` — `Poseidon(nInputs)` implements `Poseidon.hash` on all inputs.
-/

set_option relaxedAutoImplicit false
set_option autoImplicit false

namespace Poseidon

variable {F : Type*} [CommRing F]

/-- The round constants that `PoseidonEx` reads at width `t`. -/
structure Constants (F : Type*) (t : ℕ) where
  /-- The number of partial rounds, `N_ROUNDS_P[t - 2]`. -/
  nRoundsP : ℕ
  /-- The table has no entry `0`. -/
  nRoundsP_pos : 0 < nRoundsP
  /-- `POSEIDON_C(t)`. -/
  C : ℕ → F
  /-- `POSEIDON_S(t)`. -/
  S : ℕ → F
  /-- `POSEIDON_M(t)`. -/
  M : Fin t → Fin t → F
  /-- `POSEIDON_P(t)`. -/
  P : Fin t → Fin t → F

/-! ## The round templates -/

/-- The signals of `Sigma`. -/
structure Sigma.Signals (F : Type*) where
  /-- The state element. -/
  inp : F
  /-- Its fifth power. -/
  out : F
  /-- The square. -/
  in2 : F
  /-- The fourth power. -/
  in4 : F

/-- The constraints of `Sigma`. -/
structure Sigma.Constraints (s : Sigma.Signals F) : Prop where
  /-- `in2 <== in*in`. -/
  in2_eq : s.in2 = s.inp * s.inp
  /-- `in4 <== in2*in2`. -/
  in4_eq : s.in4 = s.in2 * s.in2
  /-- `out <== in4*in`. -/
  out_eq : s.out = s.in4 * s.inp

/-- The witness computation of `Sigma`. -/
def Sigma.compute (x : F) : Sigma.Signals F :=
  let in2 := x * x
  let in4 := in2 * in2
  { inp := x, out := in4 * x, in2 := in2, in4 := in4 }

/-- The S-box. -/
def sigma (x : F) : F := (Sigma.compute x).out

/-- The signals of `Ark`, `Mix` and `MixS`: a state of `t` elements in and one out. -/
structure Layer (F : Type*) (t : ℕ) where
  /-- The state before the layer. -/
  inp : Fin t → F
  /-- The state after the layer. -/
  out : Fin t → F

/-- The signals of `MixLast`. -/
structure MixLast.Signals (F : Type*) (t : ℕ) where
  /-- The final state. -/
  inp : Fin t → F
  /-- One element of the mixed state. -/
  out : F

/-- The loop `lc += coeff[j]*in[j]` that `Mix`, `MixLast` and `MixS` share. -/
def lc {t : ℕ} (coeff inp : Fin t → F) : F :=
  Fin.foldl t (fun acc j => acc + coeff j * inp j) 0

/-- What `Ark(t, C, r)` puts on its outputs: `in[i] + C[i + r]`. -/
def ark {t : ℕ} (C : ℕ → F) (r : ℕ) (inp : Fin t → F) : Fin t → F := fun i => inp i + C (i + r)

/-- What `Mix(t, M)` puts on its outputs. -/
def mix {t : ℕ} (M : Fin t → Fin t → F) (inp : Fin t → F) : Fin t → F :=
  fun i => lc (fun j => M j i) inp

/-- What `MixLast(t, M, s)` puts on its output. -/
def mixLast {t : ℕ} (M : Fin t → Fin t → F) (s : Fin t) (inp : Fin t → F) : F :=
  lc (fun j => M j s) inp

/-- What `MixS(t, S, r)` puts on its outputs. -/
def mixS {n : ℕ} (S : ℕ → F) (r : ℕ) (inp : Fin (n + 1) → F) : Fin (n + 1) → F := fun i =>
  let t := n + 1
  if i = 0 then lc (fun j : Fin (n + 1) => S ((t * 2 - 1) * r + j)) inp
  else inp i + inp 0 * S ((t * 2 - 1) * r + t + i - 1)

/-- A satisfied `Sigma` outputs the S-box of its input. -/
lemma Sigma.Constraints.out_eq_sigma {s : Sigma.Signals F} (h : Sigma.Constraints s) :
    s.out = sigma s.inp := by
  simp only [sigma, Sigma.compute, h.out_eq, h.in4_eq, h.in2_eq]

/-- The S-box is the fifth power. -/
theorem sigma_eq_pow (x : F) : sigma x = x ^ 5 := by
  simp only [sigma, Sigma.compute]
  ring

/-! ## The permutation -/

namespace Ex

variable {n nOuts : ℕ}

/-- The signals of `PoseidonEx(nInputs, nOuts)`. -/
structure Signals (F : Type*) (n nOuts : ℕ) where
  /-- The hashed values. -/
  inputs : Fin n → F
  /-- The capacity element. -/
  initialState : F
  /-- The squeezed values. -/
  out : Fin nOuts → F
  /-- `component ark[nRoundsF]`. -/
  ark : ℕ → Layer F (n + 1)
  /-- `component sigmaF[nRoundsF][t]`. -/
  sigmaF : ℕ → Fin (n + 1) → Sigma.Signals F
  /-- `component sigmaP[nRoundsP]`. -/
  sigmaP : ℕ → Sigma.Signals F
  /-- `component mix[nRoundsF-1]`. -/
  mix : ℕ → Layer F (n + 1)
  /-- `component mixS[nRoundsP]`. -/
  mixS : ℕ → Layer F (n + 1)
  /-- `component mixLast[nOuts]`. -/
  mixLast : Fin nOuts → MixLast.Signals F (n + 1)

/-- A full round of the first half and of the second: the S-boxes `sigmaF[k]` on the state `x`,
the constants `ark[k+1]` from offset `off` of the table, and the layer `mix[k]` by `M`. -/
structure FullRound (C : ℕ → F) (M : Fin (n + 1) → Fin (n + 1) → F) (off k : ℕ)
    (x : Fin (n + 1) → F) (s : Signals F n nOuts) : Prop where
  /-- The constraints of `sigmaF[k][j]`. -/
  sigmaF : ∀ j, Sigma.Constraints (s.sigmaF k j)
  /-- `sigmaF[k][j].in <== x[j]`. -/
  sigmaF_inp : ∀ j, (s.sigmaF k j).inp = x j
  /-- The constraints of `ark[k+1]`. -/
  ark : ∀ j, (s.ark (k + 1)).out j = Poseidon.ark C off (s.ark (k + 1)).inp j
  /-- `ark[k+1].in[j] <== sigmaF[k][j].out`. -/
  ark_inp : ∀ j, (s.ark (k + 1)).inp j = (s.sigmaF k j).out
  /-- The constraints of `mix[k]`. -/
  mix : ∀ j, (s.mix k).out j = Poseidon.mix M (s.mix k).inp j
  /-- `mix[k].in[j] <== ark[k+1].out[j]`. -/
  mix_inp : ∀ j, (s.mix k).inp j = (s.ark (k + 1)).out j

/-- A partial round: one S-box, one constant, and the sparse layer `mixS[r]`, on the state `x`. -/
structure PartialRound (K : Constants F (n + 1)) (r : ℕ) (x : Fin (n + 1) → F)
    (s : Signals F n nOuts) : Prop where
  /-- The constraints of `sigmaP[r]`. -/
  sigmaP : Sigma.Constraints (s.sigmaP r)
  /-- `sigmaP[r].in <== x[0]`. -/
  sigmaP_inp : (s.sigmaP r).inp = x 0
  /-- The constraints of `mixS[r]`. -/
  mixS : ∀ j, (s.mixS r).out j = Poseidon.mixS K.S r (s.mixS r).inp j
  /-- `mixS[r].in[j] <== sigmaP[r].out + C[(nRoundsF\2+1)*t + r]` at `j = 0`, and
  `mixS[r].in[j] <== x[j]` elsewhere. -/
  mixS_inp : ∀ j, (s.mixS r).inp j =
    if j = 0 then (s.sigmaP r).out + K.C ((4 + 1) * (n + 1) + r) else x j

/-- The constraints of `PoseidonEx(nInputs, nOuts)`. -/
structure Constraints (K : Constants F (n + 1)) (s : Signals F n nOuts) : Prop where
  /-- The constraints of `ark[0]`. -/
  ark : ∀ j, (s.ark 0).out j = Poseidon.ark K.C 0 (s.ark 0).inp j
  /-- `ark[0].in[j] <== inputs[j-1]`, and `initialState` at `j = 0`. -/
  ark_inp : ∀ j, (s.ark 0).inp j = (Fin.cons s.initialState s.inputs : Fin (n + 1) → F) j
  /-- The first loop over `r < nRoundsF\2-1`. -/
  first : ∀ r < 3, FullRound K.C K.M ((r + 1) * (n + 1)) r
    (if r = 0 then (s.ark 0).out else (s.mix (r - 1)).out) s
  /-- The round with the matrix `P`. -/
  middle : FullRound K.C K.P (4 * (n + 1)) 3 (s.mix 2).out s
  /-- The loop over the partial rounds. -/
  partials : ∀ r < K.nRoundsP, PartialRound K r
    (if r = 0 then (s.mix 3).out else (s.mixS (r - 1)).out) s
  /-- The last loop over `r < nRoundsF\2-1`. -/
  last : ∀ r < 3, FullRound K.C K.M ((4 + 1) * (n + 1) + K.nRoundsP + r * (n + 1)) (4 + r)
    (if r = 0 then (s.mixS (K.nRoundsP - 1)).out else (s.mix (4 + r - 1)).out) s
  /-- The constraints of `sigmaF[nRoundsF-1][j]`. -/
  sigmaF : ∀ j, Sigma.Constraints (s.sigmaF 7 j)
  /-- `sigmaF[nRoundsF-1][j].in <== mix[nRoundsF-2].out[j]`. -/
  sigmaF_inp : ∀ j, (s.sigmaF 7 j).inp = (s.mix 6).out j
  /-- The constraints of `mixLast[i]`. -/
  mixLast : ∀ i : Fin nOuts, (s.mixLast i).out =
    Poseidon.mixLast K.M (Fin.ofNat (n + 1) i) (s.mixLast i).inp
  /-- `mixLast[i].in[j] <== sigmaF[nRoundsF-1][j].out`. -/
  mixLast_inp : ∀ i j, (s.mixLast i).inp j = (s.sigmaF 7 j).out
  /-- `out[i] <== mixLast[i].out`. -/
  out_eq : ∀ i, s.out i = (s.mixLast i).out

/-! ### The computed function -/

/-- The state after a full round. -/
def fullRound (C : ℕ → F) (M : Fin (n + 1) → Fin (n + 1) → F) (off : ℕ)
    (x : Fin (n + 1) → F) : Fin (n + 1) → F :=
  Poseidon.mix M (Poseidon.ark C off fun j => sigma (x j))

/-- The state that enters `mixS[r]`. -/
def partialInp (K : Constants F (n + 1)) (r : ℕ) (x : Fin (n + 1) → F) : Fin (n + 1) → F :=
  fun j => if j = 0 then sigma (x 0) + K.C ((4 + 1) * (n + 1) + r) else x j

/-- The state that enters full round `r` of the first half. -/
def firstState (K : Constants F (n + 1)) (x : Fin (n + 1) → F) : ℕ → Fin (n + 1) → F
  | 0 => Poseidon.ark K.C 0 x
  | r + 1 => fullRound K.C K.M ((r + 1) * (n + 1)) (firstState K x r)

/-- The state that enters partial round `r`. -/
def partialState (K : Constants F (n + 1)) (x : Fin (n + 1) → F) : ℕ → Fin (n + 1) → F
  | 0 => fullRound K.C K.P (4 * (n + 1)) (firstState K x 3)
  | r + 1 => Poseidon.mixS K.S r (partialInp K r (partialState K x r))

/-- The state that enters full round `r` of the second half. -/
def lastState (K : Constants F (n + 1)) (x : Fin (n + 1) → F) : ℕ → Fin (n + 1) → F
  | 0 => partialState K x K.nRoundsP
  | r + 1 => fullRound K.C K.M ((4 + 1) * (n + 1) + K.nRoundsP + r * (n + 1)) (lastState K x r)

/-- Output `i` of the permutation on the state `x`. -/
def squeeze (K : Constants F (n + 1)) (x : Fin (n + 1) → F) (i : ℕ) : F :=
  Poseidon.mixLast K.M (Fin.ofNat (n + 1) i) fun j => sigma (lastState K x 3 j)

/-- The state that enters the S-boxes `sigmaF[k]`. -/
def fullState (K : Constants F (n + 1)) (x : Fin (n + 1) → F) (k : ℕ) : Fin (n + 1) → F :=
  if k < 4 then firstState K x k else lastState K x (k - 4)

/-- The offset into `C` of the constants of `ark[k+1]`. -/
def arkOffset (K : Constants F (n + 1)) (k : ℕ) : ℕ :=
  if k < 4 then (k + 1) * (n + 1) else (4 + 1) * (n + 1) + K.nRoundsP + (k - 4) * (n + 1)

/-- The witness computation of `PoseidonEx(nInputs, nOuts)`: every signal from the states of the
permutation. -/
def compute (nOuts : ℕ) (K : Constants F (n + 1)) (initialState : F) (inputs : Fin n → F) :
    Signals F n nOuts :=
  let x : Fin (n + 1) → F := Fin.cons initialState inputs
  { inputs := inputs
    initialState := initialState
    out := fun i => squeeze K x i
    ark := fun k => match k with
      | 0 => { inp := x, out := Poseidon.ark K.C 0 x }
      | k + 1 =>
        let y : Fin (n + 1) → F := fun j => sigma (fullState K x k j)
        { inp := y, out := Poseidon.ark K.C (arkOffset K k) y }
    sigmaF := fun k j => Sigma.compute (fullState K x k j)
    sigmaP := fun r => Sigma.compute (partialState K x r 0)
    mix := fun k =>
      let y := Poseidon.ark K.C (arkOffset K k) fun j => sigma (fullState K x k j)
      { inp := y, out := Poseidon.mix (if k = 3 then K.P else K.M) y }
    mixS := fun r =>
      let y := partialInp K r (partialState K x r)
      { inp := y, out := Poseidon.mixS K.S r y }
    mixLast := fun i =>
      let y : Fin (n + 1) → F := fun j => sigma (lastState K x 3 j)
      { inp := y, out := Poseidon.mixLast K.M (Fin.ofNat (n + 1) i) y } }

/-! ### The constraints force the computed function -/

/-- A constrained full round maps its state by `fullRound`. -/
lemma FullRound.mix_out {C : ℕ → F} {M : Fin (n + 1) → Fin (n + 1) → F} {off k : ℕ}
    {x : Fin (n + 1) → F} {s : Signals F n nOuts} (h : FullRound C M off k x s) :
    (s.mix k).out = fullRound C M off x := by
  have hsigma : ∀ j, (s.sigmaF k j).out = sigma (x j) := fun j => by
    rw [(h.sigmaF j).out_eq_sigma, h.sigmaF_inp j]
  have hark : (s.ark (k + 1)).inp = fun j => sigma (x j) :=
    funext fun j => by rw [h.ark_inp j, hsigma j]
  have hmix : (s.mix k).inp = Poseidon.ark C off fun j => sigma (x j) :=
    funext fun j => by rw [h.mix_inp j, h.ark j, hark]
  funext j
  rw [h.mix j, hmix]
  rfl

/-- A constrained partial round maps its state by one sparse layer. -/
lemma PartialRound.mixS_out {K : Constants F (n + 1)} {r : ℕ} {x : Fin (n + 1) → F}
    {s : Signals F n nOuts} (h : PartialRound K r x s) :
    (s.mixS r).out = Poseidon.mixS K.S r (partialInp K r x) := by
  have hinp : (s.mixS r).inp = partialInp K r x := by
    funext j
    rw [h.mixS_inp j, h.sigmaP.out_eq_sigma, h.sigmaP_inp]
    rfl
  funext j
  rw [h.mixS j, hinp]

section Forced

variable {K : Constants F (n + 1)} {s : Signals F n nOuts}

/-- The first half: the state that enters round `r` is `firstState`.

**Proof sketch.** Induction on `r`, one constrained full round at each step. -/
lemma Constraints.first_state (h : Constraints K s) : ∀ r ≤ 3,
    (if r = 0 then (s.ark 0).out else (s.mix (r - 1)).out) =
      firstState K (Fin.cons s.initialState s.inputs) r := by
  intro r
  induction r with
  | zero =>
    intro _
    have hinp : (s.ark 0).inp = Fin.cons s.initialState s.inputs := funext h.ark_inp
    funext j
    simp only [if_pos, h.ark j, hinp, firstState]
  | succ r ih =>
    intro hr
    have hround := h.first r (by omega)
    rw [ih (by omega)] at hround
    simpa [firstState] using hround.mix_out

/-- The partial rounds: the state that enters round `r` is `partialState`. -/
lemma Constraints.partial_state (h : Constraints K s) : ∀ r ≤ K.nRoundsP,
    (if r = 0 then (s.mix 3).out else (s.mixS (r - 1)).out) =
      partialState K (Fin.cons s.initialState s.inputs) r := by
  intro r
  induction r with
  | zero =>
    intro _
    have hfirst := h.first_state 3 le_rfl
    have hmiddle := h.middle
    simp only [OfNat.ofNat_ne_zero, if_false, Nat.add_one_sub_one] at hfirst
    rw [hfirst] at hmiddle
    simpa [partialState] using hmiddle.mix_out
  | succ r ih =>
    intro hr
    have hround := h.partials r (by omega)
    rw [ih (by omega)] at hround
    simpa [partialState] using hround.mixS_out

/-- The second half: the state that enters round `r` is `lastState`. -/
lemma Constraints.last_state (h : Constraints K s) : ∀ r ≤ 3,
    (if r = 0 then (s.mixS (K.nRoundsP - 1)).out else (s.mix (4 + r - 1)).out) =
      lastState K (Fin.cons s.initialState s.inputs) r := by
  intro r
  induction r with
  | zero =>
    intro _
    have hpartial := h.partial_state K.nRoundsP le_rfl
    rw [if_neg K.nRoundsP_pos.ne'] at hpartial
    simpa [lastState] using hpartial
  | succ r ih =>
    intro hr
    have hround := h.last r (by omega)
    rw [ih (by omega)] at hround
    simpa [lastState] using hround.mix_out

/-- **The outputs of `PoseidonEx` are forced**: they are the permutation of the capacity element
and the inputs. -/
theorem Constraints.out_eq_squeeze (h : Constraints K s) (i : Fin nOuts) :
    s.out i = squeeze K (Fin.cons s.initialState s.inputs) i := by
  have hlast := h.last_state 3 le_rfl
  simp only [OfNat.ofNat_ne_zero, if_false] at hlast
  have hinp : (s.mixLast i).inp =
      fun j => sigma (lastState K (Fin.cons s.initialState s.inputs) 3 j) := by
    funext j
    rw [h.mixLast_inp i j, (h.sigmaF j).out_eq_sigma, h.sigmaF_inp j, ← hlast]
  rw [h.out_eq i, h.mixLast i, hinp, squeeze]

end Forced

/-! ### The witness computation satisfies the constraints -/

/-- The witness computation of `Sigma` satisfies its constraints. -/
lemma sigma_constraints_compute (x : F) : Sigma.Constraints (Sigma.compute x) :=
  ⟨rfl, rfl, rfl⟩

section Compute

variable (nOuts : ℕ) (K : Constants F (n + 1)) (initialState : F) (inputs : Fin n → F)

/-- The computed signals of round `k` form a full round on the state `fullState`. -/
lemma compute_fullRound (k : ℕ) :
    FullRound K.C (if k = 3 then K.P else K.M) (arkOffset K k) k
      (fullState K (Fin.cons initialState inputs) k)
      (compute nOuts K initialState inputs) where
  sigmaF _ := sigma_constraints_compute _
  sigmaF_inp _ := rfl
  ark _ := rfl
  ark_inp _ := rfl
  mix _ := rfl
  mix_inp _ := rfl

/-- The computed signals of partial round `r` form a partial round on `partialState`. -/
lemma compute_partialRound (r : ℕ) :
    PartialRound K r (partialState K (Fin.cons initialState inputs) r)
      (compute nOuts K initialState inputs) where
  sigmaP := sigma_constraints_compute _
  sigmaP_inp := rfl
  mixS _ := rfl
  mixS_inp _ := rfl

/-- The computed layer `mix[k]` hands the first half on to its next round. -/
lemma compute_mix_first {k : ℕ} (hk : k < 3) :
    ((compute nOuts K initialState inputs).mix k).out =
      firstState K (Fin.cons initialState inputs) (k + 1) := by
  rw [(compute_fullRound nOuts K initialState inputs k).mix_out, firstState, fullState, arkOffset]
  simp only [if_pos (show k < 4 by omega), if_neg (show k ≠ 3 by omega)]

/-- The computed layer `mix[4+k]` hands the second half on to its next round. -/
lemma compute_mix_last (k : ℕ) :
    ((compute nOuts K initialState inputs).mix (4 + k)).out =
      lastState K (Fin.cons initialState inputs) (k + 1) := by
  rw [(compute_fullRound nOuts K initialState inputs (4 + k)).mix_out, lastState, fullState,
    arkOffset]
  simp only [if_neg (show ¬4 + k < 4 by omega), if_neg (show 4 + k ≠ 3 by omega),
    Nat.add_sub_cancel_left]

/-- The witness computation of `PoseidonEx` satisfies its constraints.

**Proof sketch.** Every round is satisfied on its own state (`compute_fullRound`,
`compute_partialRound`).  It remains to see that the state of a round is what the source wires
into it: at index `0` of a loop the state handed over by the previous stage, at `r + 1` the output
of round `r`. -/
theorem constraints_compute : Constraints K (compute nOuts K initialState inputs) where
  ark _ := rfl
  ark_inp _ := rfl
  first r hr := by
    have h := compute_fullRound nOuts K initialState inputs r
    simp only [if_neg (show r ≠ 3 by omega), arkOffset, fullState,
      if_pos (show r < 4 by omega)] at h
    cases r with
    | zero => exact h
    | succ r => simpa [compute_mix_first nOuts K initialState inputs (show r < 3 by omega)] using h
  middle := by
    rw [compute_mix_first nOuts K initialState inputs (by omega)]
    exact compute_fullRound nOuts K initialState inputs 3
  partials r hr := by
    have h := compute_partialRound nOuts K initialState inputs r
    cases r with
    | zero =>
      have hmix := (compute_fullRound nOuts K initialState inputs 3).mix_out
      rw [if_pos rfl, hmix]
      exact h
    | succ r => exact h
  last r hr := by
    have h := compute_fullRound nOuts K initialState inputs (4 + r)
    simp only [if_neg (show 4 + r ≠ 3 by omega), arkOffset, fullState,
      if_neg (show ¬4 + r < 4 by omega), Nat.add_sub_cancel_left] at h
    cases r with
    | zero =>
      have hlast : ((compute nOuts K initialState inputs).mixS (K.nRoundsP - 1)).out =
          lastState K (Fin.cons initialState inputs) 0 := by
        rw [lastState, (compute_partialRound nOuts K initialState inputs _).mixS_out]
        obtain ⟨m, hm⟩ := Nat.exists_eq_succ_of_ne_zero K.nRoundsP_pos.ne'
        rw [hm]
        rfl
      rwa [if_pos rfl, hlast]
    | succ r =>
      have hprev := compute_mix_last nOuts K initialState inputs r
      rw [if_neg (Nat.succ_ne_zero r), show 4 + (r + 1) - 1 = 4 + r by omega, hprev]
      exact h
  sigmaF _ := sigma_constraints_compute _
  sigmaF_inp j := by
    rw [show 6 = 4 + 2 by rfl, compute_mix_last]
    rfl
  mixLast _ := rfl
  mixLast_inp _ _ := rfl
  out_eq _ := rfl

end Compute

end Ex

/-! ## The hash template -/

variable {n : ℕ}

/-- The signals of `Poseidon(nInputs)`. -/
structure Signals (F : Type*) (n : ℕ) where
  /-- The hashed values. -/
  inputs : Fin n → F
  /-- The hash. -/
  out : F
  /-- The component `pEx = PoseidonEx(nInputs, 1)`. -/
  pEx : Ex.Signals F n 1

/-- The constraints of `Poseidon(nInputs)`. -/
structure HashConstraints (K : Constants F (n + 1)) (s : Signals F n) : Prop where
  /-- The constraints of the component. -/
  pEx : Ex.Constraints K s.pEx
  /-- `pEx.initialState <== 0`. -/
  initialState_eq : s.pEx.initialState = 0
  /-- `pEx.inputs[i] <== inputs[i]`. -/
  inputs_eq : ∀ i, s.pEx.inputs i = s.inputs i
  /-- `out <== pEx.out[0]`. -/
  out_eq : s.out = s.pEx.out 0

/-- The function that `Poseidon(nInputs)` computes. -/
def hash (K : Constants F (n + 1)) (inputs : Fin n → F) : F :=
  Ex.squeeze K (Fin.cons 0 inputs) 0

/-- The witness computation of `Poseidon(nInputs)`. -/
def compute (K : Constants F (n + 1)) (inputs : Fin n → F) : Signals F n :=
  let pEx := Ex.compute 1 K 0 inputs
  { inputs := inputs, out := pEx.out 0, pEx := pEx }

/-- `Poseidon(nInputs)` as a template. -/
def template (K : Constants F (n + 1)) : Template (Fin n → F) (Signals F n) F where
  input := Signals.inputs
  output := Signals.out
  Constraints := HashConstraints K
  compute := compute K

/-- **`Poseidon(nInputs)` computes a function of its inputs.** -/
theorem implements (K : Constants F (n + 1)) :
    (template K).Implements Set.univ (hash K) where
  input_compute _ := rfl
  input_mem _ _ := Set.mem_univ _
  output_eq s h := by
    have hinputs : s.pEx.inputs = s.inputs := funext h.inputs_eq
    change s.out = Ex.squeeze K (Fin.cons 0 s.inputs) 0
    rw [h.out_eq, h.pEx.out_eq_squeeze, h.initialState_eq, hinputs]
    rfl
  constraints_compute inputs _ :=
    ⟨Ex.constraints_compute 1 K 0 inputs, rfl, fun _ => rfl, rfl⟩

end Poseidon
