import ZkpAuth.Contracts.Verifier
import ZkpAuth.Curve

/-!
# What the verifier contract decides

The run of `verifyProof` on the coordinates of a proof, with precompiled contracts that compute in
the groups.  The assembly keeps one accumulator in memory: `g1_mulAccC` adds a multiple of a
constant to it and moves nothing else that is read later.  After the seven calls it holds `vk_x`,
and the input of the pairing check is a block of 24 words.

## Main definitions

* `Bn254.Curve.words₁`, `Bn254.Curve.words₂` — points in memory and calldata.
* `Bn254.Precompiles` — the precompiled contracts 6, 7 and 8 on points.
* `Groth16Verifier.coordinates` — the contract's key.
* `Groth16Verifier.Holds` — the invariant of the accumulator.
* `Groth16Verifier.Args.ofProof` — the arguments that carry a proof.

## Main results

* `Groth16Verifier.g1MulAccC_spec` — one step of the accumulator.
* `Groth16Verifier.computeVkX_spec` — its value after all steps.
* `Groth16Verifier.checkProduct_spec` — the words that the pairing check gets.
* `Groth16Verifier.verifyProof_eq_one_iff` — the decision of the contract.
-/

set_option relaxedAutoImplicit false
set_option autoImplicit false

open Evm Bn254

/-! ## Points as words -/

namespace Bn254

/-- A coordinate as a word. -/
def Fq.toWord (x : Fq) : Word := BitVec.ofNat 256 x.val

/-- A word as a coordinate. -/
def Fq.ofWord (w : Word) : Fq := (w.toNat : Fq)

/-- A coordinate that is written canonically is read back. -/
lemma Fq.toWord_ofWord {w : Word} (hw : w.toNat < q) : (Fq.ofWord w).toWord = w := by
  rw [Fq.toWord, Fq.ofWord, ZMod.val_cast_of_lt hw, BitVec.ofNat_toNat, BitVec.setWidth_eq]

/-- `mod(sub(q, y), q)` negates a coordinate. -/
lemma Fq.mod_sub (y : Fq) : mod (sub Groth16Verifier.q y.toWord) Groth16Verifier.q =
    (-y).toWord := by
  have hq : Groth16Verifier.q.toNat = q := rfl
  have hy : y.val < q := ZMod.val_lt y
  have hlt : q < 2 ^ 256 := by decide
  have hword : y.toWord.toNat = y.val := by
    rw [Fq.toWord, BitVec.toNat_ofNat, Nat.mod_eq_of_lt (hy.trans hlt)]
  have hne : Groth16Verifier.q ≠ 0 := by decide
  have hsub : (Groth16Verifier.q - y.toWord).toNat = q - y.val := by
    rw [BitVec.toNat_sub, hword, hq, show 2 ^ 256 - y.val + q = q - y.val + 2 ^ 256 by omega,
      Nat.add_mod_right, Nat.mod_eq_of_lt (by omega)]
  apply BitVec.eq_of_toNat_eq
  rw [mod, if_neg hne, sub, BitVec.toNat_umod, hsub, hq, Fq.toWord, BitVec.toNat_ofNat,
    ZMod.neg_val', Nat.mod_eq_of_lt ((Nat.mod_lt _ (NeZero.pos q)).trans hlt)]

section Words

variable {G₁ G₂ Gₜ : Type} [AddCommGroup G₁] [AddCommGroup G₂] [AddCommGroup Gₜ]
  (c : Curve G₁ G₂ Gₜ)

/-- A point of the first group in memory: its two coordinates. -/
def Curve.words₁ (P : G₁) : List Word := [(c.affine₁ P).1.toWord, (c.affine₁ P).2.toWord]

/-- A point of the second group in memory: its two coordinates, each with the imaginary part
first. -/
def Curve.words₂ (Q : G₂) : List Word :=
  [(c.affine₂ Q).1.2.toWord, (c.affine₂ Q).1.1.toWord, (c.affine₂ Q).2.2.toWord,
    (c.affine₂ Q).2.1.toWord]

/-- The words of a point of the first group with canonical coordinates. -/
lemma Curve.words₁_eq {P : G₁} {x y : Word} (h : c.affine₁ P = (Fq.ofWord x, Fq.ofWord y))
    (hx : x.toNat < q) (hy : y.toNat < q) : c.words₁ P = [x, y] := by
  rw [words₁, h, Fq.toWord_ofWord hx, Fq.toWord_ofWord hy]

/-- The words of a point of the second group with canonical coordinates. -/
lemma Curve.words₂_eq {Q : G₂} {x₁ x₂ y₁ y₂ : Word}
    (h : c.affine₂ Q = ((Fq.ofWord x₂, Fq.ofWord x₁), (Fq.ofWord y₂, Fq.ofWord y₁)))
    (hx₁ : x₁.toNat < q) (hx₂ : x₂.toNat < q) (hy₁ : y₁.toNat < q) (hy₂ : y₂.toNat < q) :
    c.words₂ Q = [x₁, x₂, y₁, y₂] := by
  rw [words₂, h, Fq.toWord_ofWord hx₁, Fq.toWord_ofWord hx₂, Fq.toWord_ofWord hy₁,
    Fq.toWord_ofWord hy₂]

/-- The precompiled contracts 6, 7 and 8 on points of the groups: addition, multiplication and the
pairing check. -/
structure Precompiles where
  /-- The precompiled contracts by address. -/
  call : ℕ → List Word → Option (List Word)
  /-- Addition. -/
  call_add : ∀ P Q : G₁, call 6 (c.words₁ P ++ c.words₁ Q) = some (c.words₁ (P + Q))
  /-- Scalar multiplication. -/
  call_mul : ∀ (P : G₁) (s : Word), call 7 (c.words₁ P ++ [s]) = some (c.words₁ (s.toNat • P))
  /-- The pairing check. -/
  call_pairing : ∀ L : List (G₁ × G₂), (L.map fun p => c.e p.1 p.2).sum = 0 →
    call 8 (L.flatMap fun p => c.words₁ p.1 ++ c.words₂ p.2) = some [1]
  /-- The pairing check, where it fails. -/
  call_pairing_ne : ∀ L : List (G₁ × G₂), (L.map fun p => c.e p.1 p.2).sum ≠ 0 →
    call 8 (L.flatMap fun p => c.words₁ p.1 ++ c.words₂ p.2) = some [0]

end Words

end Bn254

namespace Groth16Verifier

/-! ## The key of the contract -/

/-- The coordinates of `IC[0]` to `IC[7]`. -/
def icWords : Fin 8 → Word × Word :=
  ![(IC0x, IC0y), (IC1x, IC1y), (IC2x, IC2y), (IC3x, IC3y), (IC4x, IC4y), (IC5x, IC5y),
    (IC6x, IC6y), (IC7x, IC7y)]

/-- The coordinates of the contract's key.  The constants with the suffix `1` are the imaginary
parts. -/
def coordinates : KeyCoordinates 7 where
  alpha := (Fq.ofWord alphax, Fq.ofWord alphay)
  beta := ((Fq.ofWord betax2, Fq.ofWord betax1), (Fq.ofWord betay2, Fq.ofWord betay1))
  gamma := ((Fq.ofWord gammax2, Fq.ofWord gammax1), (Fq.ofWord gammay2, Fq.ofWord gammay1))
  delta := ((Fq.ofWord deltax2, Fq.ofWord deltax1), (Fq.ofWord deltay2, Fq.ofWord deltay1))
  IC := fun i => (Fq.ofWord (icWords i).1, Fq.ofWord (icWords i).2)

section Run

variable {G₁ G₂ Gₜ : Type} [AddCommGroup G₁] [AddCommGroup G₂] [AddCommGroup Gₜ]
  {c : Curve G₁ G₂ Gₜ} {pre : Precompiles c} {env : Env}

/-! ## The accumulator -/

/-- The accumulator holds `X`, and the free memory starts behind the memory of the call. -/
structure Holds (c : Curve G₁ G₂ Gₜ) (m : Memory) (X : G₁) : Prop where
  /-- The address of the free memory. -/
  free : m 0x40 = 0x400
  /-- The words of the accumulator. -/
  acc : m.read 0x80 2 = c.words₁ X

/-- **One step of the accumulator** adds `s` times a constant point.

**Proof sketch.** The scratch area at `0x400` takes the point and the scalar, then the product and
a copy of the accumulator; both precompiled contracts succeed, and the second one writes the
accumulator.  The area lies above the accumulator, so nothing else changes below it. -/
theorem g1MulAccC_spec (henv : env.precompile = pre.call) {m : Memory} {X P : G₁} (hm : Holds c m X)
    (x y : Word) (hP : c.words₁ P = [x, y]) (s : Word) :
    ∃ m', g1MulAccC env 0x80 x y s m = .ok ((), m') ∧ Holds c m' (s.toNat • P + X) := by
  obtain ⟨hfree, hacc⟩ := hm
  have hmul : env.precompile 7 [x, y, s] = some (c.words₁ (s.toNat • P)) := by
    rw [henv, ← pre.call_mul P s, hP]
    rfl
  have hadd : env.precompile 6 (c.words₁ (s.toNat • P) ++ c.words₁ X) =
      some (c.words₁ (s.toNat • P + X)) := by
    rw [henv, pre.call_add]
  let m₁ := m.write 0x400 [x, y, s]
  let m₂ := m₁.write 0x400 (c.words₁ (s.toNat • P))
  have hframe : ∀ b < 0x400, m₂ b = m b := fun b hb =>
    (Memory.write_of_lt m₁ _ hb).trans (Memory.write_of_lt m _ hb)
  have hm₃ : (m₂.set 0x440 (m₂ 0x80)).set 0x460 ((m₂.set 0x440 (m₂ 0x80)) 0xa0) =
      m₁.write 0x400 (c.words₁ (s.toNat • P) ++ c.words₁ X) := by
    rw [Memory.set_of_ne _ _ (by decide), hframe 0x80 (by decide), hframe 0xa0 (by decide), ← hacc]
    rfl
  have hread := Memory.read_write m₁ 0x400 (c.words₁ (s.toNat • P) ++ c.words₁ X)
  rw [← hm₃] at hread
  have hrun : g1MulAccC env 0x80 x y s m = .ok ((),
      (m₁.write 0x400 (c.words₁ (s.toNat • P) ++ c.words₁ X)).write 0x80
        (c.words₁ (s.toNat • P + X))) := by
    rw [← hm₃, g1MulAccC, run_mload, show (0x40 : Word).toNat = 0x40 from rfl, hfree, run_mstore,
      run_mstore, run_mstore, run_staticcall _ (Memory.read_write m 0x400 [x, y, s]) hmul,
      run_yulIf_zero _ (show iszero 1 = 0 from rfl), run_mload, run_mstore, run_mload, run_mstore,
      run_staticcall _ hread hadd]
    rfl
  refine ⟨_, hrun, ?_, Memory.read_write _ 0x80 (c.words₁ (s.toNat • P + X))⟩
  rw [Memory.write_of_lt _ _ (by decide), Memory.write_of_lt m₁ _ (by decide)]
  exact (Memory.write_of_lt m _ (by decide)).trans hfree

/-- The words of `IC[i]`. -/
lemma words_IC (K : KeyPoints c coordinates) (i : Fin 8) :
    c.words₁ (K.IC i) = [(icWords i).1, (icWords i).2] := by
  have hcanonical : ∀ i, (icWords i).1.toNat < Bn254.q ∧ (icWords i).2.toNat < Bn254.q := by decide
  exact c.words₁_eq (K.IC_eq i) (hcanonical i).1 (hcanonical i).2

variable (pre) in
/-- **The accumulator after all steps** holds `vk_x` of the public signals.

**Proof sketch.** The constant point is stored, and each of the seven steps adds one product
(`g1MulAccC_spec`). -/
theorem computeVkX_spec (args : Args) (K : KeyPoints c coordinates) {m : Memory}
    (hfree : m 0x40 = 0x400) :
    ∃ m', computeVkX (args.env pre.call) 260 0x80 m = .ok ((), m') ∧
      Holds c m' (K.vkX fun i => (args.pubSignals i).toNat) := by
  have hm₀ : Holds c (m.write 0x80 [IC0x, IC0y]) (K.IC 0) :=
    ⟨(Memory.write_of_lt m _ (by decide)).trans hfree,
      (Memory.read_write m 0x80 [IC0x, IC0y]).trans (words_IC K 0).symm⟩
  have henv : (args.env pre.call).precompile = pre.call := rfl
  obtain ⟨m₁, h₁, hm₁⟩ := g1MulAccC_spec henv hm₀ IC1x IC1y (words_IC K 1) (args.pubSignals 0)
  obtain ⟨m₂, h₂, hm₂⟩ := g1MulAccC_spec henv hm₁ IC2x IC2y (words_IC K 2) (args.pubSignals 1)
  obtain ⟨m₃, h₃, hm₃⟩ := g1MulAccC_spec henv hm₂ IC3x IC3y (words_IC K 3) (args.pubSignals 2)
  obtain ⟨m₄, h₄, hm₄⟩ := g1MulAccC_spec henv hm₃ IC4x IC4y (words_IC K 4) (args.pubSignals 3)
  obtain ⟨m₅, h₅, hm₅⟩ := g1MulAccC_spec henv hm₄ IC5x IC5y (words_IC K 5) (args.pubSignals 4)
  obtain ⟨m₆, h₆, hm₆⟩ := g1MulAccC_spec henv hm₅ IC6x IC6y (words_IC K 6) (args.pubSignals 5)
  obtain ⟨m₇, h₇, hm₇⟩ := g1MulAccC_spec henv hm₆ IC7x IC7y (words_IC K 7) (args.pubSignals 6)
  refine ⟨m₇, ?_, ?_⟩
  · rw [computeVkX, run_mstore, run_mstore]
    refine (run_bind _ h₁ _).trans ?_
    refine (run_bind _ h₂ _).trans ?_
    refine (run_bind _ h₃ _).trans ?_
    refine (run_bind _ h₄ _).trans ?_
    refine (run_bind _ h₅ _).trans ?_
    refine (run_bind _ h₆ _).trans ?_
    exact h₇
  · have hsum : K.vkX (fun i => (args.pubSignals i).toNat) =
        (args.pubSignals 6).toNat • K.IC 7 + ((args.pubSignals 5).toNat • K.IC 6 +
          ((args.pubSignals 4).toNat • K.IC 5 + ((args.pubSignals 3).toNat • K.IC 4 +
            ((args.pubSignals 2).toNat • K.IC 3 + ((args.pubSignals 1).toNat • K.IC 2 +
              ((args.pubSignals 0).toNat • K.IC 1 + K.IC 0)))))) := by
      rw [Groth16.Key.vkX, Fin.sum_univ_seven, add_comm]
      change _ • K.IC 1 + _ • K.IC 2 + _ • K.IC 3 + _ • K.IC 4 + _ • K.IC 5 + _ • K.IC 6 +
        _ • K.IC 7 + K.IC 0 = _
      ac_rfl
    rw [hsum]
    exact hm₇

/-! ## The pairing check -/

/-- The arguments that carry a proof: the coordinates of its points, those of `B` with the
imaginary parts first. -/
def Args.ofProof (c : Curve G₁ G₂ Gₜ) (π : Groth16.Proof G₁ G₂) (pubSignals : Fin 7 → Word) :
    Args where
  pA := ((c.affine₁ π.A).1.toWord, (c.affine₁ π.A).2.toWord)
  pB := (((c.affine₂ π.B).1.2.toWord, (c.affine₂ π.B).1.1.toWord),
    ((c.affine₂ π.B).2.2.toWord, (c.affine₂ π.B).2.1.toWord))
  pC := ((c.affine₁ π.C).1.toWord, (c.affine₁ π.C).2.toWord)
  pubSignals := pubSignals

/-- The words of `alpha`. -/
lemma words_alpha (K : KeyPoints c coordinates) : c.words₁ K.alpha = [alphax, alphay] :=
  c.words₁_eq K.alpha_eq (by decide) (by decide)

/-- The words of `beta`. -/
lemma words_beta (K : KeyPoints c coordinates) :
    c.words₂ K.beta = [betax1, betax2, betay1, betay2] :=
  c.words₂_eq K.beta_eq (by decide) (by decide) (by decide) (by decide)

/-- The words of `gamma`. -/
lemma words_gamma (K : KeyPoints c coordinates) :
    c.words₂ K.gamma = [gammax1, gammax2, gammay1, gammay2] :=
  c.words₂_eq K.gamma_eq (by decide) (by decide) (by decide) (by decide)

/-- The words of `delta`. -/
lemma words_delta (K : KeyPoints c coordinates) :
    c.words₂ K.delta = [deltax1, deltax2, deltay1, deltay2] :=
  c.words₂_eq K.delta_eq (by decide) (by decide) (by decide) (by decide)

/-- The words of the input of the pairing check, for the arguments of a call and an accumulator in
the memory `m`. -/
def pairingInput (args : Args) (m : Memory) : List Word :=
  [args.pA.1, mod (sub Groth16Verifier.q args.pA.2) Groth16Verifier.q, args.pB.1.1, args.pB.1.2,
    args.pB.2.1, args.pB.2.2, alphax, alphay, betax1, betax2, betay1, betay2, m 0x80, m 0xa0,
    gammax1, gammax2, gammay1, gammay2, args.pC.1, args.pC.2, deltax1, deltax2, deltay1, deltay2]

/-- The assembly writes this input as one block and calls the pairing check on it. -/
lemma run_checkProduct (args : Args) (f : ℕ → List Word → Option (List Word)) (m : Memory) :
    checkProduct (args.env f) 4 68 196 0x80 m =
      (staticcall (args.env f) 8 0x100 768 0x100 0x20 >>= fun success =>
        mload 0x100 >>= fun result => pure (Evm.and success result))
        (m.write 0x100 (pairingInput args m)) := by
  rw [checkProduct]
  simp only [run_mstore, run_mload]
  rfl

/-- The input for a proof: the pairs `(-A, B)`, `(alpha, beta)`, `(X, gamma)` and `(C, delta)`,
where `X` is the accumulator. -/
lemma pairingInput_ofProof (K : KeyPoints c coordinates) (π : Groth16.Proof G₁ G₂)
    (pubSignals : Fin 7 → Word) {m : Memory} {X : G₁} (hm : Holds c m X) :
    [(-π.A, π.B), (K.alpha, K.beta), (X, K.gamma), (π.C, K.delta)].flatMap
      (fun p => c.words₁ p.1 ++ c.words₂ p.2) = pairingInput (Args.ofProof c π pubSignals) m := by
  have hX : c.words₁ X = [m 0x80, m 0xa0] := hm.acc.symm
  have hA : c.words₁ (-π.A) = [(c.affine₁ π.A).1.toWord,
      mod (sub Groth16Verifier.q (c.affine₁ π.A).2.toWord) Groth16Verifier.q] := by
    rw [Curve.words₁, c.affine₁_neg, Fq.mod_sub]
  simp only [List.flatMap_cons, List.flatMap_nil, words_alpha K, words_beta K, words_gamma K,
    words_delta K, hX, hA]
  rfl

/-- **The pairing check** answers for the pairs `(-A, B)`, `(alpha, beta)`, `(X, gamma)` and
`(C, delta)`. -/
theorem checkProduct_spec (K : KeyPoints c coordinates) (π : Groth16.Proof G₁ G₂)
    (pubSignals : Fin 7 → Word) {m : Memory} {X : G₁} (hm : Holds c m X) {w : Word}
    (hcall : pre.call 8 ([(-π.A, π.B), (K.alpha, K.beta), (X, K.gamma), (π.C, K.delta)].flatMap
      fun p => c.words₁ p.1 ++ c.words₂ p.2) = some [w]) :
    ∃ m', checkProduct ((Args.ofProof c π pubSignals).env pre.call) 4 68 196 0x80 m =
      .ok (Evm.and 1 w, m') := by
  rw [pairingInput_ofProof K π pubSignals hm] at hcall
  have hread := Memory.read_write m 0x100 (pairingInput (Args.ofProof c π pubSignals) m)
  rw [run_checkProduct, run_staticcall _ hread hcall, run_mload]
  exact ⟨_, rfl⟩

/-! ## The range checks -/

/-- A signal in range passes its check. -/
lemma run_checkField_lt {α : Type} {v : Word} (hv : v.toNat < Bn254.r) (m : Memory)
    (k : Unit → Exec α) : (checkField v >>= k) m = k () m := by
  have hlt : iszero (lt v Groth16Verifier.r) = 0 := by
    rw [lt, if_pos (show v.toNat < Groth16Verifier.r.toNat from hv)]
    rfl
  exact run_yulIf_zero m hlt returnFalse k

/-- A signal out of range ends the call with `false`. -/
lemma run_checkField_ge {α : Type} {v : Word} (hv : Bn254.r ≤ v.toNat) (m : Memory)
    (k : Unit → Exec α) : (checkField v >>= k) m = .error [0] := by
  have hlt : iszero (lt v Groth16Verifier.r) ≠ 0 := by
    rw [lt, if_neg (show ¬v.toNat < Groth16Verifier.r.toNat from hv.not_gt)]
    decide
  exact run_yulIf_error m hlt rfl k

/-- Signals in range pass all checks. -/
lemma run_checkFields_lt {α : Type} (vs : List Word) (hvs : ∀ v ∈ vs, v.toNat < Bn254.r)
    (rest : Exec α) (m : Memory) :
    (vs.foldr (fun v next => checkField v >>= fun _ => next) rest) m = rest m := by
  induction vs with
  | nil => rfl
  | cons v vs ih =>
    rw [List.foldr_cons, run_checkField_lt (hvs v List.mem_cons_self)]
    exact ih fun w hw => hvs w (List.mem_cons_of_mem v hw)

/-- One signal out of range ends the call with `false`. -/
lemma run_checkFields_ge {α : Type} (vs : List Word) (hvs : ∃ v ∈ vs, Bn254.r ≤ v.toNat)
    (rest : Exec α) (m : Memory) :
    (vs.foldr (fun v next => checkField v >>= fun _ => next) rest) m = .error [0] := by
  induction vs with
  | nil => simp at hvs
  | cons v vs ih =>
    rw [List.foldr_cons]
    rcases Nat.lt_or_ge v.toNat Bn254.r with hv | hv
    · rw [run_checkField_lt hv]
      obtain ⟨w, hw, hge⟩ := hvs
      rcases List.mem_cons.mp hw with rfl | hw
      · omega
      · exact ih ⟨w, hw, hge⟩
    · exact run_checkField_ge hv m _

/-! ## The contract's decision -/

/-- The contract rejects signals out of range, whatever the proof is. -/
lemma verifyProof_of_ge (f : ℕ → List Word → Option (List Word)) (args : Args)
    (hpub : ∃ i, Bn254.r ≤ (args.pubSignals i).toNat) : verifyProof f args = 0 := by
  obtain ⟨i, hi⟩ := hpub
  have hbody : body (args.env f) 4 68 196 260 initialMemory = .error [0] :=
    run_checkFields_ge (List.ofFn args.pubSignals) ⟨_, List.mem_ofFn.mpr ⟨i, rfl⟩, hi⟩ _ _
  rw [verifyProof, returned, hbody]
  rfl

/-- On signals in range the contract checks the equation.

**Proof sketch.** The checks pass, the accumulator holds `vk_x`, and the pairing precompile is
called on the four pairs of the equation. -/
lemma verifyProof_of_lt (K : KeyPoints c coordinates) (π : Groth16.Proof G₁ G₂)
    {pubSignals : Fin 7 → Word} (hpub : ∀ i, (pubSignals i).toNat < Bn254.r) :
    verifyProof pre.call (Args.ofProof c π pubSignals) = 1 ↔
      Groth16.Accepts c.e K.toKey (fun i => (pubSignals i).toNat) π := by
  let args := Args.ofProof c π pubSignals
  obtain ⟨m₁, hrun₁, hm₁⟩ := computeVkX_spec pre args K
    (show (initialMemory.set 0x40 0x400) 0x40 = 0x400 from rfl)
  have hreturned : ∀ w : Word, pre.call 8 ([(-π.A, π.B), (K.alpha, K.beta),
      (K.vkX fun i => (pubSignals i).toNat, K.gamma), (π.C, K.delta)].flatMap
        fun p => c.words₁ p.1 ++ c.words₂ p.2) = some [w] →
      verifyProof pre.call args = Evm.and 1 w := by
    intro w hw
    obtain ⟨m₂, hrun₂⟩ := checkProduct_spec K π pubSignals hm₁ hw
    have hbody : body (args.env pre.call) 4 68 196 260 initialMemory = .error [Evm.and 1 w] := by
      refine (run_checkFields_lt (List.ofFn pubSignals) ?_ _ _).trans ?_
      · exact (List.forall_mem_ofFn_iff ..).mpr hpub
      · have hpairing : checkPairing (args.env pre.call) 4 68 196 260 0x80
            (initialMemory.set 0x40 0x400) = .ok (Evm.and 1 w, m₂) :=
          (run_bind _ hrun₁ _).trans hrun₂
        exact (run_bind _ hpairing _).trans rfl
    rw [verifyProof, returned, hbody]
    rfl
  rw [← Groth16.accepts_iff_sum_eq_zero (.refl _)]
  constructor
  · intro hone
    by_contra hne
    rw [hreturned 0 (pre.call_pairing_ne _ hne)] at hone
    exact absurd hone (by decide)
  · intro hzero
    rw [hreturned 1 (pre.call_pairing _ hzero)]
    rfl

/-- **The decision of the contract** on a proof of valid points: the signals are in range and the
equation holds for the points of the contract's key. -/
theorem verifyProof_eq_one_iff (K : KeyPoints c coordinates) (π : Groth16.Proof G₁ G₂)
    (pubSignals : Fin 7 → Word) :
    verifyProof pre.call (Args.ofProof c π pubSignals) = 1 ↔
      (∀ i, (pubSignals i).toNat < Bn254.r) ∧
        Groth16.Accepts c.e K.toKey (fun i => (pubSignals i).toNat) π := by
  by_cases hpub : ∀ i, (pubSignals i).toNat < Bn254.r
  · rw [verifyProof_of_lt K π hpub, and_iff_right hpub]
  · obtain ⟨i, hi⟩ := not_forall.mp hpub
    rw [verifyProof_of_ge _ (Args.ofProof c π pubSignals) ⟨i, Nat.le_of_not_lt hi⟩]
    exact iff_of_false (by decide) fun h => hpub h.1

end Run

end Groth16Verifier
