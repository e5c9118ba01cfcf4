import Mathlib.Data.ZMod.ValMinAbs
import ZkpAuth.PublishedKeys

/-!
# A model of the assumptions

The decisions of the two verifiers are proved from assumptions on the groups, the precompiled
contracts and the curve library.  This file satisfies them.  Over any curve, the precompiled
contracts and the library can be had by reading coordinates back as points.  For a curve, the
groups are taken to be the exponents `Fr` themselves, paired by multiplication; the points of the
published keys get their published coordinates and all others get distinct ones.

## Main definitions

* `Bn254.Curve.precompiles`, `Bn254.Curve.engine` — the operations over any curve.
* `Bn254.exponentCurve` — the exponents as a curve.
* `Bn254.contractKey`, `Bn254.jsonKey` — the points of the published keys on it.
-/

set_option relaxedAutoImplicit false
set_option autoImplicit false

open Evm

namespace Bn254

/-! ## The operations over any curve -/

section Operations

open Classical

variable {G₁ G₂ Gₜ : Type} [AddCommGroup G₁] [AddCommGroup G₂] [AddCommGroup Gₜ]
  (c : Curve G₁ G₂ Gₜ)

/-- A coordinate is determined by its word. -/
lemma Fq.toWord_injective : Function.Injective Fq.toWord := by
  intro x y h
  have hlt : ∀ z : Fq, z.val < 2 ^ 256 := fun z => (ZMod.val_lt z).trans (by decide)
  have hval := congrArg BitVec.toNat h
  rw [Fq.toWord, Fq.toWord, BitVec.toNat_ofNat, BitVec.toNat_ofNat, Nat.mod_eq_of_lt (hlt x),
    Nat.mod_eq_of_lt (hlt y)] at hval
  exact ZMod.val_injective q hval

/-- A point of the first group is determined by its words. -/
lemma Curve.words₁_injective : Function.Injective c.words₁ := by
  intro P Q h
  simp only [words₁, List.cons.injEq, and_true, Fq.toWord_injective.eq_iff] at h
  exact c.affine₁_injective (Prod.ext h.1 h.2)

/-- A point of the second group is determined by its words. -/
lemma Curve.words₂_injective : Function.Injective c.words₂ := by
  intro P Q h
  simp only [words₂, List.cons.injEq, and_true, Fq.toWord_injective.eq_iff] at h
  obtain ⟨h₁, h₂, h₃, h₄⟩ := h
  exact c.affine₂_injective (Prod.ext (Prod.ext h₂ h₁) (Prod.ext h₄ h₃))

/-- The element with a given code, if there is one. -/
noncomputable def decode {α β : Type} (code : α → β) (b : β) : Option α :=
  if h : ∃ a, code a = b then some h.choose else none

/-- Under an injective code, an element is decoded to itself. -/
lemma decode_code {α β : Type} {code : α → β} (hcode : Function.Injective code) (a : α) :
    decode code (code a) = some a := by
  have h : ∃ a', code a' = code a := ⟨a, rfl⟩
  rw [decode, dif_pos h, hcode h.choose_spec]

/-- The sum of the pairings of a list of words. -/
noncomputable def Curve.pairingSum : List Word → Option Gₜ
  | [] => some 0
  | x :: y :: a :: b :: d :: e :: ws =>
    match decode c.words₁ [x, y], decode c.words₂ [a, b, d, e], pairingSum ws with
    | some P, some Q, some s => some (c.e P Q + s)
    | _, _, _ => none
  | _ => none

/-- The pairings of a list of points. -/
lemma Curve.pairingSum_flatMap (L : List (G₁ × G₂)) :
    c.pairingSum (L.flatMap fun p => c.words₁ p.1 ++ c.words₂ p.2) =
      some (L.map fun p => c.e p.1 p.2).sum := by
  induction L with
  | nil => rfl
  | cons p L ih =>
    have h₁ := decode_code c.words₁_injective p.1
    have h₂ := decode_code c.words₂_injective p.2
    rw [words₁] at h₁
    rw [words₂] at h₂
    simp only [List.flatMap_cons, words₁, words₂, List.cons_append, List.nil_append, pairingSum,
      h₁, h₂]
    simp only [words₁, words₂, List.cons_append, List.nil_append] at ih
    rw [ih]
    rfl

/-- The precompiled contracts over a curve: they fail on words that are not points. -/
noncomputable def Curve.precompile : ℕ → List Word → Option (List Word)
  | 6, [x, y, x', y'] =>
    match decode c.words₁ [x, y], decode c.words₁ [x', y'] with
    | some P, some Q => some (c.words₁ (P + Q))
    | _, _ => none
  | 7, [x, y, s] => (decode c.words₁ [x, y]).map fun P => c.words₁ (s.toNat • P)
  | 8, ws => (c.pairingSum ws).map fun s => [if s = 0 then 1 else 0]
  | _, _ => none

/-- They compute addition, multiplication and the pairing check. -/
noncomputable def Curve.precompiles : Precompiles c where
  call := c.precompile
  call_add P Q := by
    have hP := decode_code c.words₁_injective P
    have hQ := decode_code c.words₁_injective Q
    rw [words₁] at hP hQ
    simp only [words₁, List.cons_append, List.nil_append, precompile, hP, hQ]
  call_mul P s := by
    have hP := decode_code c.words₁_injective P
    rw [words₁] at hP
    simp only [words₁, List.cons_append, List.nil_append, precompile, hP, Option.map_some]
  call_pairing L hL := by
    rw [precompile, c.pairingSum_flatMap, hL, Option.map_some, if_pos rfl]
  call_pairing_ne L hL := by
    rw [precompile, c.pairingSum_flatMap, Option.map_some, if_neg hL]

/-- The curve library over a curve: a buffer holds a point or garbage. -/
noncomputable def Curve.engine : Snarkjs.Engine where
  G1 :=
    { Buffer := Option G₁
      ofAffine := fun x y => decode c.affine₁ (x, y)
      ofJacobian := fun _ _ _ => none
      isValid := Option.isSome }
  G2 :=
    { Buffer := Option G₂
      ofAffine := fun x y => decode c.affine₂ (x, y)
      ofJacobian := fun _ _ _ => none
      isValid := Option.isSome }
  neg := Option.map fun P => -P
  add a b := some (a.getD 0 + b.getD 0)
  multiExpAffine _ b s := some (∑ i, s i • (b i).getD 0)
  pairingEq bs := decide ((bs.map fun b => c.e (b.1.getD 0) (b.2.getD 0)).sum = 0)

/-- It computes in the groups of the curve. -/
noncomputable def Curve.engine_lawful : c.engine.Lawful c where
  Rep₁ b P := b = some P
  Rep₂ b Q := b = some Q
  rep₁_ofAffine P := decode_code c.affine₁_injective P
  rep₂_ofAffine Q := decode_code c.affine₂_injective Q
  isValid₁ h := by rw [h]; rfl
  isValid₂ h := by rw [h]; rfl
  rep₁_neg h := by rw [h]; rfl
  rep₁_add ha hb := by rw [ha, hb]; rfl
  rep₁_multiExpAffine s _ h := by
    change some _ = some _
    simp only [h, Option.getD_some]
  pairingEq h := by
    have hsum : ∀ {bs : List (Option G₁ × Option G₂)} {ps : List (G₁ × G₂)},
        List.Forall₂ (fun b p => b.1 = some p.1 ∧ b.2 = some p.2) bs ps →
        (bs.map fun b => c.e (b.1.getD 0) (b.2.getD 0)) = ps.map fun p => c.e p.1 p.2 := by
      intro bs ps hbs
      induction hbs with
      | nil => rfl
      | cons hb _ ih => rw [List.map_cons, List.map_cons, ih, hb.1, hb.2]; rfl
    exact decide_eq_true_iff.trans (by rw [hsum h])

end Operations

/-! ## The exponents as groups -/

/-- The published points of the first group: `alpha` and `IC[0]` to `IC[7]`. -/
def published₁ : Fin 9 → Fq × Fq :=
  Fin.cons Groth16Verifier.coordinates.alpha Groth16Verifier.coordinates.IC

/-- The coordinates of the exponent `n + 1`: a published point, or a point with the second
coordinate `1`. -/
def point₁ (n : ℕ) : Fq × Fq := if h : n < 9 then published₁ ⟨n, h⟩ else ((n : Fq), 1)

/-- The second coordinates of the published points are distinct up to sign, and none is one or
minus one. -/
lemma published₁_snd : ∀ i : Fin 9, (published₁ i).2 ≠ 1 ∧ (published₁ i).2 ≠ -1 ∧
    ∀ j : Fin 9, (published₁ i).2 ≠ -(published₁ j).2 ∧
      ((published₁ i).2 = (published₁ j).2 → i = j) := by
  decide +kernel

/-- No point is another one with its second coordinate negated. -/
lemma point₁_ne_neg (m n : ℕ) : (point₁ m).2 ≠ -(point₁ n).2 := by
  by_cases hm : m < 9 <;> by_cases hn : n < 9
  · rw [point₁, point₁, dif_pos hm, dif_pos hn]
    exact ((published₁_snd ⟨m, hm⟩).2.2 ⟨n, hn⟩).1
  · rw [point₁, point₁, dif_pos hm, dif_neg hn]
    exact (published₁_snd ⟨m, hm⟩).2.1
  · rw [point₁, point₁, dif_neg hm, dif_pos hn]
    exact fun h => (published₁_snd ⟨n, hn⟩).2.1 (neg_eq_iff_eq_neg.mp h.symm)
  · rw [point₁, point₁, dif_neg hm, dif_neg hn]
    exact (by decide : (1 : Fq) ≠ -1)

/-- Distinct exponents have distinct points. -/
lemma point₁_inj {m n : ℕ} (hm : m < q) (hn : n < q) (h : point₁ m = point₁ n) : m = n := by
  by_cases hm9 : m < 9 <;> by_cases hn9 : n < 9
  · rw [point₁, point₁, dif_pos hm9, dif_pos hn9] at h
    exact congrArg Fin.val (((published₁_snd ⟨m, hm9⟩).2.2 ⟨n, hn9⟩).2 (congrArg Prod.snd h))
  · rw [point₁, point₁, dif_pos hm9, dif_neg hn9] at h
    exact absurd (congrArg Prod.snd h) (published₁_snd ⟨m, hm9⟩).1
  · rw [point₁, point₁, dif_neg hm9, dif_pos hn9] at h
    exact absurd (congrArg Prod.snd h).symm (published₁_snd ⟨n, hn9⟩).1
  · rw [point₁, point₁, dif_neg hm9, dif_neg hn9] at h
    have hval := congrArg ZMod.val (congrArg Prod.fst h)
    rwa [ZMod.val_cast_of_lt hm, ZMod.val_cast_of_lt hn] at hval

/-- The coordinates of an exponent in the first group. -/
def coordinates₁ : ℤ → Fq × Fq
  | .ofNat 0 => 0
  | .ofNat (n + 1) => point₁ n
  | .negSucc n => ((point₁ n).1, -(point₁ n).2)

/-- The coordinates of the opposite exponent. -/
lemma coordinates₁_neg (z : ℤ) :
    coordinates₁ (-z) = ((coordinates₁ z).1, -(coordinates₁ z).2) := by
  match z with
  | .ofNat 0 => exact Prod.ext rfl neg_zero.symm
  | .ofNat (n + 1) => rfl
  | .negSucc n => exact Prod.ext rfl (neg_neg _).symm

/-- Exponents of small absolute value have distinct coordinates.

**Proof sketch.** The second coordinate tells zero, positive and negative numbers apart; the first
then gives the absolute value. -/
lemma coordinates₁_inj {y z : ℤ} (hy : y.natAbs < q) (hz : z.natAbs < q)
    (h : coordinates₁ y = coordinates₁ z) : y = z := by
  have hzero : ∀ n, (point₁ n).2 ≠ 0 := by
    intro n h0
    have hne := point₁_ne_neg n n
    rw [h0, neg_zero] at hne
    exact hne rfl
  match y, z, h with
  | .ofNat 0, .ofNat 0, _ => rfl
  | .ofNat 0, .ofNat (n + 1), h => exact absurd (congrArg Prod.snd h).symm (hzero n)
  | .ofNat 0, .negSucc n, h =>
    exact absurd (congrArg Prod.snd h).symm (neg_ne_zero.mpr (hzero n))
  | .ofNat (m + 1), .ofNat 0, h => exact absurd (congrArg Prod.snd h) (hzero m)
  | .ofNat (m + 1), .ofNat (n + 1), h =>
    have hmn : m = n := point₁_inj (Nat.lt_of_succ_lt hy) (Nat.lt_of_succ_lt hz) h
    rw [hmn]
  | .ofNat (m + 1), .negSucc n, h => exact absurd (congrArg Prod.snd h) (point₁_ne_neg m n)
  | .negSucc m, .ofNat 0, h => exact absurd (congrArg Prod.snd h) (neg_ne_zero.mpr (hzero m))
  | .negSucc m, .ofNat (n + 1), h =>
    exact absurd (congrArg Prod.snd h).symm (point₁_ne_neg n m)
  | .negSucc m, .negSucc n, h =>
    change ((point₁ m).1, -(point₁ m).2) = ((point₁ n).1, -(point₁ n).2) at h
    rw [Prod.mk.injEq, neg_inj] at h
    have hpoint : point₁ m = point₁ n := Prod.ext h.1 h.2
    have hmn : m = n := point₁_inj (Nat.lt_of_succ_lt hy) (Nat.lt_of_succ_lt hz) hpoint
    rw [hmn]

/-- The published points of the second group: infinity, the contract's `gamma` and `beta`, and the
`delta` of the JSON key. -/
def published₂ : Fin 4 → Fq2 × Fq2 :=
  ![0, Groth16Verifier.coordinates.gamma, Groth16Verifier.coordinates.beta,
    Snarkjs.verificationKeyJson.coordinates.delta]

/-- The coordinates of the exponent `n` in the second group. -/
def coordinates₂ (n : ℕ) : Fq2 × Fq2 :=
  if h : n < 4 then published₂ ⟨n, h⟩ else (((n : Fq), 0), (0, 1))

/-- The published points of the second group are distinct, and none has the second coordinate
`(0, 1)`. -/
lemma published₂_snd : ∀ i : Fin 4, (published₂ i).2 ≠ (0, 1) ∧
    ∀ j : Fin 4, (published₂ i).2 = (published₂ j).2 → i = j := by
  decide +kernel

/-- Distinct exponents have distinct coordinates. -/
lemma coordinates₂_inj {m n : ℕ} (hm : m < q) (hn : n < q)
    (h : coordinates₂ m = coordinates₂ n) : m = n := by
  by_cases hm4 : m < 4 <;> by_cases hn4 : n < 4
  · rw [coordinates₂, coordinates₂, dif_pos hm4, dif_pos hn4] at h
    exact congrArg Fin.val ((published₂_snd ⟨m, hm4⟩).2 ⟨n, hn4⟩ (congrArg Prod.snd h))
  · rw [coordinates₂, coordinates₂, dif_pos hm4, dif_neg hn4] at h
    exact absurd (congrArg Prod.snd h) (published₂_snd ⟨m, hm4⟩).1
  · rw [coordinates₂, coordinates₂, dif_neg hm4, dif_pos hn4] at h
    exact absurd (congrArg Prod.snd h).symm (published₂_snd ⟨n, hn4⟩).1
  · rw [coordinates₂, coordinates₂, dif_neg hm4, dif_neg hn4] at h
    have hval := congrArg ZMod.val (congrArg Prod.fst (congrArg Prod.fst h))
    rwa [ZMod.val_cast_of_lt hm, ZMod.val_cast_of_lt hn] at hval

/-- The exponents, paired by multiplication, as a curve. -/
def exponentCurve : Curve Fr Fr Fr where
  e := AddMonoidHom.mul
  card_left := Nat.card_zmod r
  card_right := Nat.card_zmod r
  exists_ne_zero := ⟨1, 1, by decide⟩
  affine₁ x := coordinates₁ x.valMinAbs
  affine₂ x := coordinates₂ x.val
  affine₁_injective x y h := by
    have hlt : ∀ z : Fr, z.valMinAbs.natAbs < q := fun z =>
      (ZMod.natAbs_valMinAbs_le z).trans_lt (by decide)
    exact ZMod.injective_valMinAbs (coordinates₁_inj (hlt x) (hlt y) h)
  affine₂_injective x y h := by
    have hlt : ∀ z : Fr, z.val < q := fun z => (ZMod.val_lt z).trans (by decide)
    exact ZMod.val_injective r (coordinates₂_inj (hlt x) (hlt y) h)
  affine₁_zero := by
    rw [ZMod.valMinAbs_zero]
    rfl
  affine₂_zero := by
    rw [ZMod.val_zero]
    rfl
  affine₁_neg x := by
    have hodd : 2 * x.val ≠ r := by
      have hr : r % 2 = 1 := by decide
      omega
    rw [ZMod.valMinAbs_neg_of_ne_half hodd, coordinates₁_neg]

/-- A small exponent has its base point. -/
lemma exponentCurve_affine₁ {n : ℕ} (hn : n < 9) :
    exponentCurve.affine₁ ((n + 1 : ℕ) : Fr) = published₁ ⟨n, hn⟩ := by
  have hhalf : n + 1 ≤ r / 2 := hn.trans (by decide)
  change coordinates₁ ((n + 1 : ℕ) : Fr).valMinAbs = _
  rw [ZMod.valMinAbs_natCast_of_le_half hhalf]
  exact dif_pos hn

/-- The points of the contract's key among the exponents. -/
def contractKey : KeyPoints exponentCurve Groth16Verifier.coordinates where
  alpha := ((0 + 1 : ℕ) : Fr)
  beta := (2 : ℕ)
  gamma := 1
  delta := 1
  IC i := ((i.val + 2 : ℕ) : Fr)
  alpha_eq := (exponentCurve_affine₁ (by decide)).trans rfl
  beta_eq := rfl
  gamma_eq := rfl
  delta_eq := rfl
  IC_eq i := exponentCurve_affine₁ (show i.val + 1 < 9 from Nat.succ_lt_succ i.isLt)

/-- The points of the committed JSON key among the exponents. -/
def jsonKey : KeyPoints exponentCurve Snarkjs.verificationKeyJson.coordinates where
  alpha := ((0 + 1 : ℕ) : Fr)
  beta := (2 : ℕ)
  gamma := 1
  delta := (3 : ℕ)
  IC i := ((i.val + 2 : ℕ) : Fr)
  alpha_eq := (exponentCurve_affine₁ (by decide)).trans rfl
  beta_eq := rfl
  gamma_eq := rfl
  delta_eq := rfl
  IC_eq i := by
    rw [json_coordinates_eq]
    exact contractKey.IC_eq i

end Bn254
