import ZkpAuth.Curve

/-!
# The off-chain verifier

`snarkjs/src/groth16_verify.js` over the key of `build/verification_key.json`.  Points are JSON
triples of decimal numbers.  `fromObject` turns them into buffers of the curve library, which is
a parameter: a buffer is made from coordinates, and the library's operations on buffers that
represent points of the groups are those of the groups.

## Main definitions

* `Snarkjs.VerificationKey`, `Snarkjs.Proof` — the JSON objects.
* `Snarkjs.Engine`, `Snarkjs.Engine.Lawful` — the curve library and what it does on points.
* `Snarkjs.groth16Verify` — the verifier.
* `Snarkjs.verificationKeyJson` — the committed key.

## Main results

* `Snarkjs.groth16Verify_iff` — the verifier checks the range of the signals and the Groth16
  equation.
-/

set_option relaxedAutoImplicit false
set_option autoImplicit false

open Bn254

namespace Snarkjs

/-! ## JSON objects -/

/-- A point as a JSON triple of projective coordinates. -/
structure JsonPoint (F : Type) where
  x : F
  y : F
  z : F

/-- A verification key for `n` public signals. -/
structure VerificationKey (n : ℕ) where
  vkAlpha1 : JsonPoint ℕ
  vkBeta2 : JsonPoint (ℕ × ℕ)
  vkGamma2 : JsonPoint (ℕ × ℕ)
  vkDelta2 : JsonPoint (ℕ × ℕ)
  IC : Fin (n + 1) → JsonPoint ℕ

/-- A proof. -/
structure Proof where
  piA : JsonPoint ℕ
  piB : JsonPoint (ℕ × ℕ)
  piC : JsonPoint ℕ

/-- `build/verification_key.json`. -/
def verificationKeyJson : VerificationKey 7 where
  vkAlpha1 :=
    ⟨17785345053487026539319433691531194050331190382856040630627482350377211694406,
      11548238166543908736637845453325726504404188506374459469695138008119088751777, 1⟩
  vkBeta2 :=
    ⟨(20841818222799041901040565042286958715461825249801686635088345376650768700608,
        21397580909934219844253389383059188933931642868041216208578795678427139239165),
      (2870055473651996442890862100534463330875619417052988263206466947638678520442,
        7776214614132224676816388990534575146027427790743514170398491978122269244873), (1, 0)⟩
  vkGamma2 :=
    ⟨(10857046999023057135944570762232829481370756359578518086990519993285655852781,
        11559732032986387107991004021392285783925812861821192530917403151452391805634),
      (8495653923123431417604973247489272438418190587263600148770280649306958101930,
        4082367875863433681332203403145435568316851327593401208105741076214120093531), (1, 0)⟩
  vkDelta2 :=
    ⟨(13069229716581643452290809588601769088322359799125183003449915854954133426939,
        4024998919142826251449087951042292469272770700951125008837498188126201243345),
      (11967902506529685095268324909423802997776348189620872412905774980872443950606,
        3230925460983294837763497347816551023875060050449130712489843380252427799422), (1, 0)⟩
  IC := ![
      ⟨9809111566480429415680000581208377376165090572108236588372408265420585093366,
        5398470609576608433558166702145665852658049477862037872217108933053653936256, 1⟩,
      ⟨15989911052097474718990738401229620968285237234475632669182539403947493986945,
        3987613908114533341417860929870541126027828670813878844532056205974904706445, 1⟩,
      ⟨9210838787686879935443231615353376351343665960795188870161300318404972815743,
        4849821925462563855680619235225621274169707603344247124852900928140425979637, 1⟩,
      ⟨10639795795837638344646161125198997534541514788108952026419752386480949090388,
        20123932729477750856518480258715882169281677023156986096704757212207065931158, 1⟩,
      ⟨54559417831398480471284003286103622703912189495552428373230553594191654159,
        12010850625050810590762420709198414346577312262021534975508772080583890259539, 1⟩,
      ⟨12872171167033179474014525108382245637520524225064012357044173746487250053478,
        13538114455360593807377461537192798938062462778660320075425210311534170837928, 1⟩,
      ⟨4027597120004202452302007947843628155457038578501165420586449326421034774093,
        1481754064847475312914124535876699525010295601407796337657834479575183774135, 1⟩,
      ⟨15241413211719014611264042548781425492311836975001195845658868104535177680489,
        3902270210117145523098277415283027132817774061250690576253794986774411132684, 1⟩]

/-! ## The curve library -/

/-- The buffers of one group over the coordinates `F`. -/
structure Group (F : Type) where
  /-- Byte arrays that hold points. -/
  Buffer : Type
  /-- A buffer of two coordinates. -/
  ofAffine : F → F → Buffer
  /-- A buffer of three coordinates. -/
  ofJacobian : F → F → F → Buffer
  /-- `isValid`. -/
  isValid : Buffer → Bool

/-- `fromObject`, where `one` is the one of the coordinate field: the point at infinity, an affine
buffer or a Jacobian one, by the third coordinate. -/
def Group.fromObject {F : Type} [Zero F] [DecidableEq F] (G : Group F) (one : F)
    (o : JsonPoint F) : G.Buffer :=
  if o.z = 0 then G.ofAffine 0 0
  else if o.z = one then G.ofAffine o.x o.y
  else G.ofJacobian o.x o.y o.z

/-- The operations of the curve library that the verifier uses. -/
structure Engine where
  /-- The first group, over `Fq`. -/
  G1 : Group Fq
  /-- The second group, over the extension. -/
  G2 : Group Fq2
  /-- `G1.neg`. -/
  neg : G1.Buffer → G1.Buffer
  /-- `G1.add`. -/
  add : G1.Buffer → G1.Buffer → G1.Buffer
  /-- `G1.multiExpAffine`. -/
  multiExpAffine : (n : ℕ) → (Fin n → G1.Buffer) → (Fin n → ℕ) → G1.Buffer
  /-- `pairingEq`, on pairs of buffers. -/
  pairingEq : List (G1.Buffer × G2.Buffer) → Bool

/-- `G1.fromObject` on decimal numbers, which are reduced. -/
def Engine.fromObject₁ (E : Engine) (o : JsonPoint ℕ) : E.G1.Buffer :=
  E.G1.fromObject 1 ⟨(o.x : Fq), (o.y : Fq), (o.z : Fq)⟩

/-- A pair of decimal numbers, reduced. -/
def toFq2 (a : ℕ × ℕ) : Fq2 := ((a.1 : Fq), (a.2 : Fq))

/-- `G2.fromObject` on decimal numbers, which are reduced. -/
def Engine.fromObject₂ (E : Engine) (o : JsonPoint (ℕ × ℕ)) : E.G2.Buffer :=
  E.G2.fromObject (1, 0) ⟨toFq2 o.x, toFq2 o.y, toFq2 o.z⟩

section Lawful

variable {G₁ G₂ Gₜ : Type} [AddCommGroup G₁] [AddCommGroup G₂] [AddCommGroup Gₜ]

/-- What the curve library does on buffers that represent points of the groups. -/
structure Engine.Lawful (E : Engine) (c : Curve G₁ G₂ Gₜ) where
  /-- The point that a buffer represents. -/
  Rep₁ : E.G1.Buffer → G₁ → Prop
  /-- The point that a buffer represents. -/
  Rep₂ : E.G2.Buffer → G₂ → Prop
  /-- The affine coordinates of a point make a buffer that represents it. -/
  rep₁_ofAffine : ∀ P, Rep₁ (E.G1.ofAffine (c.affine₁ P).1 (c.affine₁ P).2) P
  /-- The affine coordinates of a point make a buffer that represents it. -/
  rep₂_ofAffine : ∀ Q, Rep₂ (E.G2.ofAffine (c.affine₂ Q).1 (c.affine₂ Q).2) Q
  /-- Points of the group pass `isValid`. -/
  isValid₁ : ∀ {b P}, Rep₁ b P → E.G1.isValid b = true
  /-- Points of the group pass `isValid`. -/
  isValid₂ : ∀ {b Q}, Rep₂ b Q → E.G2.isValid b = true
  /-- `neg` negates. -/
  rep₁_neg : ∀ {b P}, Rep₁ b P → Rep₁ (E.neg b) (-P)
  /-- `add` adds. -/
  rep₁_add : ∀ {a b P Q}, Rep₁ a P → Rep₁ b Q → Rep₁ (E.add a b) (P + Q)
  /-- `multiExpAffine` sums the multiples, for scalars in range. -/
  rep₁_multiExpAffine : ∀ {n : ℕ} {b : Fin n → E.G1.Buffer} {P : Fin n → G₁} (s : Fin n → ℕ),
    (∀ i, s i < r) → (∀ i, Rep₁ (b i) (P i)) →
      Rep₁ (E.multiExpAffine n b s) (∑ i, s i • P i)
  /-- `pairingEq` tests the product of the pairings, the identities of both groups included.  The
  library's `prepareG2` and `millerLoop` have no test for the identity of the second group. -/
  pairingEq : ∀ {bs : List (E.G1.Buffer × E.G2.Buffer)} {ps : List (G₁ × G₂)},
    List.Forall₂ (fun b p => Rep₁ b.1 p.1 ∧ Rep₂ b.2 p.2) bs ps →
      (E.pairingEq bs = true ↔ (ps.map fun p => c.e p.1 p.2).sum = 0)

end Lawful

/-! ## The verifier -/

/-- `isWellConstructed`. -/
def isWellConstructed (E : Engine) (piA : E.G1.Buffer) (piB : E.G2.Buffer) (piC : E.G1.Buffer) :
    Bool :=
  E.G1.isValid piA && E.G2.isValid piB && E.G1.isValid piC

/-- `publicInputsAreValid`. -/
def publicInputsAreValid {n : ℕ} (publicInputs : Fin n → ℕ) : Bool :=
  decide (∀ i, publicInputs i < r)

/-- `groth16Verify`. -/
def groth16Verify {n : ℕ} (E : Engine) (vk : VerificationKey n) (publicSignals : Fin n → ℕ)
    (proof : Proof) : Bool :=
  let IC0 := E.fromObject₁ (vk.IC ⟨0, n.succ_pos⟩)
  if publicInputsAreValid publicSignals then
    let IC := fun i : Fin n => E.fromObject₁ (vk.IC i.succ)
    let cpub := E.add (E.multiExpAffine n IC publicSignals) IC0
    let piA := E.fromObject₁ proof.piA
    let piB := E.fromObject₂ proof.piB
    let piC := E.fromObject₁ proof.piC
    if isWellConstructed E piA piB piC then
      E.pairingEq [(E.neg piA, piB), (cpub, E.fromObject₂ vk.vkGamma2),
        (piC, E.fromObject₂ vk.vkDelta2), (E.fromObject₁ vk.vkAlpha1, E.fromObject₂ vk.vkBeta2)]
    else false
  else false

/-! ## Points as JSON objects -/

section Points

variable {n : ℕ} {G₁ G₂ Gₜ : Type} [AddCommGroup G₁] [AddCommGroup G₂] [AddCommGroup Gₜ]

/-- `G1.toObject` on a point. -/
def toObject₁ (c : Curve G₁ G₂ Gₜ) (P : G₁) : JsonPoint ℕ :=
  if c.affine₁ P = 0 then ⟨0, 1, 0⟩ else ⟨(c.affine₁ P).1.val, (c.affine₁ P).2.val, 1⟩

/-- The canonical numbers of a coordinate. -/
def ofFq2 (x : Fq2) : ℕ × ℕ := (x.1.val, x.2.val)

/-- `G2.toObject` on a point. -/
def toObject₂ (c : Curve G₁ G₂ Gₜ) (Q : G₂) : JsonPoint (ℕ × ℕ) :=
  if c.affine₂ Q = 0 then ⟨(0, 0), (1, 0), (0, 0)⟩
  else ⟨ofFq2 (c.affine₂ Q).1, ofFq2 (c.affine₂ Q).2, (1, 0)⟩

/-- The JSON object of a proof. -/
def Proof.ofPoints (c : Curve G₁ G₂ Gₜ) (π : Groth16.Proof G₁ G₂) : Proof where
  piA := toObject₁ c π.A
  piB := toObject₂ c π.B
  piC := toObject₁ c π.C

/-- The coordinates of a key whose points are affine. -/
def VerificationKey.coordinates (vk : VerificationKey n) : KeyCoordinates n where
  alpha := ((vk.vkAlpha1.x : Fq), (vk.vkAlpha1.y : Fq))
  beta := (toFq2 vk.vkBeta2.x, toFq2 vk.vkBeta2.y)
  gamma := (toFq2 vk.vkGamma2.x, toFq2 vk.vkGamma2.y)
  delta := (toFq2 vk.vkDelta2.x, toFq2 vk.vkDelta2.y)
  IC := fun i => (((vk.IC i).x : Fq), ((vk.IC i).y : Fq))

/-- The points of a key are affine. -/
structure VerificationKey.IsAffine (vk : VerificationKey n) : Prop where
  vkAlpha1 : vk.vkAlpha1.z = 1
  vkBeta2 : vk.vkBeta2.z = (1, 0)
  vkGamma2 : vk.vkGamma2.z = (1, 0)
  vkDelta2 : vk.vkDelta2.z = (1, 0)
  IC : ∀ i, (vk.IC i).z = 1

/-- The points of the committed key are affine. -/
theorem verificationKeyJson_isAffine : verificationKeyJson.IsAffine :=
  ⟨rfl, rfl, rfl, rfl, by decide⟩

end Points

/-! ## What the verifier decides -/

section Decision

variable {n : ℕ} {G₁ G₂ Gₜ : Type} [AddCommGroup G₁] [AddCommGroup G₂] [AddCommGroup Gₜ]
  {c : Curve G₁ G₂ Gₜ} {E : Engine} (hE : E.Lawful c)

include hE

/-- An affine object of the first group represents the point with its coordinates. -/
lemma rep₁_fromObject {o : JsonPoint ℕ} (ho : o.z = 1) {P : G₁}
    (hP : c.affine₁ P = ((o.x : Fq), (o.y : Fq))) : hE.Rep₁ (E.fromObject₁ o) P := by
  have hone : (1 : Fq) ≠ 0 := by decide
  have hrep := hE.rep₁_ofAffine P
  rw [hP] at hrep
  rw [Engine.fromObject₁, Group.fromObject, ho]
  simpa [hone] using hrep

/-- An affine object of the second group represents the point with its coordinates. -/
lemma rep₂_fromObject {o : JsonPoint (ℕ × ℕ)} (ho : o.z = (1, 0)) {Q : G₂}
    (hQ : c.affine₂ Q = (toFq2 o.x, toFq2 o.y)) : hE.Rep₂ (E.fromObject₂ o) Q := by
  have hone : ((1 : Fq), (0 : Fq)) ≠ 0 := by decide
  have hz : toFq2 o.z = (1, 0) := by
    rw [ho, toFq2, Nat.cast_one, Nat.cast_zero]
  have hrep := hE.rep₂_ofAffine Q
  rw [hQ] at hrep
  rw [Engine.fromObject₂, Group.fromObject, hz]
  simpa [hone] using hrep

/-- The object of a point of the first group represents it. -/
lemma rep₁_toObject (P : G₁) : hE.Rep₁ (E.fromObject₁ (toObject₁ c P)) P := by
  by_cases hP : c.affine₁ P = 0
  · have hrep := hE.rep₁_ofAffine P
    rw [hP] at hrep
    rw [toObject₁, if_pos hP, Engine.fromObject₁, Group.fromObject, if_pos Nat.cast_zero]
    exact hrep
  · rw [toObject₁, if_neg hP]
    refine rep₁_fromObject hE rfl ?_
    rw [ZMod.natCast_zmod_val, ZMod.natCast_zmod_val]

/-- The object of a point of the second group represents it. -/
lemma rep₂_toObject (Q : G₂) : hE.Rep₂ (E.fromObject₂ (toObject₂ c Q)) Q := by
  by_cases hQ : c.affine₂ Q = 0
  · have hrep := hE.rep₂_ofAffine Q
    rw [hQ] at hrep
    have hz : toFq2 (0, 0) = 0 := by
      rw [toFq2, Nat.cast_zero]
      rfl
    rw [toObject₂, if_pos hQ, Engine.fromObject₂, Group.fromObject, if_pos hz]
    exact hrep
  · rw [toObject₂, if_neg hQ]
    refine rep₂_fromObject hE rfl ?_
    simp only [toFq2, ofFq2, ZMod.natCast_zmod_val]

/-- The accumulated signals represent `vk_x`. -/
lemma rep₁_cpub {vk : VerificationKey n} (hvk : vk.IsAffine) (K : KeyPoints c vk.coordinates)
    {s : Fin n → ℕ} (hs : ∀ i, s i < r) :
    hE.Rep₁ (E.add (E.multiExpAffine n (fun i => E.fromObject₁ (vk.IC i.succ)) s)
      (E.fromObject₁ (vk.IC ⟨0, n.succ_pos⟩))) (K.vkX s) := by
  have hIC : ∀ i, hE.Rep₁ (E.fromObject₁ (vk.IC i)) (K.IC i) := fun i =>
    rep₁_fromObject hE (hvk.IC i) (K.IC_eq i)
  rw [Groth16.Key.vkX, add_comm (K.IC _)]
  exact hE.rep₁_add (hE.rep₁_multiExpAffine s hs fun i => hIC i.succ) (hIC _)

/-- On signals in range and a proof of valid points, the verifier reaches the pairing check, which
decides the equation for the key's points.

**Proof sketch.** The points are well formed, so the checks pass.  The pairs are those of the
equation in another order. -/
lemma groth16Verify_of_lt {vk : VerificationKey n} (hvk : vk.IsAffine)
    (K : KeyPoints c vk.coordinates) {s : Fin n → ℕ} (hs : ∀ i, s i < r)
    (π : Groth16.Proof G₁ G₂) :
    groth16Verify E vk s (Proof.ofPoints c π) = true ↔ Groth16.Accepts c.e K.toKey s π := by
  have hA := rep₁_toObject hE π.A
  have hB := rep₂_toObject hE π.B
  have hC := rep₁_toObject hE π.C
  have hwell : isWellConstructed E (E.fromObject₁ (toObject₁ c π.A))
      (E.fromObject₂ (toObject₂ c π.B)) (E.fromObject₁ (toObject₁ c π.C)) = true := by
    rw [isWellConstructed, hE.isValid₁ hA, hE.isValid₂ hB, hE.isValid₁ hC]
    rfl
  have hverify : groth16Verify E vk s (Proof.ofPoints c π) = E.pairingEq
      [(E.neg (E.fromObject₁ (toObject₁ c π.A)), E.fromObject₂ (toObject₂ c π.B)),
        (E.add (E.multiExpAffine n (fun i => E.fromObject₁ (vk.IC i.succ)) s)
          (E.fromObject₁ (vk.IC ⟨0, n.succ_pos⟩)), E.fromObject₂ vk.vkGamma2),
        (E.fromObject₁ (toObject₁ c π.C), E.fromObject₂ vk.vkDelta2),
        (E.fromObject₁ vk.vkAlpha1, E.fromObject₂ vk.vkBeta2)] := by
    rw [groth16Verify, publicInputsAreValid, decide_eq_true hs, if_pos rfl]
    exact if_pos hwell
  -- the same pairs as in the equation, with `alpha` and `beta` last
  have horder : [(-π.A, π.B), (K.vkX s, K.gamma), (π.C, K.delta), (K.alpha, K.beta)].Perm
      [(-π.A, π.B), (K.alpha, K.beta), (K.vkX s, K.gamma), (π.C, K.delta)] :=
    (@List.perm_append_comm _ [(K.vkX s, K.gamma), (π.C, K.delta)] _).cons _
  rw [hverify, ← Groth16.accepts_iff_sum_eq_zero horder]
  apply hE.pairingEq
  refine .cons ⟨hE.rep₁_neg hA, hB⟩ (.cons ⟨rep₁_cpub hE hvk K hs, ?_⟩ (.cons ⟨hC, ?_⟩
    (.cons ⟨?_, ?_⟩ .nil)))
  · exact rep₂_fromObject hE hvk.vkGamma2 K.gamma_eq
  · exact rep₂_fromObject hE hvk.vkDelta2 K.delta_eq
  · exact rep₁_fromObject hE hvk.vkAlpha1 K.alpha_eq
  · exact rep₂_fromObject hE hvk.vkBeta2 K.beta_eq

/-- **The decision of the off-chain verifier** on a proof of valid points: the signals are in range
and the equation holds for the key's points. -/
theorem groth16Verify_iff {vk : VerificationKey n} (hvk : vk.IsAffine)
    (K : KeyPoints c vk.coordinates) (s : Fin n → ℕ) (π : Groth16.Proof G₁ G₂) :
    groth16Verify E vk s (Proof.ofPoints c π) = true ↔
      (∀ i, s i < r) ∧ Groth16.Accepts c.e K.toKey s π := by
  by_cases hs : ∀ i, s i < r
  · rw [groth16Verify_of_lt hE hvk K hs, and_iff_right hs]
  · rw [groth16Verify, publicInputsAreValid, decide_eq_false hs]
    simp [hs]

end Decision

end Snarkjs
