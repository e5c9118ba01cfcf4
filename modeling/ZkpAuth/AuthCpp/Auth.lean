import ZkpAuth.AuthCpp.AuthDat
import ZkpAuth.AuthCpp.PoseidonRounds

/-!
# The authentication circuit of the C++ witness calculator

The templates `Poseidon`, `IsEqual` and `Auth` of `auth_cpp/auth.cpp`.  This is another circuit than
`circuits/auth.circom`: it has four inputs and one output, and its equality test has no inverse
hint.

## Main definitions

* `AuthCpp.Poseidon69.run`, `AuthCpp.IsEqual70.run`, `AuthCpp.Auth71.run`, `AuthCpp.run`.

## Main results

* `AuthCpp.Auth71.run_yields` — the code ends without a failed assertion, and its output.
* `AuthCpp.run_withInputs_yields` — the same on the memory with the four inputs set.
* `AuthCpp.output_exact_iff` — when the output is the authentication decision.
-/

set_option relaxedAutoImplicit false
set_option autoImplicit false

open Bn254 BitDecomposition

namespace AuthCpp

/-! ## The templates -/

/-- `Poseidon_69_create`. -/
def Poseidon69.header : Header := ⟨69, 1⟩

/-- `IsEqual_70_create`. -/
def IsEqual70.header : Header := ⟨70, 2⟩

/-- `Auth_71_create`. -/
def Auth71.header : Header := ⟨71, 4⟩

/-- The loop of `Poseidon_69_run` over its one input. -/
def Poseidon69.inputs (K : Constants) (me mySignalStart : ℕ) : Memory → Except String Memory :=
  singleLoop K 72 74 fun ctx => runIfNeeded (PoseidonEx68.run K) me 0
    (ctx.store me 0 1 (ctx.signalValues (mySignalStart + 1)))

/-- `Poseidon_69_run`. -/
def Poseidon69.run (K : Constants) : Run := fun ctx_index ctx => do
  let mySignalStart := (ctx.componentMemory ctx_index).signalStart
  let ctx := ctx.newChild PoseidonEx68.header ctx_index 0 (mySignalStart + 2) (0 + ctx_index + 1)
  let ctx ← runIfNeeded (PoseidonEx68.run K) ctx_index 0 (ctx.store ctx_index 0 2 (K.value 72))
  let ctx ← Poseidon69.inputs K ctx_index mySignalStart ctx
  return ctx.setSignal (mySignalStart + 0) (ctx.load ctx_index 0 0)

/-- `IsEqual_70_run`: one minus the square of the difference. -/
def IsEqual70.run (K : Constants) : Run := fun ctx_index ctx =>
  let mySignalStart := (ctx.componentMemory ctx_index).signalStart
  let difference := ctx.signalValues (mySignalStart + 1) - ctx.signalValues (mySignalStart + 2)
  .ok (ctx.setSignal (mySignalStart + 0) (K.value 74 - difference * difference))

/-- The statements of `Auth_71_run` that feed an `IsEqual` component with two values. -/
def IsEqual70.check (K : Constants) (me i : ℕ) (a b : Memory → Fr) (ctx : Memory) :
    Except String Memory := do
  let ctx ← noNeedToRun me i (ctx.store me i 1 (a ctx))
  needToRun (IsEqual70.run K) me i (ctx.store me i 2 (b ctx))

/-- The subcomponents `hasher`, `hashCheck` and `roleCheck` that `Auth_71_run` creates. -/
def Auth71.components (me mySignalStart : ℕ) (ctx : Memory) : Memory :=
  let ctx := ctx.newChild Poseidon69.header me 0 (mySignalStart + 8) (1 + me + 1)
  let ctx := ctx.newChild IsEqual70.header me 1 (mySignalStart + 5) (0 + me + 1)
  ctx.newChild IsEqual70.header me 2 (mySignalStart + 588) (147 + me + 1)

/-- `Auth_71_run`. -/
def Auth71.run (K : Constants) : Run := fun ctx_index ctx => do
  let mySignalStart := (ctx.componentMemory ctx_index).signalStart
  let ctx := Auth71.components ctx_index mySignalStart ctx
  let ctx ← needToRun (Poseidon69.run K) ctx_index 0
    (ctx.store ctx_index 0 1 (ctx.signalValues (mySignalStart + 4)))
  let ctx ← IsEqual70.check K ctx_index 1 (fun ctx => ctx.load ctx_index 0 0)
    (fun ctx => ctx.signalValues (mySignalStart + 1)) ctx
  let ctx ← IsEqual70.check K ctx_index 2 (fun ctx => ctx.signalValues (mySignalStart + 3))
    (fun ctx => ctx.signalValues (mySignalStart + 2)) ctx
  return ctx.setSignal (mySignalStart + 0) (ctx.load ctx_index 1 0 * ctx.load ctx_index 2 0)

/-- `run`. -/
def run (K : Constants) (ctx : Memory) : Except String Memory :=
  Auth71.run K 0 (ctx.create Auth71.header 1 0)

/-! ## The hash component -/

section Run

variable {K : Constants}

/-- The loop over the one input sets it and runs the permutation. -/
theorem Poseidon69.inputs_eq {me k a : ℕ} {ctx : Memory} (hchild : IsChild ctx me 0 k a)
    (hcount : (ctx.componentMemory k).inputCounter = 1) (b : ℕ) :
    Poseidon69.inputs K me b ctx =
      PoseidonEx68.run K k (ctx.feed k (a + 1) (ctx.signalValues (b + 1))) := by
  rw [Poseidon69.inputs, singleLoop_eq K.zero K.one (by omega) (by decide)]
  exact hchild.runIfNeeded_store_of_one hcount _ _ _

/-- **The hash component** puts the hash of its input on its output.

**Proof sketch.** Its two assignments to the subcomponent start `PoseidonEx_68_run`, whose output
is copied.  The two counts of inputs tell when it starts. -/
theorem Poseidon69.run_yields {me b : ℕ} {ctx : Memory}
    (hb : (ctx.componentMemory me).signalStart = b) :
    Yields (Poseidon69.run K me ctx) fun ctx' =>
      ctx'.signalValues b = K.hash (ctx.signalValues (b + 1)) ∧
      (ctx'.componentMemory me).signalStart = b ∧
      Frame (Set.Ico b (b + 580)) (Set.Icc me (me + 145)) ctx ctx' := by
  have hne : me ≠ 0 + me + 1 := by omega
  set ctx₁ := ctx.newChild PoseidonEx68.header me 0 (b + 2) (0 + me + 1) with hctx₁
  set ctx₂ := ctx₁.feed (0 + me + 1) (b + 2 + 2) (K.value 72) with hctx₂
  set ctx₃ := ctx₂.feed (0 + me + 1) (b + 2 + 1) (ctx₂.signalValues (b + 1)) with hctx₃
  have hchild : IsChild ctx₁ me 0 (0 + me + 1) (b + 2) := .newChild ctx _ 0 (b + 2) hne
  have hcount₁ : (ctx₁.componentMemory (0 + me + 1)).inputCounter = 2 := by
    rw [ctx.newChild_self _ 0 (b + 2) hne.symm]
    rfl
  have hcount₂ : (ctx₂.componentMemory (0 + me + 1)).inputCounter = 1 :=
    ctx₁.feed_inputCounter_of_two _ _ hcount₁
  have hstart : (ctx₃.componentMemory me).signalStart = b := by
    rw [Memory.feed_signalStart, Memory.feed_signalStart, ctx.newChild_signalStart _ 0 _ hne, hb]
  have hframe : Frame (Set.Ico b (b + 580)) (Set.Icc me (me + 145)) ctx ctx₃ := by
    refine ((Frame.newChild ctx _ 0 (b + 2) ?_ ?_).trans (.feed ctx₁ _ ?_ ?_)).trans
      (.feed ctx₂ _ ?_ ?_) <;> simp only [Set.mem_Icc, Set.mem_Ico] <;> omega
  rw [Poseidon69.run, hb]
  refine Yields.of_eq (hchild.runIfNeeded_store_of_two hcount₁ _ _ _) ?_
  rw [Poseidon69.inputs_eq (hchild.feed _ _ _) hcount₂]
  refine (PoseidonEx68.run_yields ((hchild.feed _ _ _).feed _ _ _).signalStart_eq).bind ?_
  rintro ctx₄ ⟨hout, hstart₄, hframe₄⟩
  have hme : me ∉ Set.Icc (0 + me + 1) (0 + me + 1 + 144) := by
    rw [Set.mem_Icc]
    omega
  have hchild₄ : IsChild ctx₄ me 0 (0 + me + 1) (b + 2) := by
    refine ⟨?_, hstart₄⟩
    rw [Memory.subcomponent, hframe₄.components hme]
    exact ((hchild.feed _ _ _).feed _ _ _).subcomponent_eq
  have hinit : ctx₃.signalValues (b + 2 + 2) = 0 := by
    simp [hctx₃, hctx₂, K.zero]
  have hinp : ctx₃.signalValues (b + 2 + 1) = ctx.signalValues (b + 1) := by
    simp [hctx₃, hctx₂, hctx₁]
  rw [hinit, hinp] at hout
  refine .ok ⟨?_, ?_, ?_⟩
  · rw [hchild₄.load_eq]
    exact (ctx₄.setSignal_self b _).trans hout
  · rw [Memory.setSignal_componentMemory, hframe₄.components hme, hstart]
  · refine (hframe.trans (hframe₄.mono ?_ ?_)).trans (.setSignal ctx₄ _ ?_)
    · exact Set.Ico_subset_Ico (by omega) (by omega)
    · exact Set.Icc_subset_Icc (by omega) (by omega)
    · exact Set.mem_Ico.mpr ⟨by omega, by omega⟩

/-! ## The equality test -/

/-- What `IsEqual_70_run` computes of two values. -/
def IsEqual70.out (a b : Fr) : Fr := 1 - (a - b) * (a - b)

/-- The run of an `IsEqual` component. -/
theorem IsEqual70.run_eq {k b : ℕ} {ctx : Memory} (hb : (ctx.componentMemory k).signalStart = b) :
    IsEqual70.run K k ctx = .ok (ctx.setSignal b
      (IsEqual70.out (ctx.signalValues (b + 1)) (ctx.signalValues (b + 2)))) := by
  rw [IsEqual70.run, hb, K.one, Nat.cast_one]
  rfl

/-- The statements that compare two values put the result on the output of the component.  The
second value must not be read from the component's own signals. -/
lemma IsEqual70.check_yields {me i k b : ℕ} {ctx : Memory} (hchild : IsChild ctx me i k b)
    (hcount : (ctx.componentMemory k).inputCounter = 2) (x y : Memory → Fr)
    (hy : y (ctx.feed k (b + 1) (x ctx)) = y ctx) :
    Yields (IsEqual70.check K me i x y ctx) fun ctx' =>
      ctx'.signalValues b = IsEqual70.out (x ctx) (y ctx) ∧ IsChild ctx' me i k b ∧
      Frame (Set.Icc b (b + 2)) {k} ctx ctx' := by
  set ctx₁ := ctx.feed k (b + 1) (x ctx) with hctx₁
  set ctx₂ := ctx₁.feed k (b + 2) (y ctx) with hctx₂
  have hchild₂ : IsChild ctx₂ me i k b := (hchild.feed _ _ _).feed _ _ _
  have hcount₁ : (ctx₁.componentMemory k).inputCounter = 1 :=
    ctx.feed_inputCounter_of_two _ _ hcount
  have hframe : Frame (Set.Icc b (b + 2)) {k} ctx ctx₂ := by
    refine (Frame.feed ctx _ (Set.mem_singleton k) ?_).trans
      (.feed ctx₁ _ (Set.mem_singleton k) ?_) <;> rw [Set.mem_Icc] <;> omega
  refine Yields.of_eq (hchild.noNeedToRun_store hcount _ _) ?_
  rw [(hchild.feed _ _ _).needToRun_store hcount₁, hy, IsEqual70.run_eq hchild₂.signalStart_eq]
  refine .ok ⟨?_, ⟨hchild₂.subcomponent_eq, hchild₂.signalStart_eq⟩,
    hframe.trans (.setSignal _ _ ?_)⟩
  · simp [hctx₂, hctx₁]
  · exact Set.mem_Icc.mpr ⟨le_rfl, by omega⟩

/-! ## The circuit -/

/-- The subcomponents of `Auth` are in place, and none of their inputs is set. -/
structure Auth71.Wired (me b : ℕ) (ctx : Memory) : Prop where
  hasher : IsChild ctx me 0 (1 + me + 1) (b + 8)
  hashCheck : IsChild ctx me 1 (0 + me + 1) (b + 5)
  roleCheck : IsChild ctx me 2 (147 + me + 1) (b + 588)
  hasher_inputs : (ctx.componentMemory (1 + me + 1)).inputCounter = 1
  hashCheck_inputs : (ctx.componentMemory (0 + me + 1)).inputCounter = 2
  roleCheck_inputs : (ctx.componentMemory (147 + me + 1)).inputCounter = 2

/-- The subcomponents that the code creates are in place.

**Proof sketch.** Each creation leaves the components that were created before it as they are. -/
theorem Auth71.wired_components (me b : ℕ) (ctx : Memory) :
    Auth71.Wired me b (Auth71.components me b ctx) := by
  set ctx₁ := ctx.newChild Poseidon69.header me 0 (b + 8) (1 + me + 1)
  set ctx₂ := ctx₁.newChild IsEqual70.header me 1 (b + 5) (0 + me + 1) with hctx₂
  have hctx₃ : Auth71.components me b ctx =
    ctx₂.newChild IsEqual70.header me 2 (b + 588) (147 + me + 1) := rfl
  have hne : me ≠ 1 + me + 1 ∧ me ≠ 0 + me + 1 ∧ me ≠ 147 + me + 1 := by omega
  have hne' : 1 + me + 1 ≠ 0 + me + 1 ∧ 1 + me + 1 ≠ 147 + me + 1 ∧
    0 + me + 1 ≠ 147 + me + 1 := by omega
  rw [hctx₃]
  refine ⟨?_, ?_, ?_, ?_, ?_, ?_⟩
  · exact ((IsChild.newChild ctx _ 0 _ hne.1).of_newChild _ _ hne.2.1 ⟨hne.1.symm, hne'.1⟩
      (by decide)).of_newChild _ _ hne.2.2 ⟨hne.1.symm, hne'.2.1⟩ (by decide)
  · exact (IsChild.newChild ctx₁ _ 1 _ hne.2.1).of_newChild _ _ hne.2.2
      ⟨hne.2.1.symm, hne'.2.2⟩ (by decide)
  · exact .newChild ctx₂ _ 2 _ hne.2.2
  · rw [ctx₂.newChild_of_ne _ 2 _ hne.1.symm hne'.2.1, hctx₂,
      ctx₁.newChild_of_ne _ 1 _ hne.1.symm hne'.1, ctx.newChild_self _ 0 _ hne.1.symm]
    rfl
  · rw [ctx₂.newChild_of_ne _ 2 _ hne.2.1.symm hne'.2.2, ctx₁.newChild_self _ 1 _ hne.2.1.symm]
    rfl
  · rw [ctx₂.newChild_self _ 2 _ hne.2.2.symm]
    rfl

/-- The comparisons are in place, and none of their inputs is set. -/
structure Auth71.ChecksWired (me b : ℕ) (ctx : Memory) : Prop where
  hashCheck : IsChild ctx me 1 (0 + me + 1) (b + 5)
  roleCheck : IsChild ctx me 2 (147 + me + 1) (b + 588)
  hashCheck_inputs : (ctx.componentMemory (0 + me + 1)).inputCounter = 2
  roleCheck_inputs : (ctx.componentMemory (147 + me + 1)).inputCounter = 2

/-- The hash component changes neither the inputs of the circuit nor the comparisons.

**Proof sketch.** The hash component runs inside its own signals and components, which do not meet
those of the comparisons. -/
lemma Auth71.Wired.hasher_yields {me b : ℕ} {ctx : Memory} (h : Auth71.Wired me b ctx) (v : Fr) :
    Yields (needToRun (Poseidon69.run K) me 0 (ctx.store me 0 1 v)) fun ctx' =>
      ctx'.load me 0 0 = K.hash v ∧ Auth71.ChecksWired me b ctx' ∧
        ∀ i < 5, ctx'.signalValues (b + i) = ctx.signalValues (b + i) := by
  set ctx₁ := ctx.feed (1 + me + 1) (b + 8 + 1) v with hctx₁
  have hstart₁ : (ctx₁.componentMemory (1 + me + 1)).signalStart = b + 8 :=
    (h.hasher.feed _ _ _).signalStart_eq
  have hinp : ctx₁.signalValues (b + 8 + 1) = v := by
    rw [hctx₁, Memory.feed_signalValues, Function.update_self]
  have hother : ∀ k, k ≠ 1 + me + 1 → ctx₁.componentMemory k = ctx.componentMemory k :=
    fun k hk => ctx.feed_of_ne _ v hk
  have hout_of : me ∉ Set.Icc (1 + me + 1) (1 + me + 1 + 145) ∧
      0 + me + 1 ∉ Set.Icc (1 + me + 1) (1 + me + 1 + 145) ∧
      147 + me + 1 ∉ Set.Icc (1 + me + 1) (1 + me + 1 + 145) := by
    simp only [Set.mem_Icc]
    omega
  obtain ⟨hme, hhash_out, hrole_out⟩ := hout_of
  rw [h.hasher.needToRun_store h.hasher_inputs]
  refine (Poseidon69.run_yields hstart₁).mono ?_
  rintro ctx₂ ⟨hout, hstart₂, hframe⟩
  have hhasher : IsChild ctx₂ me 0 (1 + me + 1) (b + 8) := by
    refine ⟨?_, hstart₂⟩
    rw [Memory.subcomponent, hframe.components hme]
    exact (h.hasher.feed _ _ _).subcomponent_eq
  refine ⟨?_, ⟨?_, ?_, ?_, ?_⟩, ?_⟩
  · rw [hhasher.load_eq, Nat.add_zero, hout, hinp]
  · exact hframe.isChild (h.hashCheck.feed _ _ _) hme hhash_out
  · exact hframe.isChild (h.roleCheck.feed _ _ _) hme hrole_out
  · rw [hframe.components hhash_out, hother _ (by omega), h.hashCheck_inputs]
  · rw [hframe.components hrole_out, hother _ (by omega), h.roleCheck_inputs]
  · intro i hi
    have hnot : b + i ∉ Set.Ico (b + 8) (b + 8 + 580) := by
      rw [Set.mem_Ico]
      omega
    rw [hframe.signals hnot, hctx₁, Memory.feed_signalValues, Function.update_of_ne (by omega)]

/-- The two comparisons and the output.  Each comparison changes its own three signals only.

**Proof sketch.** One comparison after the other.  The second reads what the first leaves as it
was. -/
theorem Auth71.ChecksWired.run_yields {me b : ℕ} {ctx : Memory} (h : Auth71.ChecksWired me b ctx) :
    Yields (do
        let ctx ← IsEqual70.check K me 1 (fun ctx => ctx.load me 0 0)
          (fun ctx => ctx.signalValues (b + 1)) ctx
        let ctx ← IsEqual70.check K me 2 (fun ctx => ctx.signalValues (b + 3))
          (fun ctx => ctx.signalValues (b + 2)) ctx
        return ctx.setSignal (b + 0) (ctx.load me 1 0 * ctx.load me 2 0)) fun ctx' =>
      ctx'.signalValues b =
        IsEqual70.out (ctx.load me 0 0) (ctx.signalValues (b + 1)) *
          IsEqual70.out (ctx.signalValues (b + 3)) (ctx.signalValues (b + 2)) := by
  refine (IsEqual70.check_yields h.hashCheck h.hashCheck_inputs _ _ (by simp)).bind ?_
  rintro ctx₁ ⟨hout₁, hhash₁, hframe₁⟩
  have hkeep₁ : ∀ i < 5, ctx₁.signalValues (b + i) = ctx.signalValues (b + i) := by
    intro i hi
    exact hframe₁.signals (by rw [Set.mem_compl_iff, Set.mem_Icc]; omega)
  have hne₁ : me ∉ ({0 + me + 1} : Set ℕ) ∧ 147 + me + 1 ∉ ({0 + me + 1} : Set ℕ) := by
    simp only [Set.mem_singleton_iff]
    omega
  have hcount₁ : (ctx₁.componentMemory (147 + me + 1)).inputCounter = 2 := by
    rw [hframe₁.components hne₁.2, h.roleCheck_inputs]
  have hrole₁ := hframe₁.isChild h.roleCheck hne₁.1 hne₁.2
  refine (IsEqual70.check_yields hrole₁ hcount₁ _ _ (by simp)).bind ?_
  rintro ctx₂ ⟨hout₂, hrole₂, hframe₂⟩
  rw [hkeep₁ 3 (by omega), hkeep₁ 2 (by omega)] at hout₂
  have hne₂ : me ∉ ({147 + me + 1} : Set ℕ) ∧ 0 + me + 1 ∉ ({147 + me + 1} : Set ℕ) := by
    simp only [Set.mem_singleton_iff]
    omega
  have hhash₂ := hframe₂.isChild hhash₁ hne₂.1 hne₂.2
  have hkeep₂ : ctx₂.signalValues (b + 5) = ctx₁.signalValues (b + 5) :=
    hframe₂.signals (by rw [Set.mem_compl_iff, Set.mem_Icc]; omega)
  refine .ok ?_
  rw [hhash₂.load_eq, hrole₂.load_eq, Nat.add_zero, Nat.add_zero, Nat.add_zero, hkeep₂, hout₁,
    hout₂]
  exact ctx₂.setSignal_self b _

/-- **The circuit** ends without a failed assertion and puts the product of the two comparisons on
its output. -/
theorem Auth71.run_yields {me b : ℕ} {ctx : Memory}
    (hb : (ctx.componentMemory me).signalStart = b) :
    Yields (Auth71.run K me ctx) fun ctx' =>
      ctx'.signalValues b =
        IsEqual70.out (K.hash (ctx.signalValues (b + 4))) (ctx.signalValues (b + 1)) *
          IsEqual70.out (ctx.signalValues (b + 3)) (ctx.signalValues (b + 2)) := by
  have hkeep : (Auth71.components me b ctx).signalValues = ctx.signalValues := rfl
  rw [Auth71.run, hb]
  refine ((Auth71.wired_components me b ctx).hasher_yields _).bind ?_
  rintro ctx₁ ⟨hload, hchecks, hkeep₁⟩
  have hrun := hchecks.run_yields (K := K)
  rwa [hload, hkeep₁ 1 (by omega), hkeep₁ 2 (by omega), hkeep₁ 3 (by omega), hkeep] at hrun

/-- The run of the main component, on the four main inputs at the signals `2` to `5`. -/
theorem run_yields (ctx : Memory) : Yields (run K ctx) fun ctx' =>
    ctx'.signalValues 1 =
      IsEqual70.out (K.hash (ctx.signalValues 5)) (ctx.signalValues 2) *
        IsEqual70.out (ctx.signalValues 4) (ctx.signalValues 3) := by
  refine Auth71.run_yields (b := 1) ?_
  rw [Memory.create, Memory.setComponent_self]

/-- The memory with the four main inputs set, in signal order: the stored hash, the stored role, the
role and the password. -/
def Memory.withInputs (ctx : Memory) (s₁ s₂ s₃ s₄ : Fr) : Memory :=
  (((ctx.setSignal 2 s₁).setSignal 3 s₂).setSignal 4 s₃).setSignal 5 s₄

/-- The run on the memory with the four main inputs set. -/
theorem run_withInputs_yields (ctx : Memory) (s₁ s₂ s₃ s₄ : Fr) :
    Yields (run K (ctx.withInputs s₁ s₂ s₃ s₄)) fun ctx' =>
      ctx'.signalValues 1 = IsEqual70.out (K.hash s₄) s₁ * IsEqual70.out s₃ s₂ := by
  have hrun := run_yields (K := K) (ctx.withInputs s₁ s₂ s₃ s₄)
  have hinputs : (ctx.withInputs s₁ s₂ s₃ s₄).signalValues 2 = s₁ ∧
      (ctx.withInputs s₁ s₂ s₃ s₄).signalValues 3 = s₂ ∧
      (ctx.withInputs s₁ s₂ s₃ s₄).signalValues 4 = s₃ ∧
      (ctx.withInputs s₁ s₂ s₃ s₄).signalValues 5 = s₄ := by
    simp [Memory.withInputs, Memory.setSignal]
  rwa [hinputs.1, hinputs.2.1, hinputs.2.2.1, hinputs.2.2.2] at hrun

/-! ## When the output is the decision -/

/-- The comparison vanishes on the differences `1` and `-1` only. -/
lemma IsEqual70.out_eq_zero_iff (a b : Fr) :
    IsEqual70.out a b = 0 ↔ a - b = 1 ∨ a - b = -1 := by
  have hfactor : IsEqual70.out a b = -((a - b - 1) * (a - b + 1)) := by
    rw [IsEqual70.out]
    ring
  rw [hfactor, neg_eq_zero, mul_eq_zero, sub_eq_zero, ← eq_neg_iff_add_eq_zero]

/-- On equal values it is `1`. -/
theorem IsEqual70.out_self (a : Fr) : IsEqual70.out a a = 1 := by
  rw [IsEqual70.out, sub_self, mul_zero, sub_zero]

/-- **When the C++ circuit decides exactly.** For every four inputs the circuit ends without a
failed assertion, and its output is `1` on a match and `0` otherwise exactly when there is a match
or one of the two differences is `1` or `-1`. -/
theorem output_exact_iff (ctx : Memory) (s₁ s₂ s₃ s₄ : Fr) :
    Yields (run K (ctx.withInputs s₁ s₂ s₃ s₄)) fun ctx' =>
      ctx'.signalValues 1 = (if K.hash s₄ = s₁ ∧ s₃ = s₂ then 1 else 0) ↔
        (K.hash s₄ = s₁ ∧ s₃ = s₂) ∨ (K.hash s₄ - s₁ = 1 ∨ K.hash s₄ - s₁ = -1) ∨
          (s₃ - s₂ = 1 ∨ s₃ - s₂ = -1) := by
  refine (run_withInputs_yields ctx s₁ s₂ s₃ s₄).mono fun ctx' hout => ?_
  rw [hout]
  by_cases hmatch : K.hash s₄ = s₁ ∧ s₃ = s₂
  · obtain ⟨rfl, rfl⟩ := hmatch
    simp [IsEqual70.out_self]
  · rw [if_neg hmatch, mul_eq_zero, IsEqual70.out_eq_zero_iff, IsEqual70.out_eq_zero_iff]
    exact (or_iff_right hmatch).symm

end Run

/-! ## Concrete runs -/

/-- Memory in which everything is `0`. -/
def blankMemory : Memory where
  signalValues _ := ((0 : ℕ) : Fr)
  componentMemory _ := ⟨0, 0, 0, fun _ => 0⟩

/-- With the constants of `auth.dat`, the registered password and the registered role are
accepted. -/
theorem output_exact_match :
    Yields (run authDat (blankMemory.withInputs (authDat.hash 123) 2 2 123))
      fun ctx' => ctx'.signalValues 1 = 1 := by
  refine (output_exact_iff blankMemory (authDat.hash 123) 2 2 123).mono fun ctx' hiff => ?_
  have hout := hiff.mpr (.inl ⟨rfl, rfl⟩)
  rwa [if_pos ⟨rfl, rfl⟩] at hout

/-- The differences `5/4` and `5/3` are taken for a match: `(1 - 25/16) (1 - 25/9) = 1`. -/
lemma IsEqual70.out_mul_out_eq_one (x : Fr) :
    IsEqual70.out x (x - (5 : ℕ) / (4 : ℕ)) * IsEqual70.out ((5 : ℕ) / (3 : ℕ)) 0 = 1 := by
  have h3 : (3 : Fr) ≠ 0 := by decide
  have h4 : (4 : Fr) ≠ 0 := by decide
  rw [IsEqual70.out, IsEqual70.out, sub_sub_cancel, sub_zero]
  push_cast
  field_simp
  norm_num

/-- With the password `123`, the stored hash `H(123) - 5/4`, the role `5/3` and the stored role `0`
the output is `1`, although neither the hash nor the role matches. -/
theorem output_not_exact :
    ¬∀ s₁ s₂ s₃ s₄ : Fr, Yields (run authDat (blankMemory.withInputs s₁ s₂ s₃ s₄)) fun ctx' =>
      ctx'.signalValues 1 = if authDat.hash s₄ = s₁ ∧ s₃ = s₂ then 1 else 0 := by
  intro hall
  have hout := run_withInputs_yields (K := authDat) blankMemory
    (authDat.hash 123 - (5 : ℕ) / (4 : ℕ)) 0 ((5 : ℕ) / (3 : ℕ)) 123
  obtain ⟨ctx', -, hone, hzero⟩ := hout.and (hall _ _ _ _)
  rw [IsEqual70.out_mul_out_eq_one] at hone
  rw [if_neg, hone] at hzero
  · exact one_ne_zero hzero
  · rintro ⟨-, hrole⟩
    exact absurd hrole (div_ne_zero (by decide) (by decide))

end AuthCpp
