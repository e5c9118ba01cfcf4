import ZkpAuth.AuthCpp.Layers

/-!
# The permutation of the C++ witness calculator

`PoseidonEx_68_run` of `auth_cpp/auth.cpp`, which creates 144 subcomponents and sets their inputs,
round after round, from the outputs of the subcomponents before.

## Main definitions

* `AuthCpp.PoseidonEx68.run` — the code.
* `AuthCpp.PoseidonEx68.Wired` — the subcomponents are in place, and some have no input yet.

## Main results

* `AuthCpp.PoseidonEx68.created_components` — the subcomponents after their creation.
* `AuthCpp.PoseidonEx68.frame_components` — what the creation leaves unchanged.
-/

set_option relaxedAutoImplicit false
set_option autoImplicit false

open Bn254

namespace AuthCpp.PoseidonEx68

/-! ## The code -/

/-- `PoseidonEx_68_create`. -/
def header : Header := ⟨68, 2⟩

/-- `n` subcomponents, with adjacent entries of the array from `first` on, adjacent records from
`coffset` on, and four signals each from the address `soffset` on. -/
def newChildren (T : ℕ → Header) (me first soffset coffset : ℕ) : ℕ → Memory → Memory
  | 0, ctx => ctx
  | n + 1, ctx => (newChildren T me first soffset coffset n ctx).newChild (T n) me (first + n)
      (soffset + 4 * n) (coffset + n)

/-- The creation of the subcomponents: `ark`, `sigmaF`, `sigmaP`, `mix`, `mixS` and `mixLast`. -/
def components (me mySignalStart : ℕ) (ctx : Memory) : Memory :=
  let ctx := newChildren Ark.header me 0 (mySignalStart + 3) (0 + me + 1) 8 ctx
  let ctx := newChildren (fun _ => Sigma1.header) me 8 (mySignalStart + 290) (72 + me + 1) 16 ctx
  let ctx := newChildren (fun _ => Sigma1.header) me 24 (mySignalStart + 354) (88 + me + 1) 56 ctx
  let ctx := newChildren Mix.header me 80 (mySignalStart + 35) (8 + me + 1) 7 ctx
  let ctx := newChildren MixS.header me 87 (mySignalStart + 66) (16 + me + 1) 56 ctx
  ctx.newChild MixLast67.header me 143 (mySignalStart + 63) (15 + me + 1)

/-- The offset of element `i` of a signal of a layer, which the code looks up in the I/O map of
`auth.dat`: `out` (`d = 0`) starts at `0`, `in` (`d = 1`) at `2`. -/
def ioOffset (d i : ℕ) : ℕ := 2 * d + i

/-- Element `j` of `out` of the layer `i`. -/
def output (ctx : Memory) (me i j : ℕ) : Fr := ctx.load me i (ioOffset 0 j)

/-- The input of the S-box `i` is set. -/
def setSigma (me i : ℕ) (v : Fr) (ctx : Memory) : Except String Memory :=
  runIfNeeded Sigma1.run me i (ctx.store me i 1 v)

section Code

variable (K : Constants) (me : ℕ)

/-- Element `j` of `in` of the layer `i` is set.  The layer runs through the function table. -/
def setLayer (i j : ℕ) (v : Fr) (ctx : Memory) : Except String Memory :=
  let ctx := ctx.store me i (ioOffset 1 j) v
  runIfNeeded (functionTable K (ctx.componentMemory (ctx.subcomponent me i)).templateId) me i ctx

/-- The loop that sets the inputs of `ark[0]`. -/
def absorb (mySignalStart : ℕ) : Memory → Except String Memory :=
  forLoop K (K.value 73) fun j ctx =>
    if frIsTrue (frGt j (K.value 72)) then
      setLayer K me 0 1 (ctx.signalValues (mySignalStart + 1)) ctx
    else setLayer K me 0 0 (ctx.signalValues (mySignalStart + 2)) ctx

/-- A loop over the S-boxes of a full round, on the outputs of the layer `src`. -/
def sigmaLoop (dst : Fr → ℕ) (src : ℕ) : Memory → Except String Memory :=
  forLoop K (K.value 73) fun j ctx => setSigma me (dst j) (output ctx me src (frToInt j)) ctx

/-- A loop that sets the inputs of a layer `ark` to the outputs of the S-boxes. -/
def arkLoop (dst : ℕ) (src : Fr → ℕ) : Memory → Except String Memory :=
  forLoop K (K.value 73) fun j ctx => setLayer K me dst (frToInt j) (ctx.load me (src j) 0) ctx

/-- A loop that sets the inputs of a layer `mix` to the outputs of a layer `ark`. -/
def mixLoop (dst src : ℕ) : Memory → Except String Memory :=
  forLoop K (K.value 73) fun j ctx =>
    setLayer K me dst (frToInt j) (output ctx me src (frToInt j)) ctx

/-- The body of the loop over the first three full rounds. -/
def firstRound (r : Fr) (ctx : Memory) : Except String Memory := do
  let ctx ← forLoop K (K.value 73) (fun j ctx =>
    if frIsTrue (frEq r (K.value 72)) then
      setSigma me (0 + frToInt j + 8) (output ctx me 0 (frToInt j)) ctx
    else
      setSigma me (2 * frToInt r + frToInt j + 8)
        (output ctx me (frToInt (r - K.value 74) + 80) (frToInt j)) ctx) ctx
  let ctx ← arkLoop K me (frToInt r + 1) (fun j => 2 * frToInt r + frToInt j + 8) ctx
  mixLoop K me (frToInt r + 80) (frToInt r + 1) ctx

/-- The full round before the partial rounds. -/
def middleRound (ctx : Memory) : Except String Memory := do
  let ctx ← sigmaLoop K me (fun j => 6 + frToInt j + 8) 82 ctx
  let ctx ← arkLoop K me 4 (fun j => 6 + frToInt j + 8) ctx
  mixLoop K me 83 4 ctx

/-- The body of the loop over the partial rounds. -/
def partialRound (r : Fr) (ctx : Memory) : Except String Memory := do
  let ctx ←
    if frIsTrue (frEq r (K.value 72)) then setSigma me 24 (output ctx me 83 0) ctx
    else setSigma me (frToInt r + 24) (output ctx me (frToInt (r - K.value 74) + 87) 0) ctx
  forLoop K (K.value 73) (fun j ctx =>
    if frIsTrue (frEq j (K.value 72)) then
      setLayer K me (frToInt r + 87) 0
        (ctx.load me (frToInt r + 24) 0 + K.poseidonC (10 + frToInt r)) ctx
    else if frIsTrue (frEq r (K.value 72)) then setLayer K me 87 1 (output ctx me 83 1) ctx
    else
      setLayer K me (frToInt r + 87) 1 (output ctx me (frToInt (r - K.value 74) + 87) 1) ctx) ctx

/-- The body of the loop over the last three full rounds with a layer `mix`. -/
def lastRound (r : Fr) (ctx : Memory) : Except String Memory := do
  let ctx ← forLoop K (K.value 73) (fun j ctx =>
    if frIsTrue (frEq r (K.value 72)) then
      setSigma me (8 + frToInt j + 8) (output ctx me 142 (frToInt j)) ctx
    else
      setSigma me (2 * (4 + frToInt r) + frToInt j + 8)
        (output ctx me (frToInt (K.value 79 + r - K.value 74) + 80) (frToInt j)) ctx) ctx
  let ctx ← arkLoop K me (4 + frToInt r + 1) (fun j => 2 * (4 + frToInt r) + frToInt j + 8) ctx
  mixLoop K me (4 + frToInt r + 80) (4 + frToInt r + 1) ctx

/-- The body of the loop over the outputs. -/
def squeeze (mySignalStart : ℕ) (ctx : Memory) : Except String Memory := do
  let ctx ← forLoop K (K.value 73) (fun j ctx =>
    runIfNeeded (MixLast67.run K) me 143
      (ctx.store me 143 (frToInt j + 1) (ctx.load me (14 + frToInt j + 8) 0))) ctx
  return ctx.setSignal (mySignalStart + 0) (ctx.load me 143 0)

/-- `PoseidonEx_68_run`. -/
def run : Run := fun ctx_index ctx => do
  let mySignalStart := (ctx.componentMemory ctx_index).signalStart
  let ctx := components ctx_index mySignalStart ctx
  let ctx ← absorb K ctx_index mySignalStart ctx
  let ctx ← forLoop K (K.value 195) (firstRound K ctx_index) ctx
  let ctx ← middleRound K ctx_index ctx
  let ctx ← forLoop K (K.value 284) (partialRound K ctx_index) ctx
  let ctx ← forLoop K (K.value 195) (lastRound K ctx_index) ctx
  let ctx ← sigmaLoop K ctx_index (fun j => 14 + frToInt j + 8) 86 ctx
  singleLoop K 72 74 (squeeze K ctx_index mySignalStart) ctx

end Code

/-! ## The subcomponents

The records of the subcomponents are adjacent, and so are their signals.  The slot of a
subcomponent is the number of its record. -/

/-- The offset of the signals of the slot `s`. -/
def start (s : ℕ) : ℕ := if s ≤ 15 then 3 + 4 * s else 2 + 4 * s

/-- The entry of the slot `s` in the array of the subcomponents. -/
def entry (s : ℕ) : ℕ :=
  if s < 8 then s else if s < 15 then s + 72 else if s = 15 then 143
  else if s < 72 then s + 71 else s - 64

/-- The template in the slot `s`. -/
def template (s : ℕ) : Header :=
  if s < 8 then Ark.header s else if s < 15 then Mix.header (s - 8)
  else if s = 15 then MixLast67.header else if s < 72 then MixS.header (s - 16)
  else Sigma1.header

/-- Subcomponent `i` is the component `k` after its creation. -/
structure Created (ctx : Memory) (me i k b : ℕ) (T : Header) : Prop extends
    IsChild ctx me i k b where
  /-- The template. -/
  templateId_eq : (ctx.componentMemory k).templateId = T.templateId
  /-- No input is set. -/
  inputCounter_eq : (ctx.componentMemory k).inputCounter = T.inputs

namespace Created

variable {ctx : Memory} {me i k b : ℕ} {T : Header}

/-- A new subcomponent has been created. -/
theorem newChild (ctx : Memory) (T : Header) {me c : ℕ} (i s : ℕ) (h : me ≠ c) :
    Created (ctx.newChild T me i s c) me i c s T := by
  refine ⟨.newChild ctx T i s h, ?_, ?_⟩ <;> rw [ctx.newChild_self T i s h.symm]

/-- A new subcomponent keeps those created before. -/
theorem of_newChild (h : Created ctx me i k b T) (T' : Header) {c j : ℕ} (s : ℕ) (hme : me ≠ c)
    (hk : k ≠ me ∧ k ≠ c) (hi : i ≠ j) : Created (ctx.newChild T' me j s c) me i k b T := by
  refine ⟨h.toIsChild.of_newChild T' s hme hk hi, ?_, ?_⟩ <;>
    rw [ctx.newChild_of_ne T' j s hk.1 hk.2]
  · exact h.templateId_eq
  · exact h.inputCounter_eq

/-- The indices of a subcomponent may be written differently. -/
theorem cast (h : Created ctx me i k b T) {i' k' b' : ℕ} {T' : Header} (hi : i' = i) (hk : k' = k)
    (hb : b' = b) (hT : T' = T) : Created ctx me i' k' b' T' := by
  subst hi hk hb hT
  exact h

variable {first soffset coffset : ℕ}

/-- A family of subcomponents leaves the others in place. -/
lemma of_newChildren (h : Created ctx me i k b T) (T' : ℕ → Header) (hme : me < coffset)
    (hk : me < k) {n : ℕ} (hk' : k < coffset ∨ coffset + n ≤ k)
    (hi : i < first ∨ first + n ≤ i) :
    Created (newChildren T' me first soffset coffset n ctx) me i k b T := by
  induction n with
  | zero => exact h
  | succ n ih =>
    rw [newChildren]
    exact (ih (by omega) (by omega)).of_newChild _ _ (by omega) (by omega) (by omega)

/-- Each member of a family of subcomponents is created. -/
lemma newChildren (ctx : Memory) (T : ℕ → Header) (hme : me < coffset) {n j : ℕ} (hj : j < n) :
    Created (newChildren T me first soffset coffset n ctx) me (first + j) (coffset + j)
      (soffset + 4 * j) (T j) := by
  induction n with
  | zero => omega
  | succ n ih =>
    rw [PoseidonEx68.newChildren]
    rcases Nat.lt_succ_iff_lt_or_eq.mp hj with hlt | rfl
    · exact (ih hlt).of_newChild _ _ (by omega) (by omega) (by omega)
    · exact .newChild _ _ _ _ (by omega)

end Created

/-- **The subcomponents after their creation.**

**Proof sketch.** Each family is created, and the later ones leave it in place. -/
theorem created_components (me b : ℕ) (ctx : Memory) {s : ℕ} (hs : s < 144) :
    Created (components me b ctx) me (entry s) (s + me + 1) (b + start s) (template s) := by
  set ctx₁ := newChildren Ark.header me 0 (b + 3) (0 + me + 1) 8 ctx
  set ctx₂ := newChildren (fun _ => Sigma1.header) me 8 (b + 290) (72 + me + 1) 16 ctx₁
  set ctx₃ := newChildren (fun _ => Sigma1.header) me 24 (b + 354) (88 + me + 1) 56 ctx₂
  set ctx₄ := newChildren Mix.header me 80 (b + 35) (8 + me + 1) 7 ctx₃
  set ctx₅ := newChildren MixS.header me 87 (b + 66) (16 + me + 1) 56 ctx₄
  -- what the later families leave in place
  have hmixLast : ∀ {i k a : ℕ} {T : Header}, Created ctx₅ me i k a T →
      me < k ∧ k ≠ 15 + me + 1 ∧ i ≠ 143 → Created (components me b ctx) me i k a T :=
    fun h hk => h.of_newChild _ _ (by omega) ⟨hk.1.ne', hk.2.1⟩ hk.2.2
  have hmixS : ∀ {i k a : ℕ} {T : Header}, Created ctx₄ me i k a T →
      me < k ∧ (k < 15 + me + 1 ∨ 72 + me + 1 ≤ k) ∧ i < 87 →
        Created (components me b ctx) me i k a T :=
    fun h hk => hmixLast (h.of_newChildren _ (by omega) hk.1 (by omega) (by omega)) (by omega)
  have hmix : ∀ {i k a : ℕ} {T : Header}, Created ctx₃ me i k a T →
      me < k ∧ (k < 8 + me + 1 ∨ 72 + me + 1 ≤ k) ∧ i < 80 →
        Created (components me b ctx) me i k a T :=
    fun h hk => hmixS (h.of_newChildren _ (by omega) hk.1 (by omega) (by omega)) (by omega)
  rcases Nat.lt_or_ge s 8 with hark | hark
  · have h : Created ctx₁ me (0 + s) (0 + me + 1 + s) (b + 3 + 4 * s) (Ark.header s) :=
      .newChildren ctx _ (by omega) hark
    refine (hmix ((h.of_newChildren _ ?_ ?_ ?_ ?_).of_newChildren _ ?_ ?_ ?_ ?_) ?_).cast
      ?_ ?_ ?_ ?_
    all_goals first | omega | (simp only [entry, start, template]; grind)
  rcases Nat.lt_or_ge s 15 with hmixs | hmixs
  · have h : Created ctx₄ me (80 + (s - 8)) (8 + me + 1 + (s - 8)) (b + 35 + 4 * (s - 8))
        (Mix.header (s - 8)) := .newChildren ctx₃ _ (by omega) (by omega)
    refine (hmixS h ?_).cast ?_ ?_ ?_ ?_
    all_goals first | omega | (simp only [entry, start, template]; grind)
  rcases Nat.lt_or_ge s 72 with hmixSs | hmixSs
  · rcases hmixs.eq_or_lt with rfl | hlt
    · exact .newChild ctx₅ _ _ _ (by omega)
    · have h : Created ctx₅ me (87 + (s - 16)) (16 + me + 1 + (s - 16)) (b + 66 + 4 * (s - 16))
          (MixS.header (s - 16)) := .newChildren ctx₄ _ (by omega) (by omega)
      refine (hmixLast h ?_).cast ?_ ?_ ?_ ?_
      all_goals first | omega | (simp only [entry, start, template]; grind)
  rcases Nat.lt_or_ge s 88 with hsigma | hsigma
  · have h : Created ctx₂ me (8 + (s - 72)) (72 + me + 1 + (s - 72)) (b + 290 + 4 * (s - 72))
        Sigma1.header := .newChildren ctx₁ (fun _ => Sigma1.header) (by omega) (by omega)
    refine (hmix (h.of_newChildren _ ?_ ?_ ?_ ?_) ?_).cast ?_ ?_ ?_ ?_
    all_goals first | omega | (simp only [entry, start, template]; grind)
  · have h : Created ctx₃ me (24 + (s - 88)) (88 + me + 1 + (s - 88)) (b + 354 + 4 * (s - 88))
        Sigma1.header := .newChildren ctx₂ (fun _ => Sigma1.header) (by omega) (by omega)
    refine (hmix h ?_).cast ?_ ?_ ?_ ?_
    all_goals first | omega | (simp only [entry, start, template]; grind)

/-- The subcomponents are in place, and those in the slots outside `D` have no input yet. -/
structure Wired (me b : ℕ) (D : Set ℕ) (ctx : Memory) : Prop where
  /-- Each slot has its component and its signals. -/
  child : ∀ s < 144, IsChild ctx me (entry s) (s + me + 1) (b + start s)
  /-- The component is one of the template of the slot. -/
  templateId_eq : ∀ s < 144,
    (ctx.componentMemory (s + me + 1)).templateId = (template s).templateId
  /-- Outside `D` it waits for all of its inputs. -/
  inputCounter_eq : ∀ s < 144, s ∉ D →
    (ctx.componentMemory (s + me + 1)).inputCounter = (template s).inputs

/-- The subcomponents that the code creates are in place, with all inputs to be set. -/
theorem wired_components (me b : ℕ) (ctx : Memory) : Wired me b ∅ (components me b ctx) where
  child _ hs := (created_components me b ctx hs).toIsChild
  templateId_eq _ hs := (created_components me b ctx hs).templateId_eq
  inputCounter_eq _ hs _ := (created_components me b ctx hs).inputCounter_eq

/-- The creation of the subcomponents changes their records only. -/
lemma frame_newChildren {S C : Set ℕ} (T : ℕ → Header) {me first soffset coffset : ℕ}
    (hme : me ∈ C) {n : ℕ} (hC : ∀ j < n, coffset + j ∈ C) (ctx : Memory) :
    Frame S C ctx (newChildren T me first soffset coffset n ctx) := by
  induction n with
  | zero => exact ⟨fun _ _ => rfl, fun _ _ => rfl⟩
  | succ n ih =>
    exact (ih fun j hj => hC j (by omega)).trans (.newChild _ _ _ _ hme (hC n (by omega)))

/-- New subcomponents keep the address of their parent. -/
lemma newChildren_signalStart (T : ℕ → Header) {me first soffset coffset : ℕ}
    (hme : me < coffset) (n : ℕ) (ctx : Memory) :
    ((newChildren T me first soffset coffset n ctx).componentMemory me).signalStart =
      (ctx.componentMemory me).signalStart := by
  induction n with
  | zero => rfl
  | succ n ih => rw [newChildren, Memory.newChild_signalStart _ _ _ _ (by omega), ih]

/-- All subcomponents keep the address of their parent. -/
theorem components_signalStart (me b : ℕ) (ctx : Memory) :
    ((components me b ctx).componentMemory me).signalStart =
      (ctx.componentMemory me).signalStart := by
  rw [components, Memory.newChild_signalStart _ _ _ _ (by omega)]
  iterate 5 rw [newChildren_signalStart _ (by omega)]

/-- What creating the subcomponents leaves unchanged. -/
theorem frame_components {S : Set ℕ} (me b : ℕ) (ctx : Memory) :
    Frame S (Set.Icc me (me + 144)) ctx (components me b ctx) := by
  have hfamily : ∀ {T : ℕ → Header} {first soffset coffset n : ℕ} {ctx : Memory}, me ≤ coffset →
      coffset + n ≤ me + 145 → Frame S (Set.Icc me (me + 144)) ctx
        (newChildren T me first soffset coffset n ctx) := fun hle hle' =>
    frame_newChildren _ (Set.mem_Icc.mpr (by omega)) (fun j hj => Set.mem_Icc.mpr (by omega)) _
  have hmixLast : ∀ ctx : Memory, Frame S (Set.Icc me (me + 144)) ctx
      (ctx.newChild MixLast67.header me 143 (b + 63) (15 + me + 1)) := fun ctx =>
    .newChild ctx _ _ _ (Set.mem_Icc.mpr (by omega)) (Set.mem_Icc.mpr (by omega))
  refine Frame.trans ?_ (hmixLast _)
  exact ((((hfamily (by omega) (by omega)).trans (hfamily (by omega) (by omega))).trans
    (hfamily (by omega) (by omega))).trans (hfamily (by omega) (by omega))).trans
    (hfamily (by omega) (by omega))

end AuthCpp.PoseidonEx68
