import ZkpAuth.AuthCpp.PoseidonEx

/-!
# The rounds of the permutation in the C++ witness calculator

The code of `PoseidonEx_68_run` computes the permutation of circomlib.  Every subcomponent has a
slot, with its record and its signals; the code of a round works on the slots of the round only, so
that the outputs of the round before keep their values until they are read.

## Main definitions

* `AuthCpp.PoseidonEx68.WorkOn` — a piece of code works on some of the slots.
* `AuthCpp.PoseidonEx68.Stage` — the invariant of the loops over the rounds.

## Main results

* `AuthCpp.PoseidonEx68.Stage.round` — a full round takes a stage to the next.
* `AuthCpp.PoseidonEx68.Stage.firstRounds`, `AuthCpp.PoseidonEx68.Stage.partialRounds`,
  `AuthCpp.PoseidonEx68.Stage.lastRounds` — the loops.
* `AuthCpp.PoseidonEx68.run_yields` — the code ends without a failed assertion, and its output is
  that of the permutation of circomlib, at the tables of the code.
-/

set_option relaxedAutoImplicit false
set_option autoImplicit false

open Bn254

namespace AuthCpp.PoseidonEx68

/-! ## Work on some of the slots -/

/-- The signals of the slots in `E`. -/
def signals (b : ℕ) (E : Set ℕ) : Set ℕ := {a | ∃ s ∈ E, b + start s ≤ a ∧ a < b + start (s + 1)}

/-- The records of the slots in `E`. -/
def records (me : ℕ) (E : Set ℕ) : Set ℕ := {k | ∃ s ∈ E, k = s + me + 1}

/-- Only signals and input counters of the slots in `E` differ. -/
abbrev WorkOn (me b : ℕ) (E : Set ℕ) : Memory → Memory → Prop :=
  Work (signals b E) (records me E)

/-- The slots are in order. -/
lemma start_le_start {s t : ℕ} (h : s ≤ t) : start s ≤ start t := by
  simp only [start]
  grind

/-- A slot has the signals of its own template. -/
lemma lt_start_succ {s o : ℕ} (h : o < 4) (hs : s ≠ 15) : start s + o < start (s + 1) := by
  simp only [start]
  grind

/-- The signals of a slot of the set belong to the set. -/
lemma mem_signals {b s a : ℕ} {E : Set ℕ} (hs : s ∈ E) (h : b + start s ≤ a)
    (h' : a < b + start (s + 1)) : a ∈ signals b E :=
  ⟨s, hs, h, h'⟩

/-- The signals of a slot outside the set do not. -/
lemma not_mem_signals {b s a : ℕ} {E : Set ℕ} (hs : s ∉ E) (h : b + start s ≤ a)
    (h' : a < b + start (s + 1)) : a ∉ signals b E := by
  rintro ⟨t, ht, hle, hlt⟩
  rcases lt_trichotomy s t with hst | rfl | hts
  · have := start_le_start (show s + 1 ≤ t from hst)
    omega
  · exact hs ht
  · have := start_le_start (show t + 1 ≤ s from hts)
    omega

/-- The signals of the component itself are in no slot. -/
lemma not_mem_signals_of_lt {b a : ℕ} {E : Set ℕ} (h : a < b + 3) : a ∉ signals b E := by
  rintro ⟨t, -, hle, -⟩
  have hzero : start 0 = 3 := rfl
  have := start_le_start t.zero_le
  omega

/-- More slots have more signals. -/
lemma signals_mono {b : ℕ} {E E' : Set ℕ} (h : E ⊆ E') : signals b E ⊆ signals b E' :=
  fun _ ⟨s, hs, ha⟩ => ⟨s, h hs, ha⟩

/-- More slots have more records. -/
lemma records_mono {me : ℕ} {E E' : Set ℕ} (h : E ⊆ E') : records me E ⊆ records me E' :=
  fun _ ⟨s, hs, ha⟩ => ⟨s, h hs, ha⟩

section Slots

variable {me b : ℕ} {D E E' : Set ℕ} {ctx ctx' : Memory}

/-- Work on some slots is work on any larger set of slots. -/
theorem WorkOn.mono (h : WorkOn me b E ctx ctx') (hE : E ⊆ E') : WorkOn me b E' ctx ctx' :=
  Work.mono h (signals_mono hE) (records_mono hE)

/-- The signals of the other slots keep their values. -/
lemma WorkOn.signal_eq (h : WorkOn me b E ctx ctx') {s o : ℕ} (hs : s ∉ E) (hs' : s ≠ 15)
    (ho : o < 4) : ctx'.signalValues (b + start s + o) = ctx.signalValues (b + start s + o) := by
  have hlt := lt_start_succ ho hs'
  exact h.signals (not_mem_signals hs (by omega) (by omega))

/-- The first two signals of the other slots keep their values. -/
lemma WorkOn.state_eq (h : WorkOn me b E ctx ctx') {s : ℕ} (hs : s ∉ E) (hs' : s ≠ 15) :
    ctx'.state (b + start s) = ctx.state (b + start s) :=
  funext fun j => h.signal_eq hs hs' (by omega)

/-- The slots that are not worked on have no input yet. -/
lemma Wired.workOn (h : Wired me b D ctx) (hwork : WorkOn me b E ctx ctx') :
    Wired me b (D ∪ E) ctx' where
  child s hs := hwork.isChild (h.child s hs)
  templateId_eq s hs := (hwork.templateId_eq _).trans (h.templateId_eq s hs)
  inputCounter_eq s hs hD := by
    rw [Set.mem_union, not_or] at hD
    have hrec : s + me + 1 ∉ records me E := by
      rintro ⟨t, ht, heq⟩
      obtain rfl : s = t := by omega
      exact hD.2 ht
    rw [hwork.components hrec, h.inputCounter_eq s hs hD.1]

/-- More slots may have inputs. -/
theorem Wired.mono (h : Wired me b D ctx) (hD : D ⊆ E) : Wired me b E ctx :=
  ⟨h.child, h.templateId_eq, fun s hs hE => h.inputCounter_eq s hs (Set.notMem_subset hD hE)⟩

end Slots

/-! ## One subcomponent -/

/-- What the layer in the slot `s` computes. -/
def layer (K : Constants) (s : ℕ) : (Fin 2 → Fr) → Fin 2 → Fr :=
  if s < 8 then Poseidon.ark K.poseidonC (if s ≤ 4 then 2 * s else 56 + 2 * s)
  else if s < 15 then Poseidon.mix (if s = 11 then K.poseidon.P else K.poseidon.M)
  else Poseidon.mixS K.poseidonS (s - 16)

/-- The functions of `MixS` in the table. -/
theorem functionTable_mixS (K : Constants) {n : ℕ} (hn : n < 56) :
    functionTable K (8 + n) = MixS.run K n := by
  rw [functionTable, if_pos (by omega), Nat.add_sub_cancel_left] <;> omega

/-- The function table leads to the code of the layer. -/
lemma functionTable_template {K : Constants} {s : ℕ} (hs : s < 72 ∧ s ≠ 15) {k b : ℕ}
    {ctx : Memory} (hb : (ctx.componentMemory k).signalStart = b) :
    functionTable K (template s).templateId k ctx =
      .ok (ctx.setState b (layer K s (ctx.state (b + 2)))) := by
  rcases Nat.lt_or_ge s 8 with hark | hark
  · interval_cases s <;> exact Ark.run_eq _ hb
  rcases Nat.lt_or_ge s 15 with hmix | hmix
  · interval_cases s <;> exact Mix.run_eq _ hb
  · have htemplate : template s = MixS.header (s - 16) := by
      rw [template]
      grind
    have hlayer : layer K s = Poseidon.mixS K.poseidonS (s - 16) := by
      rw [layer, if_neg (by omega), if_neg (by omega)]
    rw [htemplate, MixS.header, functionTable_mixS K (by omega), hlayer]
    exact MixS.run_eq _ hb

section Step

variable {K : Constants} {me b : ℕ} {D : Set ℕ} {ctx : Memory}

/-- The input of an S-box. -/
lemma Wired.setSigma_yields (h : Wired me b D ctx) {s : ℕ} (hs : 72 ≤ s ∧ s < 144) (hD : s ∉ D)
    (v : Fr) : Yields (setSigma me (entry s) v ctx) fun ctx' =>
      ctx'.signalValues (b + start s) = Poseidon.sigma v ∧ WorkOn me b {s} ctx ctx' := by
  have hchild := h.child s hs.2
  have hcount : (ctx.componentMemory (s + me + 1)).inputCounter = 1 := by
    rw [h.inputCounter_eq s hs.2 hD, template]
    grind [Sigma1.header]
  have hnext : start (s + 1) = start s + 4 := by
    simp only [start]
    grind
  have hinput : b + start s + 1 ∈ signals b {s} :=
    mem_signals (Set.mem_singleton s) (by omega) (by omega)
  rw [setSigma, hchild.runIfNeeded_store_of_one hcount]
  refine (Sigma1.run_yields (hchild.feed _ _ _).signalStart_eq (records me {s})).mono ?_
  rintro ctx' ⟨hout, hwork⟩
  have hfeed : WorkOn me b {s} ctx (ctx.feed (s + me + 1) (b + start s + 1) v) :=
    .feed ctx v ⟨s, rfl, rfl⟩ hinput
  refine ⟨?_, hfeed.trans (Work.mono hwork ?_ subset_rfl)⟩
  · rw [hout, Memory.feed_signalValues, Function.update_self]
  · exact fun a ha => mem_signals (Set.mem_singleton s) ha.1 (by have := ha.2; omega)

/-- The two inputs of a layer, of which the second is read after the first is set.

**Proof sketch.** The first assignment counts the layer's inputs down to one, the second starts
its function, and both stay inside the slot. -/
lemma Wired.setLayer_yields (h : Wired me b D ctx) {s : ℕ} (hs : s < 72 ∧ s ≠ 15) (hD : s ∉ D)
    (x : Fin 2 → Fr) (v : Memory → Fr) (hv : ∀ ctx', WorkOn me b {s} ctx ctx' → v ctx' = x 1) :
    Yields (setLayer K me (entry s) 0 (x 0) ctx >>= fun ctx₁ =>
        setLayer K me (entry s) 1 (v ctx₁) ctx₁) fun ctx' =>
      ctx'.state (b + start s) = layer K s x ∧ WorkOn me b {s} ctx ctx' := by
  have hchild := h.child s (by omega)
  have hcount : (ctx.componentMemory (s + me + 1)).inputCounter = 2 := by
    rw [h.inputCounter_eq s (by omega) hD, template]
    grind [Ark.header, Mix.header, MixS.header]
  have hnext : start (s + 1) = start s + 4 := by
    simp only [start]
    grind
  have hmem : ∀ o < 4, b + start s + o ∈ signals b {s} := fun o ho =>
    mem_signals (Set.mem_singleton s) (by omega) (by omega)
  set ctx₁ := ctx.feed (s + me + 1) (b + start s + 2) (x 0)
  set ctx₂ := ctx₁.feed (s + me + 1) (b + start s + 3) (x 1)
  have hfirst : setLayer K me (entry s) 0 (x 0) ctx = .ok ctx₁ :=
    hchild.runIfNeeded_store_of_two hcount _ _ _
  have hwork₁ : WorkOn me b {s} ctx ctx₁ := .feed ctx _ ⟨s, rfl, rfl⟩ (hmem 2 (by omega))
  have hwork₂ : WorkOn me b {s} ctx ctx₂ :=
    hwork₁.trans (.feed ctx₁ _ ⟨s, rfl, rfl⟩ (hmem 3 (by omega)))
  have hchild₁ := hwork₁.isChild hchild
  have hcount₁ : (ctx₁.componentMemory (s + me + 1)).inputCounter = 1 :=
    ctx.feed_inputCounter_of_two _ _ hcount
  have hsecond : setLayer K me (entry s) 1 (x 1) ctx₁ =
      functionTable K (template s).templateId (s + me + 1) ctx₂ := by
    have htemplate : (ctx₁.componentMemory (ctx₁.subcomponent me (entry s))).templateId =
        (template s).templateId := by
      rw [hchild₁.subcomponent_eq, hwork₁.templateId_eq, h.templateId_eq s (by omega)]
    rw [← htemplate]
    exact hchild₁.runIfNeeded_store_of_one hcount₁ _ _ _
  have hstate : ctx₂.state (b + start s + 2) = x := ctx.state_feed_feed _ _ _ x
  refine Yields.of_eq hfirst ?_
  rw [hv ctx₁ hwork₁, hsecond, functionTable_template hs (hwork₂.isChild hchild).signalStart_eq,
    hstate]
  exact .ok ⟨ctx₂.setState_state _ _, hwork₂.trans (.setState ctx₂ _ (hmem 0 (by omega))
    (hmem 1 (by omega)))⟩

end Step

/-! ## Rounds -/

section Rounds

variable {K : Constants} {me b : ℕ} {D : Set ℕ} {ctx : Memory}

/-- A signal of a subcomponent by its address. -/
theorem Wired.load_eq (h : Wired me b D ctx) {s : ℕ} (hs : s < 144) (off : ℕ) :
    ctx.load me (entry s) off = ctx.signalValues (b + start s + off) :=
  (h.child s hs).load_eq off

/-- The output of a subcomponent by its address. -/
theorem Wired.output_eq (h : Wired me b D ctx) {s : ℕ} (hs : s < 144) (j : Fin 2) :
    output ctx me (entry s) j = ctx.state (b + start s) j := by
  rw [output, h.load_eq hs, ioOffset, Nat.mul_zero, Nat.zero_add]
  rfl

/-- The loop over the S-boxes of a full round.

**Proof sketch.** Two S-boxes in slots of their own, so the second leaves the output of the first.
-/
lemma Wired.sigmaLoop_yields (h : Wired me b D ctx) {s p : ℕ} (hs : 72 ≤ s ∧ s + 1 < 144)
    (hD : s ∉ D ∧ s + 1 ∉ D) (hp : p < 72 ∧ p ≠ 15) {dst : Fr → ℕ} {src : ℕ}
    (hdst : ∀ j < 2, dst ((j : ℕ) : Fr) = entry (s + j)) (hsrc : src = entry p) :
    Yields (sigmaLoop K me dst src ctx) fun ctx' =>
      (∀ j : Fin 2, ctx'.signalValues (b + start (s + j)) =
        Poseidon.sigma (ctx.state (b + start p) j)) ∧ WorkOn me b {s, s + 1} ctx ctx' := by
  rw [sigmaLoop, forLoop_two, hdst 0 (by omega), hdst 1 (by omega), frToInt_natCast (by decide),
    frToInt_natCast (by decide), hsrc]
  refine (h.setSigma_yields (by omega) hD.1 _).bind ?_
  rintro ctx₁ ⟨hout₁, hwork₁⟩
  have h₁ := h.workOn hwork₁
  have hD₁ : s + 1 ∉ D ∪ {s} := by
    simp [hD.2]
  refine (h₁.setSigma_yields (by omega) hD₁ _).mono ?_
  rintro ctx₂ ⟨hout₂, hwork₂⟩
  have hne : s ∉ ({s + 1} : Set ℕ) := by simp
  have hp₁ : p ∉ ({s} : Set ℕ) := by
    rw [Set.mem_singleton_iff]
    omega
  refine ⟨Fin.forall_fin_two.mpr ⟨?_, ?_⟩, (hwork₁.mono (by simp)).trans (hwork₂.mono (by simp))⟩
  · exact (hwork₂.signal_eq (o := 0) hne (by omega) (by omega)).trans
      (hout₁.trans (congrArg _ (h.output_eq (by omega) 0)))
  · rw [← hwork₁.state_eq hp₁ hp.2, ← h₁.output_eq (by omega)]
    exact hout₂

/-- The loop that sets the inputs of a layer `ark`. -/
lemma Wired.arkLoop_yields (h : Wired me b D ctx) {t s : ℕ} (ht : t < 8) (hD : t ∉ D)
    (hs : 72 ≤ s ∧ s + 1 < 144) {dst : ℕ} {src : Fr → ℕ} (hdst : dst = entry t)
    (hsrc : ∀ j < 2, src ((j : ℕ) : Fr) = entry (s + j)) :
    Yields (arkLoop K me dst src ctx) fun ctx' =>
      ctx'.state (b + start t) = layer K t (fun j => ctx.signalValues (b + start (s + j))) ∧
        WorkOn me b {t} ctx ctx' := by
  rw [arkLoop, forLoop_two, hsrc 0 (by omega), hsrc 1 (by omega), frToInt_natCast (by decide),
    frToInt_natCast (by decide), hdst, h.load_eq (by omega)]
  refine h.setLayer_yields (by omega) hD (fun j => ctx.signalValues (b + start (s + j)))
    (fun ctx => ctx.load me (entry (s + 1)) 0) fun ctx' hwork => ?_
  rw [(h.workOn hwork).load_eq (by omega)]
  exact hwork.signal_eq (by rw [Set.mem_singleton_iff]; omega) (by omega) (by omega)

/-- The loop that sets the inputs of a layer `mix`. -/
lemma Wired.mixLoop_yields (h : Wired me b D ctx) {t s : ℕ} (ht : 8 ≤ t ∧ t < 15) (hD : t ∉ D)
    (hs : s < 8) {dst src : ℕ} (hdst : dst = entry t) (hsrc : src = entry s) :
    Yields (mixLoop K me dst src ctx) fun ctx' =>
      ctx'.state (b + start t) = layer K t (ctx.state (b + start s)) ∧
        WorkOn me b {t} ctx ctx' := by
  rw [mixLoop, forLoop_two, frToInt_natCast (by decide), frToInt_natCast (by decide), hdst, hsrc,
    show output ctx me (entry s) 0 = _ from h.output_eq (by omega) 0]
  refine h.setLayer_yields (by omega) hD (ctx.state (b + start s))
    (fun ctx => output ctx me (entry s) 1) fun ctx' hwork => ?_
  rw [← hwork.state_eq (by rw [Set.mem_singleton_iff]; omega) (by omega)]
  exact (h.workOn hwork).output_eq (by omega) 1

/-- The slots that full round `f` works on. -/
def roundSlots (f : ℕ) : Set ℕ := {s | s = f + 1 ∨ s = 8 + f ∨ s = 72 + 2 * f ∨ s = 72 + 2 * f + 1}

/-- **A full round**, on the outputs of the layer in the slot `p`.

**Proof sketch.** The S-boxes, the added constants and the mixing, each on a slot that is not done
yet. -/
theorem Wired.round_yields (h : Wired me b D ctx) {f p : ℕ} (hf : f < 7)
    (hD : ∀ s ∈ roundSlots f, s ∉ D) (hp : p < 72 ∧ p ≠ 15) {dst arkSrc : Fr → ℕ}
    {src ark mix : ℕ} (hdst : ∀ j < 2, dst ((j : ℕ) : Fr) = entry (72 + 2 * f + j))
    (hsrc : src = entry p) (hark : ark = entry (f + 1))
    (harkSrc : ∀ j < 2, arkSrc ((j : ℕ) : Fr) = entry (72 + 2 * f + j))
    (hmix : mix = entry (8 + f)) :
    Yields (do
        let ctx ← sigmaLoop K me dst src ctx
        let ctx ← arkLoop K me ark arkSrc ctx
        mixLoop K me mix ark ctx) fun ctx' =>
      ctx'.state (b + start (8 + f)) =
        layer K (8 + f) (layer K (f + 1) fun j => Poseidon.sigma (ctx.state (b + start p) j)) ∧
      WorkOn me b (roundSlots f) ctx ctx' := by
  have hD' : ∀ s, s = f + 1 ∨ s = 8 + f ∨ s = 72 + 2 * f ∨ s = 72 + 2 * f + 1 → s ∉ D := hD
  refine (h.sigmaLoop_yields (by omega) ⟨hD' _ (by omega), hD' _ (by omega)⟩ hp hdst hsrc).bind ?_
  rintro ctx₁ ⟨hout₁, hwork₁⟩
  have h₁ := h.workOn hwork₁
  have hD₁ : f + 1 ∉ D ∪ {72 + 2 * f, 72 + 2 * f + 1} := by
    simp only [Set.mem_union, Set.mem_insert_iff, Set.mem_singleton_iff, hD' (f + 1) (by omega),
      false_or, not_or]
    omega
  refine (h₁.arkLoop_yields (by omega) hD₁ (by omega) hark harkSrc).bind ?_
  rintro ctx₂ ⟨hout₂, hwork₂⟩
  have hD₂ : 8 + f ∉ D ∪ {72 + 2 * f, 72 + 2 * f + 1} ∪ {f + 1} := by
    simp only [Set.mem_union, Set.mem_insert_iff, Set.mem_singleton_iff, hD' (8 + f) (by omega),
      false_or, not_or]
    omega
  refine ((h₁.workOn hwork₂).mixLoop_yields (by omega) hD₂ (by omega) hmix hark).mono ?_
  rintro ctx₃ ⟨hout₃, hwork₃⟩
  rw [hout₂, funext hout₁] at hout₃
  refine ⟨hout₃, ((hwork₁.mono ?_).trans (hwork₂.mono ?_)).trans (hwork₃.mono ?_)⟩
  all_goals
    intro s hs
    simp only [Set.mem_insert_iff, Set.mem_singleton_iff] at hs
    simp only [roundSlots, Set.mem_ofPred_eq]
    omega

end Rounds

/-! ## The loops over the rounds -/

/-- The slots that are done after `f` full rounds and `p` partial rounds. -/
def done (f p : ℕ) : Set ℕ :=
  {s | s ≤ f ∧ s < 8 ∨ 8 ≤ s ∧ s < 8 + f ∨ 16 ≤ s ∧ s < 16 + p ∨ 72 ≤ s ∧ s < 72 + 2 * f ∨
    88 ≤ s ∧ s < 88 + p}

/-- After `f` full rounds and `p` partial rounds, the outputs of the layer in the slot `s` are the
state `x`. -/
structure Stage (me b : ℕ) (ctx₀ : Memory) (f p s : ℕ) (x : Fin 2 → Fr) (ctx : Memory) : Prop where
  /-- The slots that are not done have no input yet. -/
  wired : Wired me b (done f p) ctx
  /-- The outputs of the last layer. -/
  state_eq : ctx.state (b + start s) = x
  /-- Nothing else has changed. -/
  work : WorkOn me b (Set.Iio 144) ctx₀ ctx

section Loops

variable {K : Constants} {me b : ℕ} {ctx₀ ctx : Memory} {x y : Fin 2 → Fr}

/-- Work on the slots of the next round. -/
theorem Stage.next {f p s : ℕ} (h : Stage me b ctx₀ f p s y ctx) {E : Set ℕ} {ctx' : Memory}
    (hwork : WorkOn me b E ctx ctx') {f' p' s' : ℕ} (hE : ∀ s ∈ E, s ∈ done f' p' ∧ s < 144)
    (hle : done f p ⊆ done f' p') {y' : Fin 2 → Fr} (hstate : ctx'.state (b + start s') = y') :
    Stage me b ctx₀ f' p' s' y' ctx' where
  wired := (h.wired.workOn hwork).mono (Set.union_subset hle fun s hs => (hE s hs).1)
  state_eq := hstate
  work := h.work.trans (hwork.mono fun s hs => (hE s hs).2)

/-- A full round takes a stage to the next.

**Proof sketch.** The numbers of the slots in the source are those of `entry`, and the slots of
the round are free. -/
theorem Stage.round {f p s : ℕ} (hf : f < 7) (hp : p ≤ 56) (h : Stage me b ctx₀ f p s y ctx)
    (hs : s < 72 ∧ s ≠ 15) :
    Yields (do
        let ctx ← sigmaLoop K me (fun j => 2 * f + frToInt j + 8) (entry s) ctx
        let ctx ← arkLoop K me (f + 1) (fun j => 2 * f + frToInt j + 8) ctx
        mixLoop K me (f + 80) (f + 1) ctx)
      (Stage me b ctx₀ (f + 1) p (8 + f)
        (layer K (8 + f) (layer K (f + 1) fun j => Poseidon.sigma (y j)))) := by
  have hentry : ∀ j < 2, 2 * f + frToInt ((j : ℕ) : Fr) + 8 = entry (72 + 2 * f + j) := by
    intro j hj
    rw [frToInt_natCast (hj.trans (by decide)), entry]
    grind
  have hark : f + 1 = entry (f + 1) := by
    rw [entry]
    grind
  have hmix : f + 80 = entry (8 + f) := by
    rw [entry]
    grind
  have hfree : ∀ s ∈ roundSlots f, s ∉ done f p := by
    simp only [roundSlots, done, Set.mem_ofPred_eq]
    omega
  refine (h.wired.round_yields hf hfree hs hentry rfl hark hentry hmix).mono ?_
  rintro ctx' ⟨hout, hwork⟩
  rw [h.state_eq] at hout
  refine h.next hwork ?_ ?_ hout
  · simp only [roundSlots, done, Set.mem_ofPred_eq]
    omega
  · intro s
    simp only [done, Set.mem_ofPred_eq]
    omega

/-- A full round is one of the permutation. -/
lemma layer_first {f : ℕ} (hf : f < 4) (x : Fin 2 → Fr) :
    layer K (8 + f) (layer K (f + 1) fun j => Poseidon.sigma (x j)) =
      Poseidon.Ex.fullRound K.poseidon.C (if f = 3 then K.poseidon.P else K.poseidon.M)
        ((f + 1) * (1 + 1)) x := by
  interval_cases f <;> rfl

/-- The layers of a full round at the end. -/
lemma layer_last {f : ℕ} (hf : f < 3) (x : Fin 2 → Fr) :
    layer K (8 + (4 + f)) (layer K (4 + f + 1) fun j => Poseidon.sigma (x j)) =
      Poseidon.Ex.fullRound K.poseidon.C K.poseidon.M ((4 + 1) * (1 + 1) + 56 + f * (1 + 1)) x := by
  interval_cases f <;> rfl

/-- The loop that sets the inputs of `ark[0]`. -/
lemma absorb_yields (h : Wired me b ∅ ctx) :
    Yields (absorb K me b ctx) (Stage me b ctx 0 0 0 (Poseidon.Ex.firstState K.poseidon
      (Fin.cons (ctx.signalValues (b + 2)) fun _ => ctx.signalValues (b + 1)) 0)) := by
  have hfirst : frIsTrue (frGt ((0 : ℕ) : Fr) (K.value 72)) = false := by
    rw [K.zero, frIsTrue_frGt (by decide) (by decide)]
    rfl
  have hsecond : frIsTrue (frGt ((1 : ℕ) : Fr) (K.value 72)) = true := by
    rw [K.zero, frIsTrue_frGt (by decide) (by decide)]
    rfl
  rw [absorb, forLoop_two, hfirst, hsecond]
  refine (h.setLayer_yields (s := 0) (by omega) (Set.notMem_empty 0)
    (Fin.cons (ctx.signalValues (b + 2)) fun _ => ctx.signalValues (b + 1))
    (fun ctx => ctx.signalValues (b + 1)) fun ctx' hwork => ?_).mono ?_
  · exact hwork.signals (not_mem_signals_of_lt (by omega))
  · rintro ctx' ⟨hstate, hwork⟩
    refine ⟨(h.workOn hwork).mono ?_, hstate, hwork.mono ?_⟩
    · simp [done]
    · simp

/-- The slot whose outputs full round `i` of the first half reads. -/
def firstSlot (i : ℕ) : ℕ := if i = 0 then 0 else 7 + i

/-- The slot whose outputs partial round `i` reads. -/
def partialSlot (i : ℕ) : ℕ := if i = 0 then 11 else 15 + i

/-- The slot whose outputs full round `i` of the second half reads. -/
def lastSlot (i : ℕ) : ℕ := if i = 0 then 71 else 11 + i

/-- A full round of the first half, with its indices as numbers. -/
lemma firstRound_eq {i : ℕ} (hi : i < 3) (ctx : Memory) :
    firstRound K me ((i : ℕ) : Fr) ctx = (do
      let ctx ← sigmaLoop K me (fun j => 2 * i + frToInt j + 8) (entry (firstSlot i)) ctx
      let ctx ← arkLoop K me (i + 1) (fun j => 2 * i + frToInt j + 8) ctx
      mixLoop K me (i + 80) (i + 1) ctx) := by
  have hlt : i < r := hi.trans (by decide)
  rw [firstRound, frToInt_natCast hlt, K.frIsTrue_frEq_zero hlt]
  rcases Nat.eq_zero_or_pos i with rfl | hpos
  · rfl
  · have hsrc : entry (firstSlot i) = i - 1 + 80 := by
      simp only [entry, firstSlot]
      grind
    simp only [decide_eq_true_eq, if_neg hpos.ne', K.frToInt_sub_one hpos hlt, hsrc]
    rfl

/-- One of the first three full rounds. -/
theorem Stage.firstRound {i : ℕ} (hi : i < 3) (h : Stage me b ctx₀ i 0 (firstSlot i)
    (Poseidon.Ex.firstState K.poseidon x i) ctx) :
    Yields (firstRound K me ((i : ℕ) : Fr) ctx)
      (Stage me b ctx₀ (i + 1) 0 (firstSlot (i + 1))
        (Poseidon.Ex.firstState K.poseidon x (i + 1))) := by
  have hslot : firstSlot i < 72 ∧ firstSlot i ≠ 15 := by
    rw [firstSlot]
    grind
  have hnext : firstSlot (i + 1) = 8 + i := by
    rw [firstSlot, if_neg (Nat.succ_ne_zero i)]
    omega
  have hround := h.round (K := K) (by omega) (by omega) hslot
  rw [layer_first (by omega), if_neg (by omega)] at hround
  rw [firstRound_eq hi, hnext]
  exact hround

/-- The loop over the first three full rounds. -/
theorem Stage.firstRounds (h : Stage me b ctx₀ 0 0 (firstSlot 0)
    (Poseidon.Ex.firstState K.poseidon x 0) ctx) :
    Yields (forLoop K (K.value 195) (PoseidonEx68.firstRound K me) ctx)
      (Stage me b ctx₀ 3 0 (firstSlot 3) (Poseidon.Ex.firstState K.poseidon x 3)) :=
  forLoop_yields (fun i => Stage me b ctx₀ i 0 (firstSlot i)
    (Poseidon.Ex.firstState K.poseidon x i)) (by omega) K.three
    (fun _ hi _ h => h.firstRound hi) h

/-- The full round with the matrix `P`. -/
theorem Stage.middleRound (h : Stage me b ctx₀ 3 0 (firstSlot 3)
    (Poseidon.Ex.firstState K.poseidon x 3) ctx) :
    Yields (middleRound K me ctx)
      (Stage me b ctx₀ 4 0 (partialSlot 0) (Poseidon.Ex.partialState K.poseidon x 0)) := by
  have hround := h.round (K := K) (by omega) (by omega) (by decide)
  rw [layer_first (by omega)] at hround
  exact hround

/-- A partial round, with its indices as numbers. -/
theorem partialRound_eq {i : ℕ} (hi : i < 56) (ctx : Memory) :
    partialRound K me ((i : ℕ) : Fr) ctx = (do
      let ctx ← setSigma me (entry (88 + i)) (output ctx me (entry (partialSlot i)) 0) ctx
      let ctx ← setLayer K me (entry (16 + i)) 0
        (ctx.load me (entry (88 + i)) 0 + K.poseidonC (10 + i)) ctx
      setLayer K me (entry (16 + i)) 1 (output ctx me (entry (partialSlot i)) 1) ctx) := by
  have hlt : i < r := hi.trans (by decide)
  have hsigma : entry (88 + i) = i + 24 := by
    rw [entry]
    grind
  have hmixS : entry (16 + i) = i + 87 := by
    rw [entry]
    grind
  rw [partialRound, frToInt_natCast hlt, K.frIsTrue_frEq_zero hlt, hsigma, hmixS]
  simp only [forLoop_two, K.frIsTrue_frEq_zero (show 0 < r by decide),
    K.frIsTrue_frEq_zero (show 1 < r by decide)]
  rcases Nat.eq_zero_or_pos i with rfl | hpos
  · rfl
  · have hsrc : entry (partialSlot i) = i - 1 + 87 := by
      simp only [entry, partialSlot]
      grind
    simp only [decide_eq_true_eq, if_neg hpos.ne', K.frToInt_sub_one hpos hlt, hsrc]
    rfl

/-- One of the partial rounds.

**Proof sketch.** The S-box on the first element, then the layer `MixS`, whose second input is
still the one of the round before. -/
theorem Stage.partialRound {i : ℕ} (hi : i < 56) (h : Stage me b ctx₀ 4 i (partialSlot i)
    (Poseidon.Ex.partialState K.poseidon x i) ctx) :
    Yields (partialRound K me ((i : ℕ) : Fr) ctx)
      (Stage me b ctx₀ 4 (i + 1) (partialSlot (i + 1))
        (Poseidon.Ex.partialState K.poseidon x (i + 1))) := by
  have hprev : partialSlot i < 72 ∧ partialSlot i ≠ 15 ∧ partialSlot i ≠ 16 + i := by
    simp only [partialSlot]
    grind
  have hD : 88 + i ∉ done 4 i ∧ 16 + i ∉ done 4 i ∪ {88 + i} := by
    simp only [done, Set.mem_union, Set.mem_singleton_iff, Set.mem_ofPred_eq]
    omega
  rw [partialRound_eq hi]
  refine (h.wired.setSigma_yields (by omega) hD.1 _).bind ?_
  rintro ctx₁ ⟨hout₁, hwork₁⟩
  have h₁ := h.wired.workOn hwork₁
  have hstate₁ : ctx₁.state (b + start (partialSlot i)) =
      Poseidon.Ex.partialState K.poseidon x i := by
    rw [hwork₁.state_eq (by rw [Set.mem_singleton_iff]; omega) hprev.2.1, h.state_eq]
  have hinp : ctx₁.load me (entry (88 + i)) 0 + K.poseidonC (10 + i) =
      Poseidon.Ex.partialInp K.poseidon i (Poseidon.Ex.partialState K.poseidon x i) 0 := by
    rw [h₁.load_eq (by omega), Nat.add_zero, hout₁]
    have hsrc := h.wired.output_eq (show partialSlot i < 144 by omega) 0
    rw [h.state_eq] at hsrc
    exact congrArg (fun v => Poseidon.sigma v + K.poseidonC (10 + i)) hsrc
  rw [hinp]
  refine (h₁.setLayer_yields (by omega) hD.2
    (Poseidon.Ex.partialInp K.poseidon i (Poseidon.Ex.partialState K.poseidon x i))
    (fun ctx => output ctx me (entry (partialSlot i)) 1) fun ctx' hwork => ?_).mono ?_
  · have hsrc := (h₁.workOn hwork).output_eq (show partialSlot i < 144 by omega) 1
    rw [hwork.state_eq (by rw [Set.mem_singleton_iff]; omega) hprev.2.1, hstate₁] at hsrc
    exact hsrc
  · rintro ctx₂ ⟨hout₂, hwork₂⟩
    have hlayer : layer K (16 + i) = Poseidon.mixS K.poseidonS i := by
      rw [layer, if_neg (by omega), if_neg (by omega), Nat.add_sub_cancel_left]
    have hwork : WorkOn me b {88 + i, 16 + i} ctx ctx₂ :=
      (hwork₁.mono (by simp)).trans (hwork₂.mono (by simp))
    refine h.next hwork ?_ ?_ ?_
    · simp only [Set.mem_insert_iff, Set.mem_singleton_iff, done, Set.mem_ofPred_eq]
      omega
    · intro s
      simp only [done, Set.mem_ofPred_eq]
      omega
    · rw [partialSlot, if_neg (Nat.succ_ne_zero i), show 15 + (i + 1) = 16 + i by omega, hout₂,
        hlayer]
      rfl

/-- The loop over the partial rounds. -/
theorem Stage.partialRounds (h : Stage me b ctx₀ 4 0 (partialSlot 0)
    (Poseidon.Ex.partialState K.poseidon x 0) ctx) :
    Yields (forLoop K (K.value 284) (PoseidonEx68.partialRound K me) ctx)
      (Stage me b ctx₀ 4 56 (partialSlot 56) (Poseidon.Ex.partialState K.poseidon x 56)) :=
  forLoop_yields (fun i => Stage me b ctx₀ 4 i (partialSlot i)
    (Poseidon.Ex.partialState K.poseidon x i)) (by omega) K.fiftySix
    (fun _ hi _ h => h.partialRound hi) h

/-- A full round of the second half, with its indices as numbers. -/
lemma lastRound_eq {i : ℕ} (hi : i < 3) (ctx : Memory) :
    lastRound K me ((i : ℕ) : Fr) ctx = (do
      let ctx ← sigmaLoop K me (fun j => 2 * (4 + i) + frToInt j + 8) (entry (lastSlot i)) ctx
      let ctx ← arkLoop K me (4 + i + 1) (fun j => 2 * (4 + i) + frToInt j + 8) ctx
      mixLoop K me (4 + i + 80) (4 + i + 1) ctx) := by
  have hlt : i < r := hi.trans (by decide)
  have hsum : K.value 79 + (i : Fr) = ((4 + i : ℕ) : Fr) := by
    rw [K.four, ← Nat.cast_add]
  have hsmall : 4 + i < r := (Nat.add_lt_add_left hi 4).trans (by decide)
  rw [lastRound, frToInt_natCast hlt, K.frIsTrue_frEq_zero hlt, hsum,
    K.frToInt_sub_one (by omega) hsmall]
  rcases Nat.eq_zero_or_pos i with rfl | hpos
  · rfl
  · have hsrc : entry (lastSlot i) = 4 + i - 1 + 80 := by
      simp only [entry, lastSlot]
      grind
    simp only [decide_eq_true_eq, if_neg hpos.ne', hsrc]
    rfl

/-- One of the last three full rounds with a layer `mix`. -/
theorem Stage.lastRound {i : ℕ} (hi : i < 3) (h : Stage me b ctx₀ (4 + i) 56 (lastSlot i)
    (Poseidon.Ex.lastState K.poseidon x i) ctx) :
    Yields (lastRound K me ((i : ℕ) : Fr) ctx)
      (Stage me b ctx₀ (4 + (i + 1)) 56 (lastSlot (i + 1))
        (Poseidon.Ex.lastState K.poseidon x (i + 1))) := by
  have hslot : lastSlot i < 72 ∧ lastSlot i ≠ 15 := by
    rw [lastSlot]
    grind
  have hnext : lastSlot (i + 1) = 8 + (4 + i) := by
    rw [lastSlot, if_neg (Nat.succ_ne_zero i)]
    omega
  have hround := h.round (K := K) (by omega) le_rfl hslot
  rw [layer_last hi] at hround
  rw [lastRound_eq hi, hnext]
  exact hround

/-- The loop over the last three full rounds with a layer `mix`. -/
theorem Stage.lastRounds (h : Stage me b ctx₀ 4 56 (lastSlot 0)
    (Poseidon.Ex.lastState K.poseidon x 0) ctx) :
    Yields (forLoop K (K.value 195) (PoseidonEx68.lastRound K me) ctx)
      (Stage me b ctx₀ 7 56 (lastSlot 3) (Poseidon.Ex.lastState K.poseidon x 3)) :=
  forLoop_yields (fun i => Stage me b ctx₀ (4 + i) 56 (lastSlot i)
    (Poseidon.Ex.lastState K.poseidon x i)) (by omega) K.three
    (fun _ hi _ h => h.lastRound hi) h

/-- The inputs of `mixLast`, and its output.

**Proof sketch.** As for a layer, but the two inputs are S-boxes that are done, and the output is
copied to the signal of the component. -/
lemma Wired.squeeze_yields {D : Set ℕ} (h : Wired me b D ctx) (hD : 15 ∉ D)
    (hx : ∀ j : Fin 2, ctx.signalValues (b + start (86 + j)) = x j) :
    Yields (squeeze K me b ctx) fun ctx' =>
      ctx'.signalValues b = Poseidon.mixLast K.poseidon.M 0 x ∧
      Work (insert b (signals b {15})) (records me {15}) ctx ctx' := by
  have hchild := h.child 15 (by omega)
  have hcount : (ctx.componentMemory (15 + me + 1)).inputCounter = 2 :=
    h.inputCounter_eq 15 (by omega) hD
  have hmem : ∀ o < 3, b + start 15 + o ∈ signals b {15} := by
    have hnext : start (15 + 1) = start 15 + 3 := rfl
    exact fun o ho => mem_signals (Set.mem_singleton 15) (by omega) (by omega)
  set ctx₁ := ctx.feed (15 + me + 1) (b + start 15 + 1) (x 0)
  set ctx₂ := ctx₁.feed (15 + me + 1) (b + start 15 + 2) (x 1)
  set ctx₃ := ctx₂.setSignal (b + start 15) (Poseidon.mixLast K.poseidon.M 0 x)
  have hwork₁ : WorkOn me b {15} ctx ctx₁ := .feed ctx _ ⟨15, rfl, rfl⟩ (hmem 1 (by omega))
  have hwork₂ : WorkOn me b {15} ctx ctx₂ :=
    hwork₁.trans (.feed ctx₁ _ ⟨15, rfl, rfl⟩ (hmem 2 (by omega)))
  have hwork₃ : WorkOn me b {15} ctx ctx₃ := hwork₂.trans (.setSignal ctx₂ _ (hmem 0 (by omega)))
  have hcount₁ : (ctx₁.componentMemory (15 + me + 1)).inputCounter = 1 :=
    ctx.feed_inputCounter_of_two _ _ hcount
  have hload : ctx.load me (14 + 0 + 8) 0 = x 0 := (h.load_eq (s := 86) (by omega) 0).trans (hx 0)
  have hload₁ : ctx₁.load me (14 + 1 + 8) 0 = x 1 :=
    ((h.workOn hwork₁).load_eq (s := 87) (by omega) 0).trans
      ((hwork₁.signal_eq (s := 87) (by simp) (by omega) (by omega)).trans (hx 1))
  have hstate : ctx₂.state (b + start 15 + 1) = x := ctx.state_feed_feed _ _ _ x
  have hfirst : runIfNeeded (MixLast67.run K) me 143 (ctx.store me 143 (0 + 1) (x 0)) = .ok ctx₁ :=
    hchild.runIfNeeded_store_of_two hcount _ _ _
  have hsecond : runIfNeeded (MixLast67.run K) me 143 (ctx₁.store me 143 (1 + 1) (x 1)) =
      .ok ctx₃ := by
    refine ((hwork₁.isChild hchild).runIfNeeded_store_of_one hcount₁ _ _ _).trans ?_
    rw [MixLast67.run_eq (hwork₂.isChild hchild).signalStart_eq, hstate]
    rfl
  have hout : ctx₃.load me 143 0 = Poseidon.mixLast K.poseidon.M 0 x :=
    ((hwork₃.isChild hchild).load_eq 0).trans (ctx₂.setSignal_self _ _)
  rw [squeeze, forLoop_two, frToInt_natCast (by decide), frToInt_natCast (by decide), hload,
    bind_assoc]
  refine Yields.of_eq hfirst ?_
  rw [hload₁]
  refine Yields.of_eq hsecond ?_
  rw [hout]
  exact .ok ⟨ctx₃.setSignal_self b _, (Work.mono hwork₃ (Set.subset_insert b _) subset_rfl).trans
    (.setSignal ctx₃ _ (Set.mem_insert b _))⟩

end Loops

/-! ## The whole run -/

/-- The signals of the slots are signals of the component. -/
lemma signals_subset {b : ℕ} {E : Set ℕ} (hE : ∀ s ∈ E, s < 144) :
    signals b E ⊆ Set.Ico b (b + 578) := by
  rintro a ⟨s, hs, hle, hlt⟩
  have hlast : start 144 = 578 := rfl
  have hstart := start_le_start (show s + 1 ≤ 144 from hE s hs)
  exact Set.mem_Ico.mpr (by omega)

/-- The records of the slots lie from that of the component on. -/
lemma records_subset {me : ℕ} {E : Set ℕ} (hE : ∀ s ∈ E, s < 144) :
    records me E ⊆ Set.Icc me (me + 144) := by
  rintro k ⟨s, hs, rfl⟩
  have hlt := hE s hs
  exact Set.mem_Icc.mpr (by omega)

/-- **The C++ permutation is that of circomlib.** The code ends without a failed assertion, its
output is that of the permutation on the initial state and the input, and it works on its own 578
signals and on its own record and those of its 144 subcomponents.

**Proof sketch.** Each loop takes the stage before to the stage after. -/
theorem run_yields {K : Constants} {me b : ℕ} {ctx : Memory}
    (hb : (ctx.componentMemory me).signalStart = b) :
    Yields (run K me ctx) fun ctx' =>
      ctx'.signalValues b = Poseidon.Ex.squeeze K.poseidon
        (Fin.cons (ctx.signalValues (b + 2)) fun _ => ctx.signalValues (b + 1)) 0 ∧
      (ctx'.componentMemory me).signalStart = b ∧
      Frame (Set.Ico b (b + 578)) (Set.Icc me (me + 144)) ctx ctx' := by
  set x : Fin 2 → Fr := Fin.cons (ctx.signalValues (b + 2)) fun _ => ctx.signalValues (b + 1)
  set ctx₀ := components me b ctx with hctx₀
  have hframe₀ : Frame (Set.Ico b (b + 578)) (Set.Icc me (me + 144)) ctx ctx₀ :=
    frame_components me b ctx
  have hstart₀ : (ctx₀.componentMemory me).signalStart = b := by
    rw [hctx₀, components_signalStart, hb]
  have hsignals : ctx₀.signalValues = ctx.signalValues :=
    funext fun a => (frame_components me b ctx).signals (Set.notMem_empty a)
  have habsorb := absorb_yields (K := K) (wired_components me b ctx)
  rw [← hctx₀, hsignals] at habsorb
  rw [run, hb]
  refine habsorb.bind fun ctx₁ h₁ => ?_
  refine h₁.firstRounds.bind fun ctx₂ h₂ => ?_
  refine h₂.middleRound.bind fun ctx₃ h₃ => ?_
  refine h₃.partialRounds.bind fun ctx₄ h₄ => ?_
  refine h₄.lastRounds.bind fun ctx₅ h₅ => ?_
  -- the last S-boxes and the output
  have hentry : ∀ j < 2, 14 + frToInt ((j : ℕ) : Fr) + 8 = entry (86 + j) := by
    intro j hj
    rw [frToInt_natCast (hj.trans (by decide)), entry]
    grind
  have hD : 86 ∉ done 7 56 ∧ 86 + 1 ∉ done 7 56 ∧ 15 ∉ done 7 56 ∪ {86, 86 + 1} := by
    simp [done]
  refine (h₅.wired.sigmaLoop_yields (s := 86) (p := 14) (by omega) ⟨hD.1, hD.2.1⟩ (by omega)
    hentry rfl).bind ?_
  rintro ctx₆ ⟨hout₆, hwork₆⟩
  have h₆ := h₅.wired.workOn hwork₆
  rw [singleLoop_eq K.zero K.one (by omega) (by decide)]
  refine (h₆.squeeze_yields hD.2.2 hout₆).mono ?_
  rintro ctx₇ ⟨hout₇, hwork₇⟩
  have hwork : Work (Set.Ico b (b + 578)) (Set.Icc me (me + 144)) ctx₀ ctx₇ := by
    have hpair : ∀ s ∈ ({86, 86 + 1} : Set ℕ), s < 144 := by simp
    have hlast : ∀ s ∈ ({15} : Set ℕ), s < 144 := by simp
    refine ((Work.mono h₅.work (signals_subset fun _ => id) (records_subset fun _ => id)).trans
      (Work.mono hwork₆ (signals_subset hpair) (records_subset hpair))).trans
      (hwork₇.mono (Set.insert_subset ?_ (signals_subset hlast)) (records_subset hlast))
    exact Set.mem_Ico.mpr (by omega)
  refine ⟨?_, (hwork.signalStart_eq me).trans hstart₀, hframe₀.trans hwork.toFrame⟩
  rw [hout₇, show ctx₅.state (b + start 14) = _ from h₅.state_eq]
  rfl

end AuthCpp.PoseidonEx68
