import Mathlib.Data.Set.Function
import Mathlib.Order.Interval.Set.Basic
import ZkpAuth.Bn254
import ZkpAuth.Lib.Loop

/-!
# The memory of the C++ witness calculator

The circuit code of `auth_cpp/auth.cpp` works on two arrays of `Circom_CalcWit`: `signalValues`,
with the signals of all components one after the other, and `componentMemory`, with one record for
each component.  The code of a template is a pair of functions: `create` fills the record of a
component, `run` computes its signals once all its inputs are set.  A parent writes an input of a
subcomponent, decrements its counter, and runs it when the counter is zero.

Arrays are functions on `ℕ`; the code checks no bounds.  Addresses are natural numbers, while the
input counters are the machine's `u32`.  A failed assertion is an error with its message.

## Main definitions

* `AuthCpp.Component`, `AuthCpp.Memory` — the two arrays.
* `AuthCpp.Memory.load`, `AuthCpp.Memory.store` — the access to a signal of a subcomponent.
* `AuthCpp.needToRun`, `AuthCpp.noNeedToRun`, `AuthCpp.runIfNeeded` — what follows an input.
* `AuthCpp.Frame`, `AuthCpp.Work` — what a piece of code leaves unchanged.

## Main results

* `AuthCpp.IsChild.load_eq` — a signal of a subcomponent by its address.
* `AuthCpp.Frame.trans` — what two pieces of code leave unchanged.
-/

set_option relaxedAutoImplicit false
set_option autoImplicit false

open Bn254

namespace AuthCpp

/-! ## Components and signals -/

/-- `Circom_Component`, with the fields that the circuit code reads. -/
structure Component where
  /-- The template that the component instantiates. -/
  templateId : ℕ
  /-- The address of its first signal. -/
  signalStart : ℕ
  /-- The number of inputs that are not set yet. -/
  inputCounter : UInt32
  /-- The array `subcomponents`. -/
  subcomponents : ℕ → ℕ

/-- The arrays that the circuit code works on. -/
@[ext]
structure Memory where
  /-- `signalValues`. -/
  signalValues : ℕ → Fr
  /-- `componentMemory`. -/
  componentMemory : ℕ → Component

/-- What the `create` of a template puts into the record of a component. -/
structure Header where
  /-- The number of the template. -/
  templateId : ℕ
  /-- The number of its inputs. -/
  inputs : UInt32

/-- The code of a template on the component `ctx_index`. -/
abbrev Run := ℕ → Memory → Except String Memory

namespace Memory

variable (ctx : Memory)

/-- `ctx->signalValues[i] = v`. -/
def setSignal (i : ℕ) (v : Fr) : Memory :=
  { ctx with signalValues := Function.update ctx.signalValues i v }

/-- `ctx->componentMemory[k] = c`. -/
def setComponent (k : ℕ) (c : Component) : Memory :=
  { ctx with componentMemory := Function.update ctx.componentMemory k c }

/-- The function `create` of a template. -/
def create (T : Header) (soffset coffset : ℕ) : Memory :=
  ctx.setComponent coffset
    { templateId := T.templateId
      signalStart := soffset
      inputCounter := T.inputs
      subcomponents := fun _ => 0 }

/-- `mySubcomponents[i] = k` in the code of the component `me`. -/
def setSubcomponent (me i k : ℕ) : Memory :=
  ctx.setComponent me
    { ctx.componentMemory me with
      subcomponents := Function.update (ctx.componentMemory me).subcomponents i k }

/-- A new subcomponent `i` of the component `me`: its `create`, and its entry of the array. -/
def newChild (T : Header) (me i soffset coffset : ℕ) : Memory :=
  (ctx.create T soffset coffset).setSubcomponent me i coffset

/-- `mySubcomponents[i]` in the code of the component `me`. -/
def subcomponent (me i : ℕ) : ℕ := (ctx.componentMemory me).subcomponents i

/-- `inputCounter -= 1` on the component `k`, which wraps around at zero. -/
def decrement (k : ℕ) : Memory :=
  ctx.setComponent k
    { ctx.componentMemory k with inputCounter := (ctx.componentMemory k).inputCounter - 1 }

/-- The input signal `a` of the component `k` is set to `v`. -/
def feed (k a : ℕ) (v : Fr) : Memory := (ctx.setSignal a v).decrement k

/-- The address of signal `off` of subcomponent `i`. -/
def address (me i off : ℕ) : ℕ := (ctx.componentMemory (ctx.subcomponent me i)).signalStart + off

/-- Signal `off` of subcomponent `i`. -/
def load (me i off : ℕ) : Fr := ctx.signalValues (ctx.address me i off)

/-- `Fr_copy` to signal `off` of subcomponent `i`. -/
def store (me i off : ℕ) (v : Fr) : Memory := ctx.setSignal (ctx.address me i off) v

/-- The two signals from the address `a` on. -/
def state (a : ℕ) : Fin 2 → Fr := fun j => ctx.signalValues (a + j)

/-- The two signals from the address `a` on are set to `x`. -/
def setState (a : ℕ) (x : Fin 2 → Fr) : Memory :=
  (ctx.setSignal a (x 0)).setSignal (a + 1) (x 1)

end Memory

/-! ## What follows an input of a subcomponent -/

/-- "need to run sub component": the input was the last one. -/
def needToRun (run : Run) (me i : ℕ) (ctx : Memory) : Except String Memory :=
  let k := ctx.subcomponent me i
  let ctx := ctx.decrement k
  if (ctx.componentMemory k).inputCounter = 0 then run k ctx
  else .error "!(inputCounter)"

/-- "no need to run sub component": the input was not the last one. -/
def noNeedToRun (me i : ℕ) (ctx : Memory) : Except String Memory :=
  let k := ctx.subcomponent me i
  let ctx := ctx.decrement k
  if 0 < (ctx.componentMemory k).inputCounter then .ok ctx
  else .error "inputCounter > 0"

/-- "run sub component if needed". -/
def runIfNeeded (run : Run) (me i : ℕ) (ctx : Memory) : Except String Memory :=
  let k := ctx.subcomponent me i
  let ctx := ctx.decrement k
  if (ctx.componentMemory k).inputCounter = 0 then run k ctx else .ok ctx

/-! ## The accessors after an update -/

namespace Memory

variable (ctx : Memory)

/-- A signal is no record of a component. -/
@[simp]
lemma setSignal_componentMemory (j : ℕ) (v : Fr) :
    (ctx.setSignal j v).componentMemory = ctx.componentMemory := rfl

/-- The signal that was set is read. -/
@[simp]
lemma setSignal_self (j : ℕ) (v : Fr) : (ctx.setSignal j v).signalValues j = v :=
  Function.update_self ..

/-- The other signals stay as they are. -/
theorem setSignal_of_ne {i j : ℕ} (v : Fr) (h : i ≠ j) :
    (ctx.setSignal j v).signalValues i = ctx.signalValues i :=
  Function.update_of_ne h ..

/-- The record that was set is read. -/
@[simp]
lemma setComponent_self (j : ℕ) (c : Component) :
    (ctx.setComponent j c).componentMemory j = c :=
  Function.update_self ..

/-- The other records stay as they are. -/
lemma setComponent_of_ne {j k : ℕ} (c : Component) (h : k ≠ j) :
    (ctx.setComponent j c).componentMemory k = ctx.componentMemory k :=
  Function.update_of_ne h ..

/-- A signal is no subcomponent. -/
@[simp]
lemma setSignal_subcomponent (j : ℕ) (v : Fr) (me i : ℕ) :
    (ctx.setSignal j v).subcomponent me i = ctx.subcomponent me i := rfl

/-- An input is set like any signal. -/
@[simp]
lemma feed_signalValues (k a : ℕ) (v : Fr) :
    (ctx.feed k a v).signalValues = Function.update ctx.signalValues a v := rfl

/-- An input decrements the counter of its component. -/
lemma feed_self (k a : ℕ) (v : Fr) : ((ctx.feed k a v).componentMemory k).inputCounter =
    (ctx.componentMemory k).inputCounter - 1 := by
  rw [feed, decrement, setComponent_self, setSignal_componentMemory]

/-- One of two inputs is still missing after the first. -/
theorem feed_inputCounter_of_two {k : ℕ} (a : ℕ) (v : Fr)
    (h : (ctx.componentMemory k).inputCounter = 2) :
    ((ctx.feed k a v).componentMemory k).inputCounter = 1 := by
  rw [feed_self, h]
  rfl

/-- No input is missing after the last. -/
lemma feed_inputCounter_of_one {k : ℕ} (a : ℕ) (v : Fr)
    (h : (ctx.componentMemory k).inputCounter = 1) :
    ((ctx.feed k a v).componentMemory k).inputCounter = 0 := by
  rw [feed_self, h]
  rfl

/-- An input leaves the other components as they are. -/
theorem feed_of_ne {j k : ℕ} (a : ℕ) (v : Fr) (h : j ≠ k) :
    (ctx.feed k a v).componentMemory j = ctx.componentMemory j :=
  setComponent_of_ne _ _ h

/-- An input keeps the addresses of the components. -/
@[simp]
lemma feed_signalStart (k a : ℕ) (v : Fr) (j : ℕ) :
    ((ctx.feed k a v).componentMemory j).signalStart = (ctx.componentMemory j).signalStart := by
  by_cases h : j = k
  · rw [h, feed, decrement, setComponent_self]
    rfl
  · rw [feed_of_ne _ _ _ h]

/-- An input keeps the subcomponents. -/
@[simp]
lemma feed_subcomponent (k a : ℕ) (v : Fr) (me i : ℕ) :
    (ctx.feed k a v).subcomponent me i = ctx.subcomponent me i := by
  rw [subcomponent, subcomponent]
  by_cases h : me = k
  · rw [h, feed, decrement, setComponent_self]
    rfl
  · rw [feed_of_ne _ _ _ h]

/-- A new subcomponent sets no signal. -/
@[simp]
lemma newChild_signalValues (T : Header) (me i s c : ℕ) :
    (ctx.newChild T me i s c).signalValues = ctx.signalValues := rfl

/-- The first signal of a state. -/
@[simp]
lemma state_zero (a : ℕ) : ctx.state a 0 = ctx.signalValues a := rfl

/-- The second signal of a state. -/
@[simp]
lemma state_one (a : ℕ) : ctx.state a 1 = ctx.signalValues (a + 1) := rfl

/-- The state that was set is read. -/
@[simp]
lemma setState_state (a : ℕ) (x : Fin 2 → Fr) : (ctx.setState a x).state a = x := by
  funext j
  fin_cases j
  · refine ((ctx.setSignal a (x 0)).setSignal_of_ne _ a.lt_succ_self.ne).trans ?_
    exact ctx.setSignal_self ..
  · exact (ctx.setSignal a (x 0)).setSignal_self ..

/-- Two inputs, one after the other. -/
theorem state_feed_feed (k k' a : ℕ) (x : Fin 2 → Fr) :
    ((ctx.feed k a (x 0)).feed k' (a + 1) (x 1)).state a = x := by
  funext j
  fin_cases j <;> simp

/-- A new subcomponent leaves the other records as they are. -/
theorem newChild_of_ne {me c k : ℕ} (T : Header) (i s : ℕ) (hme : k ≠ me) (hc : k ≠ c) :
    (ctx.newChild T me i s c).componentMemory k = ctx.componentMemory k := by
  rw [newChild, setSubcomponent, setComponent_of_ne _ _ hme, create, setComponent_of_ne _ _ hc]

/-- The record of a new subcomponent. -/
theorem newChild_self {me c : ℕ} (T : Header) (i s : ℕ) (h : c ≠ me) :
    (ctx.newChild T me i s c).componentMemory c = ⟨T.templateId, s, T.inputs, fun _ => 0⟩ := by
  rw [newChild, setSubcomponent, setComponent_of_ne _ _ h, create, setComponent_self]

/-- The subcomponents after a new one. -/
lemma newChild_subcomponent {me c : ℕ} (T : Header) (i s : ℕ) (h : me ≠ c) (j : ℕ) :
    (ctx.newChild T me i s c).subcomponent me j = if j = i then c else ctx.subcomponent me j := by
  simp only [newChild, setSubcomponent, subcomponent, setComponent_self, create,
    setComponent_of_ne _ _ h, Function.update_apply]

/-- A new subcomponent keeps the address of its parent. -/
theorem newChild_signalStart {me c : ℕ} (T : Header) (i s : ℕ) (h : me ≠ c) :
    ((ctx.newChild T me i s c).componentMemory me).signalStart =
      (ctx.componentMemory me).signalStart := by
  simp only [newChild, setSubcomponent, setComponent_self, create, setComponent_of_ne _ _ h]

end Memory

/-! ## Subcomponents -/

/-- Subcomponent `i` of the component `me` is the component `k`, whose signals start at `b`. -/
structure IsChild (ctx : Memory) (me i k b : ℕ) : Prop where
  /-- The entry of the array. -/
  subcomponent_eq : ctx.subcomponent me i = k
  /-- The record of the component. -/
  signalStart_eq : (ctx.componentMemory k).signalStart = b

namespace IsChild

variable {ctx : Memory} {me i k b : ℕ}

/-- A signal of a subcomponent by its address. -/
theorem load_eq (h : IsChild ctx me i k b) (off : ℕ) :
    ctx.load me i off = ctx.signalValues (b + off) := by
  rw [Memory.load, Memory.address, h.subcomponent_eq, h.signalStart_eq]

/-- The store to a signal of a subcomponent by its address. -/
lemma store_eq (h : IsChild ctx me i k b) (off : ℕ) (v : Fr) :
    ctx.store me i off v = ctx.setSignal (b + off) v := by
  rw [Memory.store, Memory.address, h.subcomponent_eq, h.signalStart_eq]

/-- A new subcomponent. -/
theorem newChild (ctx : Memory) (T : Header) {me c : ℕ} (i s : ℕ) (h : me ≠ c) :
    IsChild (ctx.newChild T me i s c) me i c s := by
  refine ⟨?_, ?_⟩
  · rw [ctx.newChild_subcomponent T i s h, if_pos rfl]
  · rw [ctx.newChild_self T i s h.symm]

/-- A new subcomponent leaves the others in place. -/
theorem of_newChild (h : IsChild ctx me i k b) (T : Header) {c j : ℕ} (s : ℕ) (hme : me ≠ c)
    (hk : k ≠ me ∧ k ≠ c) (hi : i ≠ j) : IsChild (ctx.newChild T me j s c) me i k b := by
  refine ⟨?_, ?_⟩
  · rw [ctx.newChild_subcomponent T j s hme, if_neg hi, h.subcomponent_eq]
  · rw [ctx.newChild_of_ne T j s hk.1 hk.2, h.signalStart_eq]

/-- A set input leaves the subcomponents in place. -/
theorem feed (h : IsChild ctx me i k b) (j a : ℕ) (v : Fr) : IsChild (ctx.feed j a v) me i k b :=
  ⟨by rw [Memory.feed_subcomponent, h.subcomponent_eq],
    by rw [Memory.feed_signalStart, h.signalStart_eq]⟩

/-- The last input of a subcomponent runs it, where the source asserts that it is the last. -/
theorem needToRun_store (h : IsChild ctx me i k b)
    (hcount : (ctx.componentMemory k).inputCounter = 1) (run : Run) (off : ℕ) (v : Fr) :
    needToRun run me i (ctx.store me i off v) = run k (ctx.feed k (b + off) v) := by
  rw [needToRun, h.store_eq, Memory.setSignal_subcomponent, h.subcomponent_eq]
  exact if_pos (ctx.feed_inputCounter_of_one _ v hcount)

/-- An input before the last one does not run the subcomponent. -/
theorem noNeedToRun_store (h : IsChild ctx me i k b)
    (hcount : (ctx.componentMemory k).inputCounter = 2) (off : ℕ) (v : Fr) :
    noNeedToRun me i (ctx.store me i off v) = .ok (ctx.feed k (b + off) v) := by
  rw [noNeedToRun, h.store_eq, Memory.setSignal_subcomponent, h.subcomponent_eq]
  exact if_pos ((ctx.feed_inputCounter_of_two _ v hcount).symm ▸ by decide)

/-- The last input of a subcomponent runs it. -/
theorem runIfNeeded_store_of_one (h : IsChild ctx me i k b)
    (hcount : (ctx.componentMemory k).inputCounter = 1) (run : Run) (off : ℕ) (v : Fr) :
    runIfNeeded run me i (ctx.store me i off v) = run k (ctx.feed k (b + off) v) := by
  rw [runIfNeeded, h.store_eq, Memory.setSignal_subcomponent, h.subcomponent_eq]
  exact if_pos (ctx.feed_inputCounter_of_one _ v hcount)

/-- The first of two inputs of a subcomponent does not run it. -/
theorem runIfNeeded_store_of_two (h : IsChild ctx me i k b)
    (hcount : (ctx.componentMemory k).inputCounter = 2) (run : Run) (off : ℕ) (v : Fr) :
    runIfNeeded run me i (ctx.store me i off v) = .ok (ctx.feed k (b + off) v) := by
  rw [runIfNeeded, h.store_eq, Memory.setSignal_subcomponent, h.subcomponent_eq]
  exact if_neg ((ctx.feed_inputCounter_of_two _ v hcount).symm ▸ by decide)

end IsChild

/-! ## What a piece of code leaves unchanged -/

/-- Only signals in `S` and components in `C` differ. -/
structure Frame (S C : Set ℕ) (ctx ctx' : Memory) : Prop where
  /-- The other signals are equal. -/
  signals : Set.EqOn ctx'.signalValues ctx.signalValues Sᶜ
  /-- The other components are equal. -/
  components : Set.EqOn ctx'.componentMemory ctx.componentMemory Cᶜ

namespace Frame

variable {S T C D : Set ℕ} {ctx ctx' ctx'' : Memory}

/-- Two pieces of code after each other. -/
theorem trans (h : Frame S C ctx ctx') (h' : Frame S C ctx' ctx'') : Frame S C ctx ctx'' :=
  ⟨h'.signals.trans h.signals, h'.components.trans h.components⟩

/-- A piece of code may change less than it is allowed to. -/
theorem mono (h : Frame S C ctx ctx') (hS : S ⊆ T) (hC : C ⊆ D) : Frame T D ctx ctx' :=
  ⟨h.signals.mono (Set.compl_subset_compl.mpr hS),
    h.components.mono (Set.compl_subset_compl.mpr hC)⟩

/-- The frame of an assignment to a signal. -/
theorem setSignal (ctx : Memory) {i : ℕ} (v : Fr) (hi : i ∈ S) :
    Frame S C ctx (ctx.setSignal i v) :=
  ⟨fun _ hj => ctx.setSignal_of_ne v (ne_of_mem_of_not_mem hi hj).symm, fun _ _ => rfl⟩

/-- The frame of an input. -/
theorem feed (ctx : Memory) {k a : ℕ} (v : Fr) (hk : k ∈ C) (ha : a ∈ S) :
    Frame S C ctx (ctx.feed k a v) :=
  ⟨fun _ hj => ctx.setSignal_of_ne v (ne_of_mem_of_not_mem ha hj).symm,
    fun _ hj => ctx.feed_of_ne a v (ne_of_mem_of_not_mem hk hj).symm⟩

/-- The frame of a new subcomponent. -/
theorem newChild (ctx : Memory) (T : Header) {me c : ℕ} (i s : ℕ) (hme : me ∈ C) (hc : c ∈ C) :
    Frame S C ctx (ctx.newChild T me i s c) :=
  ⟨fun _ _ => rfl, fun _ hj => ctx.newChild_of_ne T i s (ne_of_mem_of_not_mem hme hj).symm
    (ne_of_mem_of_not_mem hc hj).symm⟩

/-- Subcomponents outside the frame stay in place. -/
theorem isChild (h : Frame S C ctx ctx') {me i k b : ℕ} (hchild : IsChild ctx me i k b)
    (hme : me ∉ C) (hk : k ∉ C) : IsChild ctx' me i k b :=
  ⟨by rw [Memory.subcomponent, h.components hme]; exact hchild.subcomponent_eq,
    by rw [h.components hk, hchild.signalStart_eq]⟩

end Frame

/-- The part of a record that only `create` and the code of the component itself write. -/
def Component.wiring (c : Component) : ℕ × ℕ × (ℕ → ℕ) :=
  (c.templateId, c.signalStart, c.subcomponents)

/-- Only signals in `S` and input counters of components in `C` differ. -/
structure Work (S C : Set ℕ) (ctx ctx' : Memory) : Prop extends Frame S C ctx ctx' where
  /-- All components are wired as before. -/
  wiring : ∀ k, (ctx'.componentMemory k).wiring = (ctx.componentMemory k).wiring

namespace Work

variable {S T C D : Set ℕ} {ctx ctx' ctx'' : Memory}

/-- Two pieces of code after each other. -/
theorem trans (h : Work S C ctx ctx') (h' : Work S C ctx' ctx'') : Work S C ctx ctx'' :=
  ⟨h.toFrame.trans h'.toFrame, fun k => (h'.wiring k).trans (h.wiring k)⟩

/-- A piece of work touches any larger sets, too. -/
theorem mono (h : Work S C ctx ctx') (hS : S ⊆ T) (hC : C ⊆ D) : Work T D ctx ctx' :=
  ⟨h.toFrame.mono hS hC, h.wiring⟩

/-- An assignment to a signal is work on it. -/
theorem setSignal (ctx : Memory) {i : ℕ} (v : Fr) (hi : i ∈ S) :
    Work S C ctx (ctx.setSignal i v) :=
  ⟨.setSignal ctx v hi, fun _ => rfl⟩

/-- An input is work on the signal and its component. -/
theorem feed (ctx : Memory) {k a : ℕ} (v : Fr) (hk : k ∈ C) (ha : a ∈ S) :
    Work S C ctx (ctx.feed k a v) := by
  refine ⟨.feed ctx v hk ha, fun j => ?_⟩
  by_cases hj : j = k
  · rw [hj, Memory.feed, Memory.decrement, Memory.setComponent_self]
    rfl
  · rw [ctx.feed_of_ne a v hj]

/-- An assignment to a state is work on its two signals. -/
theorem setState (ctx : Memory) {a : ℕ} (x : Fin 2 → Fr) (ha : a ∈ S) (ha' : a + 1 ∈ S) :
    Work S C ctx (ctx.setState a x) :=
  (Work.setSignal ctx _ ha).trans (.setSignal _ _ ha')

/-- Work keeps the templates. -/
theorem templateId_eq (h : Work S C ctx ctx') (k : ℕ) :
    (ctx'.componentMemory k).templateId = (ctx.componentMemory k).templateId :=
  congrArg Prod.fst (h.wiring k)

/-- Work keeps the addresses of the components. -/
theorem signalStart_eq (h : Work S C ctx ctx') (k : ℕ) :
    (ctx'.componentMemory k).signalStart = (ctx.componentMemory k).signalStart :=
  congrArg (fun w => w.2.1) (h.wiring k)

/-- Work keeps the subcomponents. -/
theorem subcomponent_eq (h : Work S C ctx ctx') (me i : ℕ) :
    ctx'.subcomponent me i = ctx.subcomponent me i :=
  congrArg (fun w => w.2.2 i) (h.wiring me)

/-- Subcomponents stay in place. -/
theorem isChild (h : Work S C ctx ctx') {me i k b : ℕ} (hchild : IsChild ctx me i k b) :
    IsChild ctx' me i k b :=
  ⟨(h.subcomponent_eq me i).trans hchild.subcomponent_eq,
    (h.signalStart_eq k).trans hchild.signalStart_eq⟩

end Work

end AuthCpp
