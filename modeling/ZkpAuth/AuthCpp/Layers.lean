import ZkpAuth.AuthCpp.Field
import ZkpAuth.AuthCpp.Machine

/-!
# The layers of the permutation in the C++ witness calculator

The templates of `auth_cpp/auth.cpp` without subcomponents: `Ark`, `Sigma`, `Mix`, `MixS` and
`MixLast`, at width two.  The compiler has made one function of each instance; the instances of a
template differ in a constant or a table only.

## Main definitions

* `AuthCpp.Sigma1.run`, `AuthCpp.Ark.run`, `AuthCpp.Mix.run`, `AuthCpp.MixS.run`,
  `AuthCpp.MixLast67.run`.
* `AuthCpp.functionTable` — the functions by the number of the template.

## Main results

* `AuthCpp.Ark.run_eq`, `AuthCpp.Mix.run_eq`, `AuthCpp.MixS.run_eq` — a layer puts its image on its
  two outputs.
-/

set_option relaxedAutoImplicit false
set_option autoImplicit false

open Bn254

namespace AuthCpp

/-! ## The templates -/

/-- `Sigma_1_run`. -/
def Sigma1.run : Run := fun ctx_index ctx =>
  let mySignalStart := (ctx.componentMemory ctx_index).signalStart
  let ctx := ctx.setSignal (mySignalStart + 2)
    (ctx.signalValues (mySignalStart + 1) * ctx.signalValues (mySignalStart + 1))
  let ctx := ctx.setSignal (mySignalStart + 3)
    (ctx.signalValues (mySignalStart + 2) * ctx.signalValues (mySignalStart + 2))
  .ok (ctx.setSignal (mySignalStart + 0)
    (ctx.signalValues (mySignalStart + 3) * ctx.signalValues (mySignalStart + 1)))

/-- `Sigma_1_create`. -/
def Sigma1.header : Header := ⟨1, 1⟩

/-- The `create` of the component `ark[i]`. -/
def Ark.header (i : ℕ) : Header := ⟨[0, 2, 4, 5, 6, 64, 65, 66].getD i 0, 2⟩

/-- The `create` of the component `mix[i]`. -/
def Mix.header (i : ℕ) : Header := ⟨if i = 3 then 7 else 3, 2⟩

/-- The `create` of the component `mixS[i]`. -/
def MixS.header (i : ℕ) : Header := ⟨8 + i, 2⟩

/-- `MixLast_67_create`. -/
def MixLast67.header : Header := ⟨67, 2⟩

section Templates

variable (K : Constants)

/-- The loop `lc += coeff[j] * in[j]`. -/
def lcLoop (coeff inp : ℕ → Fr) : Except String Fr :=
  forLoop K (K.value 73) (fun j lc => .ok (lc + coeff (frToInt j) * inp (frToInt j))) (K.value 72)

/-- `Ark_0_run`, `Ark_2_run`, ..., `Ark_66_run`, which read the constants from `C[r]` on. -/
def Ark.run (r : ℕ) : Run := fun ctx_index ctx =>
  let mySignalStart := (ctx.componentMemory ctx_index).signalStart
  forLoop K (K.value 73)
    (fun i ctx => .ok (ctx.setSignal (mySignalStart + frToInt i)
      (ctx.signalValues (mySignalStart + (frToInt i + 2)) + K.poseidonC (frToInt i + r)))) ctx

/-- `Mix_3_run` and `Mix_7_run`, which differ in the matrix. -/
def Mix.run (M : ℕ → Fr) : Run := fun ctx_index ctx =>
  let mySignalStart := (ctx.componentMemory ctx_index).signalStart
  forLoop K (K.value 73)
    (fun i ctx => do
      let lc ← lcLoop K (fun j => M (2 * j + frToInt i))
        (fun j => ctx.signalValues (mySignalStart + (j + 2)))
      return ctx.setSignal (mySignalStart + frToInt i) lc) ctx

/-- `MixS_8_run`, ..., `MixS_63_run`, which read the constants from `S[3 * r]` on. -/
def MixS.run (r : ℕ) : Run := fun ctx_index ctx => do
  let mySignalStart := (ctx.componentMemory ctx_index).signalStart
  let lc ← lcLoop K (fun j => K.poseidonS (3 * r + j))
    (fun j => ctx.signalValues (mySignalStart + (j + 2)))
  let ctx := ctx.setSignal (mySignalStart + 0) lc
  singleLoop K 74 73
    (fun ctx => .ok (ctx.setSignal (mySignalStart + 1) (ctx.signalValues (mySignalStart + 3) +
      ctx.signalValues (mySignalStart + 2) * K.poseidonS (3 * r + 2)))) ctx

/-- `MixLast_67_run`. -/
def MixLast67.run : Run := fun ctx_index ctx => do
  let mySignalStart := (ctx.componentMemory ctx_index).signalStart
  let lc ← lcLoop K (fun j => K.poseidonM (2 * j + 0))
    (fun j => ctx.signalValues (mySignalStart + (j + 1)))
  return ctx.setSignal (mySignalStart + 0) lc

/-- `_functionTable`, with the entries of the templates without subcomponents.  No other is called
through the table. -/
def functionTable : ℕ → Run
  | 0 => Ark.run K 0
  | 1 => Sigma1.run
  | 2 => Ark.run K 2
  | 3 => Mix.run K K.poseidonM
  | 4 => Ark.run K 4
  | 5 => Ark.run K 6
  | 6 => Ark.run K 8
  | 7 => Mix.run K K.poseidonP
  | 64 => Ark.run K 66
  | 65 => Ark.run K 68
  | 66 => Ark.run K 70
  | 67 => MixLast67.run K
  | n => if 8 ≤ n ∧ n < 64 then MixS.run K (n - 8) else fun _ _ => .error "_functionTable"

end Templates

/-! ## What they compute -/

section Run

variable {K : Constants} {k b : ℕ} {ctx : Memory}

/-- The S-box goes to the output, and the even powers to the two signals behind the input. -/
theorem Sigma1.run_yields (hb : (ctx.componentMemory k).signalStart = b) (C : Set ℕ) :
    Yields (Sigma1.run k ctx) fun ctx' =>
      ctx'.signalValues b = Poseidon.sigma (ctx.signalValues (b + 1)) ∧
      Work (Set.Ico b (b + 4)) C ctx ctx' := by
  have hmem : b ∈ Set.Ico b (b + 4) ∧ b + 2 ∈ Set.Ico b (b + 4) ∧ b + 3 ∈ Set.Ico b (b + 4) := by
    simp only [Set.mem_Ico]
    omega
  rw [Sigma1.run, hb]
  refine .ok ⟨?_, ((Work.setSignal ctx _ hmem.2.1).trans (.setSignal _ _ hmem.2.2)).trans
    (.setSignal _ _ hmem.1)⟩
  simp [Memory.setSignal, Poseidon.sigma, Poseidon.Sigma.compute]

/-- The inner loop of the mixing layers. -/
theorem lcLoop_eq (coeff inp : ℕ → Fr) : lcLoop K coeff inp =
    .ok (Poseidon.lc (fun j : Fin 2 => coeff j) fun j : Fin 2 => inp j) := by
  rw [lcLoop, forLoop_two, frToInt_natCast (by decide), frToInt_natCast (by decide), K.zero,
    Nat.cast_zero]
  rfl

/-- The inputs of a layer stand behind its outputs. -/
lemma inputs_eq_state (ctx : Memory) (b : ℕ) :
    (fun j : Fin 2 => ctx.signalValues (b + (j + 2))) = ctx.state (b + 2) := by
  funext j
  rw [Memory.state, Nat.add_comm (j : ℕ) 2, Nat.add_assoc]

/-- The first output does not touch the inputs. -/
lemma setSignal_state (ctx : Memory) (b : ℕ) (v : Fr) :
    (ctx.setSignal b v).state (b + 2) = ctx.state (b + 2) := by
  funext j
  exact ctx.setSignal_of_ne v (by omega)

/-- **A layer `Ark`** adds its constants. -/
theorem Ark.run_eq (r : ℕ) (hb : (ctx.componentMemory k).signalStart = b) :
    Ark.run K r k ctx =
      .ok (ctx.setState b (Poseidon.ark K.poseidonC r (ctx.state (b + 2)))) := by
  rw [Ark.run, hb, forLoop_two, frToInt_natCast (by decide), frToInt_natCast (by decide)]
  have hkeep := congrFun (setSignal_state ctx b (ctx.state (b + 2) 0 + K.poseidonC (0 + r))) 1
  exact congrArg (fun x => Except.ok (Memory.setSignal _ (b + 1) (x + K.poseidonC (1 + r)))) hkeep

/-- **A layer `Mix`** multiplies by its matrix. -/
theorem Mix.run_eq (M : ℕ → Fr) (hb : (ctx.componentMemory k).signalStart = b) :
    Mix.run K M k ctx =
      .ok (ctx.setState b (Poseidon.mix (fun j i => M (2 * j + i)) (ctx.state (b + 2)))) := by
  rw [Mix.run, hb, forLoop_two, frToInt_natCast (by decide), frToInt_natCast (by decide)]
  simp only [lcLoop_eq, inputs_eq_state]
  have hkeep := setSignal_state ctx b
    (Poseidon.lc (fun j : Fin 2 => M (2 * j + 0)) (ctx.state (b + 2)))
  exact congrArg (fun x => Except.ok (Memory.setSignal _ (b + 1)
    (Poseidon.lc (fun j : Fin 2 => M (2 * j + 1)) x))) hkeep

/-- **A layer `MixS`** multiplies by its sparse matrix. -/
theorem MixS.run_eq (r : ℕ) (hb : (ctx.componentMemory k).signalStart = b) :
    MixS.run K r k ctx =
      .ok (ctx.setState b (Poseidon.mixS K.poseidonS r (ctx.state (b + 2)))) := by
  have hsingle := fun body (s : Memory) => singleLoop_eq K.one K.two (by omega) (by decide) body s
  rw [MixS.run, hb]
  simp only [lcLoop_eq, inputs_eq_state, hsingle]
  have hkeep := setSignal_state ctx b
    (Poseidon.lc (fun j : Fin 2 => K.poseidonS (3 * r + j)) (ctx.state (b + 2)))
  exact congrArg (fun x : Fin 2 → Fr => Except.ok (Memory.setSignal _ (b + 1)
    (x 1 + x 0 * K.poseidonS (3 * r + 2)))) hkeep

/-- **The layer `MixLast`** computes one element of the mixed state. -/
theorem MixLast67.run_eq (hb : (ctx.componentMemory k).signalStart = b) :
    MixLast67.run K k ctx =
      .ok (ctx.setSignal b (Poseidon.mixLast (fun j i => K.poseidonM (2 * j + i)) 0
        (ctx.state (b + 1)))) := by
  have hinputs : (fun j : Fin 2 => ctx.signalValues (b + (j + 1))) = ctx.state (b + 1) := by
    funext j
    rw [Memory.state, Nat.add_comm (j : ℕ) 1, Nat.add_assoc]
  rw [MixLast67.run, hb, lcLoop_eq, hinputs]
  rfl

end Run

end AuthCpp
