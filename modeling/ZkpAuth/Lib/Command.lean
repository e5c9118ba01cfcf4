import Mathlib.Tactic.Common

/-!
# Loop programs over a machine

Programs with loops over the instructions and the tests of a machine.  An instruction or a test may
get stuck.  The same program runs on two machines; when one simulates the other instruction by
instruction, it simulates it on every program.

## Main definitions

* `Command` — programs.
* `CommandMachine`, `CommandMachine.run` — a machine, and the runs of a program on it.
* `CommandMachine.Ends` — a run ends, in a state with a given property.
* `CommandMachine.Simulates` — a relation between the states of two machines is kept by every
  instruction, and related states pass the same tests.

## Main results

* `CommandMachine.Ends.seq`, `CommandMachine.Ends.loop` — rules for `CommandMachine.Ends`.
* `CommandMachine.Simulates.run` — a simulation of the instructions is one of the programs.
-/

set_option relaxedAutoImplicit false
set_option autoImplicit false

universe u v w w'

/-- Programs with the instructions `ι` and the tests `τ`. -/
inductive Command (ι : Type u) (τ : Type v) where
  | skip
  | instr (i : ι)
  | seq (c d : Command ι τ)
  /-- `while (t) { c }`. -/
  | loop (t : τ) (c : Command ι τ)

namespace Command

variable {ι : Type u} {τ : Type v}

/-- Programs one after the other. -/
def block (cs : List (Command ι τ)) : Command ι τ := cs.foldr seq skip

end Command

/-- What the instructions and the tests do to a state.  `none` is a machine that is stuck. -/
structure CommandMachine (ι : Type u) (τ : Type v) (σ : Type w) where
  /-- An instruction on a state. -/
  step : ι → σ → Option σ
  /-- The value of a test. -/
  test : τ → σ → Option Bool

namespace CommandMachine

variable {ι : Type u} {τ : Type v} {σ : Type w} {σ' : Type w'}

/-- `while (t) { body }`, for at most `fuel` evaluations of the test. -/
def runLoop (t : σ → Option Bool) (body : σ → Option σ) : ℕ → σ → Option σ
  | 0, _ => none
  | fuel + 1, s =>
    (t s).bind fun v => if v then (body s).bind (runLoop t body fuel) else some s

/-- The run of a program, with `fuel` for each of its loops. -/
def run (M : CommandMachine ι τ σ) (fuel : ℕ) : Command ι τ → σ → Option σ
  | .skip, s => some s
  | .instr i, s => M.step i s
  | .seq c d, s => (M.run fuel c s).bind (M.run fuel d)
  | .loop t c, s => runLoop (M.test t) (M.run fuel c) fuel s

/-! ## Runs that end -/

section Ends

variable {M : CommandMachine ι τ σ} {fuel : ℕ} {s : σ} {Q Q' : σ → Prop}

/-- The run ends in a state with the property `Q`. -/
def Ends (M : CommandMachine ι τ σ) (fuel : ℕ) (c : Command ι τ) (s : σ) (Q : σ → Prop) : Prop :=
  ∃ s', M.run fuel c s = some s' ∧ Q s'

namespace Ends

/-- The rule of `skip`. -/
theorem skip (h : Q s) : M.Ends fuel .skip s Q := ⟨s, rfl, h⟩

/-- The rule of an instruction. -/
theorem instr {i : ι} {s' : σ} (hstep : M.step i s = some s') (h : Q s') :
    M.Ends fuel (.instr i) s Q :=
  ⟨s', hstep, h⟩

/-- The rule of consequence. -/
theorem mono {c : Command ι τ} (h : M.Ends fuel c s Q) (hQ : ∀ s', Q s' → Q' s') :
    M.Ends fuel c s Q' := by
  obtain ⟨s', hrun, hs'⟩ := h
  exact ⟨s', hrun, hQ s' hs'⟩

/-- The rule of composition. -/
theorem seq {c d : Command ι τ} (hc : M.Ends fuel c s Q)
    (hd : ∀ s', Q s' → M.Ends fuel d s' Q') : M.Ends fuel (.seq c d) s Q' := by
  obtain ⟨s', hrun, hs'⟩ := hc
  obtain ⟨s'', hrun', hs''⟩ := hd s' hs'
  refine ⟨s'', ?_, hs''⟩
  rw [run, hrun]
  exact hrun'

/-- The rule of composition in a block. -/
theorem cons {c : Command ι τ} {cs : List (Command ι τ)} (hc : M.Ends fuel c s Q)
    (hcs : ∀ s', Q s' → M.Ends fuel (.block cs) s' Q') : M.Ends fuel (.block (c :: cs)) s Q' :=
  hc.seq hcs

/-- An instruction at the head of a block. -/
theorem cons_instr {i : ι} {cs : List (Command ι τ)} {s' : σ} (hstep : M.step i s = some s')
    (hcs : M.Ends fuel (.block cs) s' Q) : M.Ends fuel (.block (.instr i :: cs)) s Q := by
  refine cons (Q := fun x => x = s') (instr hstep rfl) ?_
  rintro _ rfl
  exact hcs

/-- The rule of the empty block. -/
theorem nil (h : Q s) : M.Ends fuel (.block []) s Q := skip h

/-- The rule of composition of two blocks. -/
theorem append {cs ds : List (Command ι τ)} (hcs : M.Ends fuel (.block cs) s Q)
    (hds : ∀ s', Q s' → M.Ends fuel (.block ds) s' Q') : M.Ends fuel (.block (cs ++ ds)) s Q' := by
  induction cs generalizing s with
  | nil =>
    obtain ⟨s', hrun, hs'⟩ := hcs
    obtain rfl := Option.some.inj hrun
    exact hds s hs'
  | cons c cs ih =>
    obtain ⟨s', hrun, hs'⟩ := hcs
    obtain ⟨s₁, hc, hrun⟩ := Option.bind_eq_some_iff.mp hrun
    refine cons (Q := fun x => x = s₁) ⟨s₁, hc, rfl⟩ ?_
    rintro _ rfl
    exact ih ⟨s', hrun, hs'⟩

/-- **The rule of a counted loop.**  The test is true before the first `n` rounds and false after
them, and each round keeps the invariant.

**Proof sketch.**  Induction on the rounds left. -/
theorem loop {t : τ} {c : Command ι τ} (I : ℕ → σ → Prop) {n : ℕ}
    (htest : ∀ k ≤ n, ∀ s, I k s → M.test t s = some (decide (k < n)))
    (hbody : ∀ k < n, ∀ s, I k s → M.Ends fuel c s (I (k + 1))) (hfuel : n < fuel) (hs : I 0 s) :
    M.Ends fuel (.loop t c) s (I n) := by
  suffices hleft : ∀ left k f, k + left = n → left < f → ∀ s, I k s →
      ∃ s', runLoop (M.test t) (M.run fuel c) f s = some s' ∧ I n s' from
    hleft n 0 fuel (by omega) hfuel s hs
  intro left
  induction left with
  | zero =>
    intro k f hk hf s hs
    obtain ⟨f, rfl⟩ : ∃ g, f = g + 1 := ⟨f - 1, by omega⟩
    obtain rfl : k = n := by omega
    refine ⟨s, ?_, hs⟩
    simp [runLoop, htest k (Nat.le_refl k) s hs]
  | succ left ih =>
    intro k f hk hf s hs
    obtain ⟨f, rfl⟩ : ∃ g, f = g + 1 := ⟨f - 1, by omega⟩
    obtain ⟨s', hrun, hs'⟩ := hbody k (by omega) s hs
    obtain ⟨s'', hrun', hs''⟩ := ih (k + 1) f (by omega) (by omega) s' hs'
    refine ⟨s'', ?_, hs''⟩
    have hlt : k < n := by omega
    simpa [runLoop, htest k (Nat.le_of_lt hlt) s hs, hlt, hrun] using hrun'

end Ends

end Ends

/-! ## Simulation -/

/-- What the machine `A` does on a state, the machine `C` does on every related state. -/
structure Simulates (R : σ → σ' → Prop) (A : CommandMachine ι τ σ) (C : CommandMachine ι τ σ') :
    Prop where
  /-- Related states stay related after an instruction. -/
  step : ∀ {i a b a'}, R a b → A.step i a = some a' → ∃ b', C.step i b = some b' ∧ R a' b'
  /-- Tests have the same value on related states. -/
  test : ∀ {t a b v}, R a b → A.test t a = some v → C.test t b = some v

namespace Simulates

variable {R : σ → σ' → Prop} {A : CommandMachine ι τ σ} {C : CommandMachine ι τ σ'}

/-- The simulation of a loop, given one of its body. -/
lemma runLoop (h : Simulates R A C) {t : τ} {f : σ → Option σ} {g : σ' → Option σ'}
    (hbody : ∀ {a b a'}, R a b → f a = some a' → ∃ b', g b = some b' ∧ R a' b') (fuel : ℕ) {a : σ}
    {b : σ'} {a' : σ} (hab : R a b)
    (hrun : CommandMachine.runLoop (A.test t) f fuel a = some a') :
    ∃ b', CommandMachine.runLoop (C.test t) g fuel b = some b' ∧ R a' b' := by
  induction fuel generalizing a b with
  | zero => cases hrun
  | succ fuel ih =>
    unfold CommandMachine.runLoop at hrun ⊢
    obtain ⟨v, hv, hrun⟩ := Option.bind_eq_some_iff.mp hrun
    rw [h.test hab hv]
    cases v with
    | false =>
      obtain rfl := Option.some.inj hrun
      exact ⟨b, rfl, hab⟩
    | true =>
      obtain ⟨a₁, ha₁, hrun⟩ := Option.bind_eq_some_iff.mp hrun
      obtain ⟨b₁, hb₁, hab₁⟩ := hbody hab ha₁
      obtain ⟨b', hb', hab'⟩ := ih hab₁ hrun
      refine ⟨b', ?_, hab'⟩
      simpa [hb₁] using hb'

/-- **A simulation of the instructions is one of the programs.**

**Proof sketch.**  Induction on the program. -/
theorem run (h : Simulates R A C) (fuel : ℕ) {c : Command ι τ} {a : σ} {b : σ'} {a' : σ}
    (hab : R a b) (hrun : A.run fuel c a = some a') :
    ∃ b', C.run fuel c b = some b' ∧ R a' b' := by
  induction c generalizing a b a' with
  | skip =>
    obtain rfl := Option.some.inj hrun
    exact ⟨b, rfl, hab⟩
  | instr i => exact h.step hab hrun
  | seq c d ihc ihd =>
    obtain ⟨a₁, ha₁, hrun⟩ := Option.bind_eq_some_iff.mp hrun
    obtain ⟨b₁, hb₁, hab₁⟩ := ihc hab ha₁
    obtain ⟨b', hb', hab'⟩ := ihd hab₁ hrun
    refine ⟨b', ?_, hab'⟩
    unfold CommandMachine.run
    rw [hb₁]
    exact hb'
  | loop t c ih => exact h.runLoop ih fuel hab hrun

end Simulates

end CommandMachine
