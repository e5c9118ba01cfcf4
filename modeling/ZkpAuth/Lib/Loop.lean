import Mathlib.Tactic.Common

/-!
# Programs that may fail

Rules for programs that transform a state and may fail, `σ → Except ε σ`: what a program yields, how
the rules compose along `>>=`, and the rule for a loop.  A loop carries fuel; the rule for it is one
of total correctness, so that a proof by it shows that the fuel suffices.

## Main definitions

* `Yields` — a program succeeds, in a state with a given property.
* `whileDo` — the loop `while (cond) body`.

## Main results

* `Yields.bind` — the rule of composition.
* `whileDo_yields` — the rule of a loop with a counted invariant.
-/

set_option relaxedAutoImplicit false
set_option autoImplicit false

universe u v

variable {ε : Type v} {σ τ : Type u}

/-- The program succeeds, with a value that has the property `Q`. -/
def Yields (e : Except ε σ) (Q : σ → Prop) : Prop := ∃ s, e = .ok s ∧ Q s

namespace Yields

variable {e : Except ε σ} {Q R : σ → Prop}

/-- A value is yielded. -/
theorem ok {s : σ} (h : Q s) : Yields (.ok s : Except ε σ) Q := ⟨s, rfl, h⟩

/-- The rule of composition. -/
theorem bind {f : σ → Except ε τ} {S : τ → Prop} (h : Yields e Q)
    (hf : ∀ s, Q s → Yields (f s) S) : Yields (e >>= f) S := by
  obtain ⟨s, rfl, hs⟩ := h
  exact hf s hs

/-- The rule of composition after a program with a known value. -/
theorem of_eq {s : σ} {f : σ → Except ε τ} {S : τ → Prop} (h : e = .ok s) (hf : Yields (f s) S) :
    Yields (e >>= f) S := by
  rw [h]
  exact hf

/-- The rule of consequence. -/
theorem mono (h : Yields e Q) (hQ : ∀ s, Q s → R s) : Yields e R := by
  obtain ⟨s, he, hs⟩ := h
  exact ⟨s, he, hQ s hs⟩

/-- A program has one value. -/
theorem and (h : Yields e Q) (h' : Yields e R) : Yields e fun s => Q s ∧ R s := by
  obtain ⟨s, he, hs⟩ := h
  obtain ⟨s', he', hs'⟩ := h'
  obtain rfl := Except.ok.inj (he.symm.trans he')
  exact ⟨s, he, hs, hs'⟩

/-- A failed program yields nothing. -/
theorem not_error {x : ε} : ¬Yields (.error x : Except ε σ) Q := by
  rintro ⟨s, he, -⟩
  cases he

end Yields

/-- A composition after a program with a known value. -/
theorem bind_eq_of_eq_ok {e : Except ε σ} {f : σ → Except ε τ} {s : σ} (h : e = .ok s) :
    (e >>= f) = f s := by
  rw [h]
  rfl

/-- A composition that succeeds runs both programs. -/
theorem exists_of_bind_eq_ok {e : Except ε σ} {f : σ → Except ε τ} {t : τ}
    (h : (e >>= f) = .ok t) : ∃ s, e = .ok s ∧ f s = .ok t := by
  cases e with
  | error x => cases h
  | ok s => exact ⟨s, rfl, h⟩

/-- `while (cond) body`, for at most `fuel` evaluations of the condition. -/
def whileDo (exhausted : ε) (cond : σ → Bool) (body : σ → Except ε σ) : ℕ → σ → Except ε σ
  | 0, _ => .error exhausted
  | fuel + 1, s => if cond s then body s >>= whileDo exhausted cond body fuel else .ok s

section Rules

variable {exhausted : ε} {cond : σ → Bool} {body : σ → Except ε σ}

/-- A loop whose condition is false ends. -/
theorem whileDo_of_false {s : σ} (h : cond s = false) (fuel : ℕ) :
    whileDo exhausted cond body (fuel + 1) s = .ok s := by
  rw [whileDo, h]
  rfl

/-- A loop whose condition is true runs its body. -/
theorem whileDo_of_true {s : σ} (h : cond s = true) (fuel : ℕ) :
    whileDo exhausted cond body (fuel + 1) s =
      body s >>= whileDo exhausted cond body fuel := by
  rw [whileDo, h]
  rfl

/-- **The rule of a counted loop.** The invariant `I` counts the iterations.  If the condition holds
before the first `n` of them and not after, and each preserves the invariant, then a loop with more
than `n` units of fuel yields `I n`.

**Proof sketch.** Induction on the iterations left. -/
theorem whileDo_yields (I : ℕ → σ → Prop) {n : ℕ}
    (hstep : ∀ i < n, ∀ s, I i s → cond s = true ∧ Yields (body s) (I (i + 1)))
    (hstop : ∀ s, I n s → cond s = false) {fuel : ℕ} (hfuel : n < fuel) {s : σ} (hs : I 0 s) :
    Yields (whileDo exhausted cond body fuel s) (I n) := by
  suffices hleft : ∀ left k fuel, k + left = n → left < fuel → ∀ s, I k s →
      Yields (whileDo exhausted cond body fuel s) (I n) from
    hleft n 0 fuel (by omega) hfuel s hs
  intro left
  induction left with
  | zero =>
    intro k fuel hk hfuel s hs
    obtain ⟨fuel, rfl⟩ : ∃ f, fuel = f + 1 := ⟨fuel - 1, by omega⟩
    obtain rfl : k = n := by omega
    rw [whileDo_of_false (hstop s hs)]
    exact .ok hs
  | succ left ih =>
    intro k fuel hk hfuel s hs
    obtain ⟨fuel, rfl⟩ : ∃ f, fuel = f + 1 := ⟨fuel - 1, by omega⟩
    obtain ⟨hcond, hbody⟩ := hstep k (by omega) s hs
    rw [whileDo_of_true hcond]
    exact hbody.bind fun s hs => ih (k + 1) fuel (by omega) (by omega) s hs

end Rules
