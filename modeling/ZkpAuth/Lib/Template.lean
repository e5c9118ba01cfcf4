import Mathlib.Data.Set.Basic

/-!
# Constraint templates and the functions they implement

A circuit template is read here as a relation: a type of signal assignments, the constraints
an assignment has to satisfy, the projections to its input and output signals, and the rule
by which an honest prover fills in the signals from the inputs.  The constraints are what a
verifier enforces; the rule is only a hint, so soundness quantifies over every assignment.

`Template.Implements dom f` says that the two views agree: the constraints are satisfiable
exactly on the inputs in `dom`, every satisfying assignment outputs `f` of its inputs, and the
honest rule reaches one.  Statements over all satisfying assignments (and over pairs of them)
then reduce to statements about `f`.

## Main definitions

* `Template` — signals, constraints, inputs, outputs and the honest rule.
* `Template.Implements` — the template computes a function on a domain and nothing else.

## Main results

* `Template.Implements.solvable_iff`, `constraints_compute_iff` — solvability of the
  constraints, success of the honest rule and membership in the domain are one condition.
* `Template.Implements.exists_iff` — the projection of the satisfying assignments to any
  observation of inputs and outputs.
-/

set_option relaxedAutoImplicit false
set_option autoImplicit false

universe u v w x

/-- A circuit template over input signals `ι`, all signals `σ` and output signals `ο`. -/
structure Template (ι : Type u) (σ : Type v) (ο : Type w) where
  /-- The values of the input signals in an assignment. -/
  input : σ → ι
  /-- The values of the output signals in an assignment. -/
  output : σ → ο
  /-- The constraints on an assignment. -/
  Constraints : σ → Prop
  /-- The assignment that the witness computation builds from the inputs. -/
  compute : ι → σ

namespace Template

variable {ι : Type u} {σ : Type v} {ο : Type w}

/-- `T` implements `f` on `dom`: satisfying assignments have inputs in `dom` and output `f` of
their inputs, and the witness computation satisfies the constraints on all of `dom`. -/
structure Implements (T : Template ι σ ο) (dom : Set ι) (f : ι → ο) : Prop where
  /-- The witness computation starts from the given inputs. -/
  input_compute : ∀ i, T.input (T.compute i) = i
  /-- Only inputs in the domain can be completed to a satisfying assignment. -/
  input_mem : ∀ s, T.Constraints s → T.input s ∈ dom
  /-- The outputs are forced by the inputs. -/
  output_eq : ∀ s, T.Constraints s → T.output s = f (T.input s)
  /-- The witness computation succeeds on the domain. -/
  constraints_compute : ∀ i ∈ dom, T.Constraints (T.compute i)

namespace Implements

variable {T : Template ι σ ο} {dom : Set ι} {f : ι → ο}

/-- The constraints are solvable for the inputs `i` exactly when `i` is in the domain. -/
theorem solvable_iff (h : T.Implements dom f) (i : ι) :
    (∃ s, T.Constraints s ∧ T.input s = i) ↔ i ∈ dom := by
  constructor
  · rintro ⟨s, hs, rfl⟩
    exact h.input_mem s hs
  · intro hi
    exact ⟨T.compute i, h.constraints_compute i hi, h.input_compute i⟩

/-- The witness computation succeeds exactly on the domain. -/
theorem constraints_compute_iff (h : T.Implements dom f) (i : ι) :
    T.Constraints (T.compute i) ↔ i ∈ dom := by
  constructor
  · intro hs
    have hi := h.input_mem _ hs
    rwa [h.input_compute] at hi
  · exact h.constraints_compute i

/-- What the witness computation outputs on the domain. -/
theorem output_compute (h : T.Implements dom f) {i : ι} (hi : i ∈ dom) :
    T.output (T.compute i) = f i := by
  rw [h.output_eq _ (h.constraints_compute i hi), h.input_compute]

/-- **Projection.** The values of an observation `obs` of inputs and outputs over all
satisfying assignments are its values over the graph of `f` on the domain. -/
theorem exists_iff {π : Type x} (h : T.Implements dom f) (obs : ι → ο → π) (y : π) :
    (∃ s, T.Constraints s ∧ obs (T.input s) (T.output s) = y) ↔
      ∃ i ∈ dom, obs i (f i) = y := by
  constructor
  · rintro ⟨s, hs, rfl⟩
    exact ⟨T.input s, h.input_mem s hs, by rw [h.output_eq s hs]⟩
  · rintro ⟨i, hi, rfl⟩
    refine ⟨T.compute i, h.constraints_compute i hi, ?_⟩
    rw [h.output_compute hi, h.input_compute]

end Implements

end Template
