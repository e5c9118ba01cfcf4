import Mathlib.Algebra.BigOperators.Fin
import Mathlib.GroupTheory.SpecificGroups.Cyclic

/-!
# Pairings of groups of prime order

A bilinear map on two groups of one prime order that is not identically zero, written additively.

## Main definitions

* `Pairing` — the groups' orders and the bilinear map.

## Main results

* `Pairing.eq_zero_iff` — such a map vanishes only when one argument does.
* `Pairing.eq_right_iff` — on a nonzero left argument it is injective in the right one.
-/

set_option relaxedAutoImplicit false
set_option autoImplicit false

/-- A bilinear map from two groups of order `r` that is not identically zero. -/
structure Pairing (r : ℕ) (G₁ G₂ Gₜ : Type*) [AddCommGroup G₁] [AddCommGroup G₂]
    [AddCommGroup Gₜ] where
  /-- The map. -/
  e : G₁ →+ G₂ →+ Gₜ
  /-- The order of the left group. -/
  card_left : Nat.card G₁ = r
  /-- The order of the right group. -/
  card_right : Nat.card G₂ = r
  /-- The map is not degenerate. -/
  exists_ne_zero : ∃ P Q, e P Q ≠ 0

namespace Pairing

variable {r : ℕ} [Fact r.Prime] {G₁ G₂ Gₜ : Type*} [AddCommGroup G₁] [AddCommGroup G₂]
  [AddCommGroup Gₜ] (p : Pairing r G₁ G₂ Gₜ)

/-- **A pairing of groups of prime order vanishes only trivially.**

**Proof sketch.** A nonzero element of a group of prime order generates it.  If the pairing
vanished on two generators, it would vanish on all their multiples, so everywhere. -/
theorem eq_zero_iff (P : G₁) (Q : G₂) : p.e P Q = 0 ↔ P = 0 ∨ Q = 0 := by
  constructor
  · intro hzero
    by_contra hne
    rw [not_or] at hne
    obtain ⟨hP, hQ⟩ := hne
    obtain ⟨P', Q', hne⟩ := p.exists_ne_zero
    have hP' : P' ∈ AddSubgroup.zmultiples P := mem_zmultiples_of_prime_card p.card_left hP
    have hQ' : Q' ∈ AddSubgroup.zmultiples Q := mem_zmultiples_of_prime_card p.card_right hQ
    obtain ⟨m, rfl⟩ := AddSubgroup.mem_zmultiples_iff.mp hP'
    obtain ⟨n, rfl⟩ := AddSubgroup.mem_zmultiples_iff.mp hQ'
    apply hne
    rw [map_zsmul, map_zsmul, AddMonoidHom.zsmul_apply, hzero, smul_zero, smul_zero]
  · rintro (rfl | rfl)
    · rw [map_zero, AddMonoidHom.zero_apply]
    · rw [map_zero]

/-- Two right arguments pair alike with `P` exactly when they are equal or `P` is zero. -/
theorem eq_right_iff (P : G₁) (Q Q' : G₂) : p.e P Q = p.e P Q' ↔ P = 0 ∨ Q = Q' := by
  rw [← sub_eq_zero, ← map_sub, p.eq_zero_iff, sub_eq_zero]

end Pairing
