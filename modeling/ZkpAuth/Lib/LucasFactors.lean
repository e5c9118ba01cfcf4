import Mathlib.Data.List.Prime
import Mathlib.NumberTheory.LucasPrimality

/-!
# Lucas's primality test from an explicit factorization

`lucas_primality` asks for a condition at every prime divisor of `p - 1`.  With the prime
factorization of `p - 1` written out, it is enough to check the listed primes.

## Main results

* `Nat.prime_of_lucas_factors` — Lucas's test over a factorization of `p - 1`.
-/

set_option relaxedAutoImplicit false
set_option autoImplicit false

/-- **Lucas's test.** `p` is prime if some `a` satisfies `a ^ (p - 1) = 1` modulo `p` but not
`a ^ ((p - 1) / q) = 1` for any of the primes `q` in a factorization of `p - 1`, given as pairs of
a prime and its exponent.

**Proof sketch.** A prime divisor of the product of the listed powers divides one of them, hence
equals the prime at its base. -/
theorem Nat.prime_of_lucas_factors {p : ℕ} (a : ZMod p) (factors : List (ℕ × ℕ))
    (hprod : (factors.map fun f => f.1 ^ f.2).prod = p - 1)
    (hprime : factors.Forall fun f => f.1.Prime) (ha : a ^ (p - 1) = 1)
    (hne : factors.Forall fun f => a ^ ((p - 1) / f.1) ≠ 1) : p.Prime := by
  rw [List.forall_iff_forall_mem] at hprime hne
  refine lucas_primality p a ha fun q hq hdvd => ?_
  rw [← hprod] at hdvd
  obtain ⟨m, hm, hqm⟩ := (Prime.dvd_prod_iff hq.prime).mp hdvd
  obtain ⟨f, hf, rfl⟩ := List.mem_map.mp hm
  have hqf : q = f.1 :=
    (Nat.prime_dvd_prime_iff_eq hq (hprime f hf)).mp (hq.dvd_of_dvd_pow hqm)
  rw [hqf]
  exact hne f hf
