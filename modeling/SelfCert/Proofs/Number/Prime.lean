import Mathlib.NumberTheory.LucasPrimality
import SelfCert.Proofs.Number.Modular

/-!
# Chains of primes

A number is prime if some base has an order that is one less than the number. To see that, one needs
the primes of one less, which are smaller and can be shown to be prime in the same way. So a large
prime is shown by a chain that starts at two, and a chain can be checked by computing powers
(`PrimeChain.prime_of_isValid`).
-/

namespace SelfCert

/-- A step of a chain: a number, a base, and the primes of one less than the number. -/
structure PrimeStep where
  number : Nat
  base : Nat
  factors : List Nat

/-- Numbers that are shown to be prime one after the other. -/
abbrev PrimeChain := List PrimeStep

namespace PrimeStep

/-- Whether a step follows from primes that are known: the factors are known and are all that there
are, and the order of the base is one less than the number. No factor occurs more than eight times
in what the steps are made for. -/
def follows (known : List Nat) (step : PrimeStep) : Bool :=
  1 < step.number && step.factors.all known.contains &&
    step.factors.prod ^ 8 % (step.number - 1) == 0 &&
    Modular.pow step.number step.base (step.number - 1) == 1 &&
    step.factors.all fun q =>
      Modular.pow step.number step.base ((step.number - 1) / q) != 1

variable {known : List Nat} {step : PrimeStep}

/-- A power is one modulo a number above one exactly if its residue is. -/
private theorem cast_pow_eq_one_iff {n : Nat} (hn : 1 < n) (base exponent : Nat) :
    (base : ZMod n) ^ exponent = 1 ↔ Modular.pow n base exponent = 1 := by
  rw [Modular.pow_eq, ← Nat.cast_pow, ← Nat.cast_one, ZMod.natCast_eq_natCast_iff',
    Nat.mod_eq_of_lt hn]

/-- **A step that follows from primes leads to a prime.** -/
theorem prime_of_follows (hknown : ∀ q ∈ known, q.Prime) (h : step.follows known) :
    step.number.Prime := by
  simp only [follows, Bool.and_eq_true, decide_eq_true_eq, List.all_eq_true, beq_iff_eq,
    bne_iff_ne, List.contains_iff_mem] at h
  obtain ⟨⟨⟨⟨hone, hfactors⟩, hall⟩, hfull⟩, hpart⟩ := h
  refine lucas_primality _ step.base ((cast_pow_eq_one_iff hone _ _).mpr hfull) ?_
  intro q hq hdvd
  -- The prime divides the product of the factors, so it is one of them.
  have hpow : q ∣ step.factors.prod ^ 8 := hdvd.trans (Nat.dvd_of_mod_eq_zero hall)
  obtain ⟨factor, hfactor, hqfactor⟩ :=
    (Prime.dvd_prod_iff hq.prime).mp (hq.dvd_of_dvd_pow hpow)
  obtain rfl : q = factor :=
    (Nat.prime_dvd_prime_iff_eq hq (hknown _ (hfactors _ hfactor))).mp hqfactor
  rw [ne_eq, cast_pow_eq_one_iff hone]
  exact hpart q hfactor

end PrimeStep

namespace PrimeChain

/-- Whether each step follows from the ones before it and from primes that are known. -/
def isValidFrom (known : List Nat) : PrimeChain → Bool
  | [] => true
  | step :: rest => step.follows known && isValidFrom (step.number :: known) rest

/-- Whether a chain starts at two. -/
def isValid (chain : PrimeChain) : Bool :=
  isValidFrom [2] chain

theorem prime_of_isValidFrom {known : List Nat} {chain : PrimeChain}
    (hknown : ∀ q ∈ known, q.Prime) (h : chain.isValidFrom known) :
    ∀ step ∈ chain, step.number.Prime := by
  induction chain generalizing known with
  | nil => exact fun step hstep => absurd hstep List.not_mem_nil
  | cons step rest ih =>
    obtain ⟨hstep, hrest⟩ := Bool.and_eq_true_iff.mp h
    have hprime := PrimeStep.prime_of_follows hknown hstep
    refine List.forall_mem_cons.mpr ⟨hprime, ih ?_ hrest⟩
    exact List.forall_mem_cons.mpr ⟨hprime, hknown⟩

/-- **The numbers of a valid chain are prime.** -/
theorem prime_of_isValid {chain : PrimeChain} (h : chain.isValid) {step : PrimeStep}
    (hstep : step ∈ chain) : step.number.Prime := by
  refine prime_of_isValidFrom (fun q hq => ?_) h step hstep
  rw [List.mem_singleton.mp hq]
  exact Nat.prime_two

end PrimeChain

end SelfCert
