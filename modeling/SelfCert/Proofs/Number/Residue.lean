import Mathlib.FieldTheory.Finite.Basic
import SelfCert.Proofs.Number.Modular

/-!
# Modular arithmetic as arithmetic of residues

Numbers stand for their residues. Powers, differences and inverses that are computed modulo a number
stand for the powers, differences and inverses of the residues.
-/

namespace SelfCert.Modular

variable {m : Nat}

theorem cast_pow (m base exponent : Nat) :
    ((pow m base exponent : Nat) : ZMod m) = (base : ZMod m) ^ exponent := by
  rw [pow_eq, ZMod.natCast_mod, Nat.cast_pow]

/-- What is missing to the modulus is the opposite. -/
theorem cast_modulus_sub {a : Nat} (h : a ≤ m) : ((m - a : Nat) : ZMod m) = -a := by
  rw [Nat.cast_sub h, ZMod.natCast_self, zero_sub]

theorem cast_sub {b : Nat} (h : b ≤ m) (a : Nat) :
    ((sub m a b : Nat) : ZMod m) = a - b := by
  rw [sub, ZMod.natCast_mod, Nat.cast_add, cast_modulus_sub h, sub_eq_add_neg]

/-- A difference to a number that is reduced first. -/
theorem cast_sub_mod (hm : 0 < m) (a b : Nat) :
    ((sub m a (b % m) : Nat) : ZMod m) = a - b := by
  rw [cast_sub (Nat.mod_lt b hm).le, ZMod.natCast_mod]

theorem sub_lt (hm : 0 < m) (a b : Nat) : sub m a b < m :=
  Nat.mod_lt _ hm

/-- A number below the modulus is zero exactly if its residue is. -/
theorem cast_eq_zero_iff {a : Nat} (h : a < m) : (a : ZMod m) = 0 ↔ a = 0 := by
  rw [ZMod.natCast_eq_zero_iff]
  exact ⟨fun hdvd => Nat.eq_zero_of_dvd_of_lt hdvd h, fun hzero => hzero ▸ dvd_zero m⟩

/-- Numbers below the modulus are equal exactly if their residues are. -/
theorem cast_inj {a b : Nat} (ha : a < m) (hb : b < m) : (a : ZMod m) = b ↔ a = b := by
  rw [ZMod.natCast_eq_natCast_iff', Nat.mod_eq_of_lt ha, Nat.mod_eq_of_lt hb]

/-- **The power is the inverse** modulo an odd prime, also for zero. -/
theorem cast_primeInverse {p : Nat} (hp : p.Prime) (hodd : 2 < p) (a : Nat) :
    ((primeInverse p a : Nat) : ZMod p) = (a : ZMod p)⁻¹ := by
  have : Fact p.Prime := ⟨hp⟩
  rw [primeInverse, cast_pow]
  by_cases ha : (a : ZMod p) = 0
  · rw [ha, inv_zero, zero_pow (by omega)]
  · refine eq_inv_of_mul_eq_one_left ?_
    have hsucc : p - 2 + 1 = p - 1 := by omega
    rw [← pow_succ, hsucc, ZMod.pow_card_sub_one_eq_one ha]

end SelfCert.Modular
