import Mathlib.Data.Int.ModEq
import Mathlib.Data.Nat.ModEq
import Mathlib.Tactic.Ring
import SelfCert.Number.Modular
import SelfCert.Number.Radix

/-!
# Powers and inverses modulo a number

Squaring computes the power (`Modular.pow_eq`), and Euclid's algorithm, where it ends in one,
computes an inverse (`Modular.mul_modEq_one_of_inverse?_eq_some`).
-/

namespace SelfCert.Modular

variable {m : Nat}

/-! ### Powers -/

/-- The accumulator times the power that is left stays the same modulo `m`. -/
private theorem powOnto_eq {count base exponent acc : Nat} (hcount : exponent < 2 ^ count)
    (hacc : acc % m = acc) :
    powOnto m count base exponent acc = acc * base ^ exponent % m := by
  induction count generalizing base exponent acc with
  | zero =>
    obtain rfl : exponent = 0 := by simpa using hcount
    rw [powOnto, Nat.pow_zero, Nat.mul_one, hacc]
  | succ count ih =>
    rw [powOnto]
    split_ifs with hzero hodd
    · rw [hzero, Nat.pow_zero, Nat.mul_one, hacc]
    · -- An odd exponent gives one factor to the accumulator.
      have hhalf : exponent / 2 < 2 ^ count := by omega
      have hexponent : exponent = 2 * (exponent / 2) + 1 := by omega
      have hpow : acc * base * (base * base) ^ (exponent / 2) = acc * base ^ exponent := by
        conv_rhs => rw [hexponent]
        ring
      rw [ih hhalf (Nat.mod_mod _ _), ← hpow]
      exact ((Nat.mod_modEq _ _).mul ((Nat.mod_modEq _ _).pow _))
    · have hhalf : exponent / 2 < 2 ^ count := by omega
      have hexponent : exponent = 2 * (exponent / 2) := by omega
      have hpow : acc * (base * base) ^ (exponent / 2) = acc * base ^ exponent := by
        conv_rhs => rw [hexponent]
        ring
      rw [ih hhalf hacc, ← hpow]
      exact (Nat.ModEq.rfl.mul ((Nat.mod_modEq _ _).pow _))

/-- **The power is the power.** -/
theorem pow_eq (m base exponent : Nat) : pow m base exponent = base ^ exponent % m := by
  have hone : 1 % m * (base % m) ^ exponent ≡ 1 * base ^ exponent [MOD m] :=
    (Nat.mod_modEq _ _).mul ((Nat.mod_modEq _ _).pow _)
  rw [pow, powOnto_eq Nat.lt_log2_self (Nat.mod_mod _ _), hone, Nat.one_mul]

/-! ### Inverses -/

/-- Each of the two numbers stays its coefficient times the first number modulo `m`. -/
private theorem euclid_modEq {start : Int} {count a b : Nat} {x y : Int}
    (ha : (a : Int) ≡ x * start [ZMOD m]) (hb : (b : Int) ≡ y * start [ZMOD m]) :
    ((euclid count a b x y).1 : Int) ≡ (euclid count a b x y).2 * start [ZMOD m] := by
  induction count generalizing a b x y with
  | zero => exact ha
  | succ count ih =>
    rw [euclid]
    split_ifs
    · exact ha
    · -- The remainder is the first number less a multiple of the second.
      refine ih hb ?_
      have hrest : ((a % b : Nat) : Int) = a - (a / b : Nat) * b := by
        rw [Int.natCast_mod, Int.natCast_div, Int.emod_def, Int.mul_comm (b : Int)]
      rw [hrest, sub_mul, mul_assoc]
      exact ha.sub (hb.mul_left _)

/-- An inverse that was found is one. -/
theorem mul_modEq_one_of_inverse?_eq_some {a x : Nat} (hm : 0 < m)
    (h : inverse? m a = some x) : a * x ≡ 1 [MOD m] := by
  have heuclid : ((euclid (2 * (a.log2 + m.log2) + 4) (a % m) m 1 0).1 : Int) ≡
      (euclid (2 * (a.log2 + m.log2) + 4) (a % m) m 1 0).2 * a [ZMOD m] := by
    refine euclid_modEq ?_ ?_
    · rw [one_mul, Int.natCast_mod]
      exact Int.mod_modEq _ _
    · rw [zero_mul]
      exact Int.modEq_zero_iff_dvd.mpr dvd_rfl
  unfold inverse? at h
  simp only [Option.ite_none_right_eq_some, Option.some.injEq] at h
  obtain ⟨hone, rfl⟩ := h
  rw [hone] at heuclid
  have hnonneg : 0 ≤ (euclid (2 * (a.log2 + m.log2) + 4) (a % m) m 1 0).2 % (m : Int) :=
    Int.emod_nonneg _ (by omega)
  rw [← Int.natCast_modEq_iff, Nat.cast_mul, Int.toNat_of_nonneg hnonneg, mul_comm]
  exact ((Int.mod_modEq _ _).mul_right _).trans heuclid.symm

end SelfCert.Modular
