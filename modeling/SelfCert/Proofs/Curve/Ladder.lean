import Mathlib.Algebra.Group.Basic

/-!
# Multiplication by doubling

Representations of the elements of a monoid are multiplied by a number with doublings and additions,
one place of the number at a time. If these are done in the monoid, so are the multiples
(`gives_ladder`).
-/

namespace SelfCert

variable {α M : Type*} [AddMonoid M] {gives : α → M → Prop} {double : α → α} {add : α → α → α}

/-- **The accumulator plus the multiple that is left stays the same.** -/
theorem gives_ladder (ladder : Nat → Nat → α → α → α)
    (hnone : ∀ k a acc, ladder 0 k a acc = acc)
    (hplace : ∀ count k a acc, ladder (count + 1) k a acc =
      if k = 0 then acc
      else ladder count (k / 2) (double a) (if k % 2 = 1 then add acc a else acc))
    (hdouble : ∀ {a x}, gives a x → gives (double a) (x + x))
    (hadd : ∀ {a b x y}, gives a x → gives b y → gives (add a b) (x + y))
    {count k : Nat} (hk : k < 2 ^ count) {a acc : α} {x y : M} (ha : gives a x)
    (hacc : gives acc y) : gives (ladder count k a acc) (y + k • x) := by
  induction count generalizing k a acc x y with
  | zero =>
    obtain rfl : k = 0 := by simpa using hk
    rwa [hnone, zero_nsmul, add_zero]
  | succ count ih =>
    rw [hplace]
    have hhalf : k / 2 < 2 ^ count := by omega
    have hsplit : k • x = (k % 2) • x + (k / 2) • (x + x) := by
      rw [← two_nsmul, ← mul_nsmul, ← add_nsmul, Nat.mod_add_div]
    split_ifs with hzero hodd
    · rwa [hzero, zero_nsmul, add_zero]
    · rw [hsplit, hodd, one_nsmul, ← add_assoc]
      exact ih hhalf (hdouble ha) (hadd hacc ha)
    · have heven : k % 2 = 0 := by omega
      rw [hsplit, heven, zero_nsmul, zero_add]
      exact ih hhalf (hdouble ha) hacc

end SelfCert
