import Mathlib.Data.List.TakeWhile
import Mathlib.Data.Nat.Digits.Lemmas
import SelfCert.Bytes
import SelfCert.Number.Radix

/-!
# Numbers, digits and bytes

`Radix.digits` lists the digits of a number most significant first, so it is `Nat.digits` in reverse
(`Radix.digits_eq_reverse`), and `Radix.value` undoes it. A byte string is determined by its length
and the number it spells (`Bytes.ofNat_toNat`); the minimal bytes of that number are the byte string
without its leading zeros (`Bytes.ofNatMinimal_toNat`).
-/

namespace SelfCert

namespace Radix

variable {base : Nat}

/-! ### Digits -/

/-- Putting the digits in front of a tail, as long as the count bounds their number. -/
private theorem digitsOnto_eq (hb : 1 < base) {count n : Nat} (hn : n < base ^ count)
    (tail : List Nat) : digitsOnto base count n tail = (Nat.digits base n).reverse ++ tail := by
  induction count generalizing n tail with
  | zero =>
    obtain rfl : n = 0 := by simpa using hn
    simp [digitsOnto]
  | succ count ih =>
    cases n with
    | zero => simp [digitsOnto]
    | succ n =>
      have hdiv : (n + 1) / base < base ^ count :=
        Nat.div_lt_of_lt_mul (by rwa [Nat.mul_comm, ← Nat.pow_succ])
      rw [digitsOnto, ih hdiv, Nat.digits_def' hb n.succ_pos]
      simp

/-- The digits are those of Mathlib in the other order. -/
theorem digits_eq_reverse (hb : 1 < base) (n : Nat) :
    digits base n = (Nat.digits base n).reverse := by
  have hn : n < base ^ (n.log2 + 1) :=
    calc n < 2 ^ (n.log2 + 1) := Nat.lt_log2_self
      _ ≤ base ^ (n.log2 + 1) := Nat.pow_le_pow_left hb _
  rw [digits, digitsOnto_eq hb hn, List.append_nil]

/-- Reading digits after a number that was read before. -/
private theorem foldl_value (ds : List Nat) (start : Nat) :
    ds.foldl (fun n d => n * base + d) start =
      start * base ^ ds.length + Nat.ofDigits base ds.reverse := by
  induction ds generalizing start with
  | nil => simp
  | cons d ds ih =>
    rw [List.foldl_cons, ih, List.reverse_cons, Nat.ofDigits_append, List.length_cons]
    simp only [List.length_reverse, Nat.ofDigits_singleton]
    ring

theorem value_eq_ofDigits (ds : List Nat) : value base ds = Nat.ofDigits base ds.reverse := by
  rw [value, foldl_value, Nat.zero_mul, Nat.zero_add]

/-- The digits of a number spell it. -/
@[simp] theorem value_digits (hb : 1 < base) (n : Nat) : value base (digits base n) = n := by
  rw [value_eq_ofDigits, digits_eq_reverse hb, List.reverse_reverse, Nat.ofDigits_digits]

/-- Zeros in front do not count. -/
@[simp] theorem value_replicate_zero_append (count : Nat) (ds : List Nat) :
    value base (List.replicate count 0 ++ ds) = value base ds := by
  simp only [value_eq_ofDigits, List.reverse_append, List.reverse_replicate, Nat.ofDigits_append,
    Nat.ofDigits_replicate_zero, Nat.mul_zero, Nat.add_zero]

theorem lt_of_mem_digits (hb : 1 < base) {n d : Nat} (h : d ∈ digits base n) : d < base := by
  rw [digits_eq_reverse hb, List.mem_reverse] at h
  exact Nat.digits_lt_base hb h

/-- The first digit is not zero. -/
theorem head?_digits_ne_zero (hb : 1 < base) (n : Nat) : (digits base n).head? ≠ some 0 := by
  rw [digits_eq_reverse hb, List.head?_reverse]
  by_cases hn : n = 0
  · simp [hn]
  · have hne : Nat.digits base n ≠ [] := Nat.digits_ne_nil_iff_ne_zero.mpr hn
    rw [List.getLast?_eq_some_getLast hne]
    exact fun h => Nat.getLast_digit_ne_zero base hn (Option.some_injective _ h)

/-- Digits that do not begin with zero are the digits of the number they spell. -/
theorem digits_value (hb : 1 < base) {ds : List Nat} (hlt : ∀ d ∈ ds, d < base)
    (hhead : ds.head? ≠ some 0) : digits base (value base ds) = ds := by
  have hlt' : ∀ d ∈ ds.reverse, d < base := fun d hd => hlt d (List.mem_reverse.mp hd)
  have hlast : ∀ hne : ds.reverse ≠ [], ds.reverse.getLast hne ≠ 0 := by
    intro hne hzero
    rw [List.getLast_reverse] at hzero
    exact hhead (List.head?_eq_some_head (List.reverse_ne_nil_iff.mp hne) ▸ congrArg some hzero)
  rw [digits_eq_reverse hb, value_eq_ofDigits, Nat.digits_ofDigits base hb _ hlt' hlast,
    List.reverse_reverse]

/-- A number has at most `k` digits exactly if it is below the power. -/
theorem length_digits_le_iff (hb : 1 < base) {n k : Nat} :
    (digits base n).length ≤ k ↔ n < base ^ k := by
  rw [digits_eq_reverse hb, List.length_reverse, Nat.digits_length_le_iff hb]

/-- A number has more than `k` digits exactly if it reaches the power. -/
theorem lt_length_digits_iff (hb : 1 < base) {n k : Nat} :
    k < (digits base n).length ↔ base ^ k ≤ n := by
  rw [← not_le, length_digits_le_iff hb, not_lt]

theorem digits_eq_nil_iff (hb : 1 < base) {n : Nat} : digits base n = [] ↔ n = 0 := by
  rw [digits_eq_reverse hb, List.reverse_eq_nil_iff, Nat.digits_eq_nil_iff_eq_zero]

end Radix

namespace Bytes

/-! ### Bytes -/

theorem ofNatOnto_append (width n : Nat) (front tail : Bytes) :
    ofNatOnto width n (front ++ tail) = ofNatOnto width n front ++ tail := by
  induction width generalizing n front with
  | zero => rfl
  | succ width ih => rw [ofNatOnto, ofNatOnto, ← List.cons_append, ih]

/-- One more byte in front of the low-order ones. -/
theorem ofNat_succ (width n : Nat) :
    ofNat (width + 1) n = ofNat width (n / 256) ++ [UInt8.ofNat n] := by
  rw [ofNat, ofNatOnto, ofNat, ← ofNatOnto_append, List.nil_append]

theorem toNat_append (a b : Bytes) : toNat (a ++ b) = toNat a * 256 ^ b.length + toNat b := by
  rw [toNat, List.foldl_append, foldl_toNat, ← toNat]

/-- A byte string is determined by its length and the number it spells. -/
@[simp] theorem ofNat_toNat (bytes : Bytes) : ofNat bytes.length (toNat bytes) = bytes := by
  induction bytes using List.reverseRecOn with
  | nil => rfl
  | append_singleton bytes b ih =>
    have hb : b.toNat < 256 := b.toNat_lt
    have hlast : toNat (bytes ++ [b]) = toNat bytes * 256 + b.toNat := by
      rw [toNat_append]
      simp [toNat]
    have hdiv : (toNat bytes * 256 + b.toNat) / 256 = toNat bytes := by omega
    have hbyte : UInt8.ofNat (toNat bytes * 256 + b.toNat) = b := by
      apply UInt8.toNat_inj.mp
      rw [UInt8.toNat_ofNat']
      omega
    rw [List.length_append, List.length_singleton, ofNat_succ, hlast, hdiv, hbyte, ih]

/-- The width of a number that needs exactly so many bytes. -/
theorem width_eq_succ {n k : Nat} (hlow : 256 ^ k ≤ n) (hhigh : n < 256 ^ (k + 1)) :
    width n = k + 1 := by
  have hn : n ≠ 0 := by
    have : 0 < 256 ^ k := by positivity
    omega
  have hlow' : 8 * k ≤ n.log2 := by
    rw [Nat.le_log2 hn, Nat.pow_mul]
    exact hlow
  have hhigh' : n.log2 < 8 * (k + 1) := by
    rw [Nat.log2_lt hn, Nat.pow_mul]
    exact hhigh
  rw [width, if_neg hn]
  omega

theorem lt_pow_width (n : Nat) : n < 256 ^ width n := by
  rw [width]
  split_ifs with hn
  · simp [hn]
  · calc n < 2 ^ (n.log2 + 1) := Nat.lt_log2_self
      _ ≤ 2 ^ (8 * (n.log2 / 8 + 1)) := Nat.pow_le_pow_right (by decide) (by omega)
      _ = 256 ^ (n.log2 / 8 + 1) := by rw [Nat.pow_mul]

/-- A number fills all its bytes but the first. -/
theorem pow_width_sub_one_le {n : Nat} (hn : n ≠ 0) : 256 ^ (width n - 1) ≤ n := by
  rw [width, if_neg hn, Nat.add_sub_cancel]
  calc 256 ^ (n.log2 / 8) = 2 ^ (8 * (n.log2 / 8)) := by rw [Nat.pow_mul]
    _ ≤ 2 ^ n.log2 := Nat.pow_le_pow_right (by decide) (Nat.mul_div_le _ _)
    _ ≤ n := Nat.log2_self_le hn

theorem width_le_of_log2_lt {n k : Nat} (h : n.log2 < 8 * k) : width n ≤ k := by
  rw [width]
  split_ifs <;> omega

theorem width_le_of_lt {n k : Nat} (h : n < 256 ^ k) : width n ≤ k := by
  by_cases hn : n = 0
  · rw [width, if_pos hn]
    exact Nat.zero_le k
  · refine width_le_of_log2_lt ((Nat.log2_lt hn).mpr ?_)
    rwa [Nat.pow_mul]

/-- No number needs more bytes than itself. -/
theorem width_le_self (n : Nat) : width n ≤ n :=
  width_le_of_lt (Nat.lt_pow_self (by decide))

/-- The minimal bytes of a number spell it. -/
@[simp] theorem toNat_ofNatMinimal (n : Nat) : toNat (ofNatMinimal n) = n := by
  rw [ofNatMinimal, toNat_ofNat, Nat.mod_eq_of_lt (lt_pow_width n)]

@[simp] theorem length_ofNatMinimal (n : Nat) : (ofNatMinimal n).length = width n :=
  length_ofNat _ _

/-- A byte string that does not begin with zero spells a number that fills all its bytes. -/
theorem le_toNat_cons {b : UInt8} (hb : b ≠ 0) (rest : Bytes) :
    256 ^ rest.length ≤ toNat (b :: rest) := by
  have hpos : 1 ≤ b.toNat := by
    by_contra h
    exact hb (UInt8.toNat_inj.mp (by simpa using h))
  rw [toNat_cons]
  calc 256 ^ rest.length ≤ b.toNat * 256 ^ rest.length := Nat.le_mul_of_pos_left _ hpos
    _ ≤ b.toNat * 256 ^ rest.length + toNat rest := Nat.le_add_right _ _

theorem width_toNat_cons {b : UInt8} (hb : b ≠ 0) (rest : Bytes) :
    width (toNat (b :: rest)) = rest.length + 1 :=
  width_eq_succ (le_toNat_cons hb rest) (toNat_lt (b :: rest))

/-- Leading zeros do not count. -/
theorem toNat_dropWhile_zero (bytes : Bytes) :
    toNat (bytes.dropWhile (· == 0)) = toNat bytes := by
  induction bytes with
  | nil => rfl
  | cons b rest ih =>
    by_cases hb : b = 0
    · subst hb
      rw [List.dropWhile_cons_of_pos (by simp), ih, toNat_cons]
      simp
    · rw [List.dropWhile_cons_of_neg (by simpa using hb)]

theorem head_ne_zero_of_dropWhile_eq_cons {bytes rest : Bytes} {b : UInt8}
    (h : bytes.dropWhile (· == 0) = b :: rest) : b ≠ 0 := by
  have hhead := List.head?_dropWhile_not (· == (0 : UInt8)) bytes
  rw [h] at hhead
  simpa using hhead

/-- The minimal bytes of the number of a byte string are the byte string without leading zeros. -/
theorem ofNatMinimal_toNat (bytes : Bytes) :
    ofNatMinimal (toNat bytes) = bytes.dropWhile (· == 0) := by
  rw [← toNat_dropWhile_zero]
  cases hrest : bytes.dropWhile (· == 0) with
  | nil => rfl
  | cons b rest =>
    have hb : b ≠ 0 := head_ne_zero_of_dropWhile_eq_cons hrest
    rw [ofNatMinimal, width_toNat_cons hb, ← List.length_cons (a := b), ofNat_toNat]

/-- The minimal bytes of a number do not begin with zero. -/
theorem head_ne_zero_of_ofNatMinimal_eq_cons {n : Nat} {b : UInt8} {rest : Bytes}
    (h : ofNatMinimal n = b :: rest) : b ≠ 0 := by
  have hdrop : (ofNatMinimal n).dropWhile (· == 0) = b :: rest := by
    rw [← ofNatMinimal_toNat, toNat_ofNatMinimal, h]
  exact head_ne_zero_of_dropWhile_eq_cons hdrop

/-- A byte string is its leading zeros and what follows them. -/
theorem replicate_zero_append_dropWhile (bytes : Bytes) :
    List.replicate (bytes.takeWhile (· == 0)).length 0 ++ bytes.dropWhile (· == 0) = bytes := by
  have hzeros : bytes.takeWhile (· == 0) =
      List.replicate (bytes.takeWhile (· == 0)).length 0 :=
    List.eq_replicate_of_mem fun b hb => by simpa using List.mem_takeWhile_imp hb
  rw [← hzeros, List.takeWhile_append_dropWhile]

end Bytes

end SelfCert
