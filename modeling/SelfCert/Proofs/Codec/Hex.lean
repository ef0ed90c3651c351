import Mathlib.Data.List.Basic
import Mathlib.Tactic.IntervalCases
import SelfCert.Codec.Hex

/-!
# Hexadecimal digits and their case

The sixteen digits that are written have lower case. A character that can be read as a digit is one
of them or has a letter of them in upper case, so its lower-case form is the digit that is written
for its value (`Hex.toLower_eq_digit`). The digits of a byte string spell it, and up to case no
others do (`Hex.ofDigits?_eq_some_iff`).
-/

namespace SelfCert.Hex

/-- What holds of each of the sixteen digits that are written. -/
theorem digit_facts {n : Nat} (hn : n < 16) :
    digit? (digit n) = some n ∧ digit? (digit n).toUpper = some n ∧
      (digit n).toLower = digit n ∧ (digit n).toUpper.toLower = digit n ∧
      (digit n).utf8Size = 1 ∧ (digit n).toUpper.utf8Size = 1 := by
  revert n
  decide

@[simp] theorem digit?_digit {n : Nat} (hn : n < 16) : digit? (digit n) = some n :=
  (digit_facts hn).1

/-- A character in a range of code points is the one of its offset in it. -/
private theorem exists_offset_of_range {c low high : Char} (hlow : low ≤ c) (hhigh : c ≤ high) :
    ∃ k ≤ high.toNat - low.toNat, c = Char.ofNat (low.toNat + k) := by
  have hlow' : low.toNat ≤ c.toNat := hlow
  have hhigh' : c.toNat ≤ high.toNat := hhigh
  refine ⟨c.toNat - low.toNat, by omega, ?_⟩
  rw [Nat.add_sub_cancel' hlow', Char.ofNat_toNat]

/-- A character that can be read is a digit or the upper case of one. -/
theorem eq_digit_or_eq_toUpper {c : Char} {n : Nat} (h : digit? c = some n) :
    n < 16 ∧ (c = digit n ∨ c = (digit n).toUpper) := by
  unfold digit? at h
  split_ifs at h with hdecimal hlower hupper
  · obtain ⟨k, hk, rfl⟩ := exists_offset_of_range hdecimal.1 hdecimal.2
    have hk : k ≤ 9 := hk
    interval_cases k <;> cases h <;> decide
  · obtain ⟨k, hk, rfl⟩ := exists_offset_of_range hlower.1 hlower.2
    have hk : k ≤ 5 := hk
    interval_cases k <;> cases h <;> decide
  · obtain ⟨k, hk, rfl⟩ := exists_offset_of_range hupper.1 hupper.2
    have hk : k ≤ 5 := hk
    interval_cases k <;> cases h <;> decide

/-- The lower case of a character that can be read is the digit written for its value. -/
theorem toLower_eq_digit {c : Char} {n : Nat} (h : digit? c = some n) : c.toLower = digit n := by
  obtain ⟨hn, rfl | rfl⟩ := eq_digit_or_eq_toUpper h
  · exact (digit_facts hn).2.2.1
  · exact (digit_facts hn).2.2.2.1

theorem utf8Size_eq_one {c : Char} {n : Nat} (h : digit? c = some n) : c.utf8Size = 1 := by
  obtain ⟨hn, rfl | rfl⟩ := eq_digit_or_eq_toUpper h
  · exact (digit_facts hn).2.2.2.2.1
  · exact (digit_facts hn).2.2.2.2.2

/-- When a digit is as it is in one of the two cases. -/
theorem toLower_eq_iff {c : Char} (h : (digit? c).isSome) : c.toLower = c ↔ ¬c.isUpper := by
  obtain ⟨n, hn⟩ := Option.isSome_iff_exists.mp h
  obtain ⟨hlt, rfl | rfl⟩ := eq_digit_or_eq_toUpper hn
  · revert n
    decide
  · revert n
    decide

theorem toUpper_toLower_eq_iff {c : Char} (h : (digit? c).isSome) :
    c.toLower.toUpper = c ↔ (c.isAlpha → c.isUpper) := by
  obtain ⟨n, hn⟩ := Option.isSome_iff_exists.mp h
  obtain ⟨hlt, rfl | rfl⟩ := eq_digit_or_eq_toUpper hn
  · revert n
    decide
  · revert n
    decide

/-! ### Digits in lower case -/

/-- Whether a character is a digit as it is written. -/
def IsWritten (c : Char) : Prop := ∃ n < 16, c = digit n

theorem isWritten_toLower {c : Char} (h : (digit? c).isSome) : IsWritten c.toLower := by
  obtain ⟨n, hn⟩ := Option.isSome_iff_exists.mp h
  exact ⟨n, (eq_digit_or_eq_toUpper hn).1, toLower_eq_digit hn⟩

/-- All digits of a byte string are written ones. -/
theorem isWritten_of_mem_digits {bytes : Bytes} {c : Char} (h : c ∈ digits bytes) :
    IsWritten c := by
  obtain ⟨b, -, hc⟩ := List.mem_flatMap.mp h
  have hb : b.toNat < 256 := b.toNat_lt
  simp only [digitPair, List.mem_cons, List.not_mem_nil, or_false] at hc
  rcases hc with rfl | rfl
  · exact ⟨b.toNat / 16, by omega, rfl⟩
  · exact ⟨b.toNat % 16, by omega, rfl⟩

@[simp] theorem length_digits (bytes : Bytes) : (digits bytes).length = 2 * bytes.length := by
  induction bytes with
  | nil => rfl
  | cons b bytes ih =>
    rw [digits, List.flatMap_cons, ← digits, List.length_append, ih, List.length_cons]
    simp only [digitPair, List.length_cons, List.length_nil]
    omega

namespace IsWritten

variable {c : Char}

theorem isSome_digit? (h : IsWritten c) : (digit? c).isSome := by
  obtain ⟨n, hn, rfl⟩ := h
  simp [hn]

theorem isSome_digit?_toUpper (h : IsWritten c) : (digit? c.toUpper).isSome := by
  obtain ⟨n, hn, rfl⟩ := h
  simp [(digit_facts hn).2.1]

theorem toLower_eq (h : IsWritten c) : c.toLower = c := by
  obtain ⟨n, hn, rfl⟩ := h
  exact (digit_facts hn).2.2.1

theorem toLower_toUpper (h : IsWritten c) : c.toUpper.toLower = c := by
  obtain ⟨n, hn, rfl⟩ := h
  exact (digit_facts hn).2.2.2.1

end IsWritten

/-! ### Reading back -/

/-- **The digits of a byte string spell it.** -/
@[simp] theorem ofDigits?_digits (bytes : Bytes) : ofDigits? (digits bytes) = some bytes := by
  induction bytes with
  | nil => rfl
  | cons b bytes ih =>
    have hb : b.toNat < 256 := b.toNat_lt
    have hvalue : b.toNat / 16 * 16 + b.toNat % 16 = b.toNat := by omega
    rw [digits, List.flatMap_cons, ← digits, digitPair, List.cons_append, List.cons_append,
      List.nil_append, ofDigits?, digit?_digit (by omega), digit?_digit (by omega), ih]
    simp only [hvalue, UInt8.ofNat_toNat]

@[simp] theorem decode?_encode (bytes : Bytes) : decode? (encode bytes) = some bytes := by
  rw [decode?, encode, String.toList_ofList, ofDigits?_digits]

/-- Digits do not begin with the mark, so there is nothing to leave out in front. -/
theorem afterMark_digits (bytes : Bytes) : afterMark (digits bytes) = digits bytes := by
  have hx : 'x' ∉ digits bytes := fun h =>
    absurd (isWritten_of_mem_digits h).isSome_digit? (by decide)
  unfold afterMark
  split
  · next rest heq =>
    rw [heq] at hx
    exact absurd (List.mem_cons_of_mem _ List.mem_cons_self) hx
  · rfl

/-! ### Only one text up to case -/

/-- The case of a digit does not count. -/
theorem digit?_toLower (c : Char) : digit? c.toLower = digit? c := by
  by_cases hupper : 'A' ≤ c ∧ c ≤ 'Z'
  · obtain ⟨k, hk, rfl⟩ := exists_offset_of_range hupper.1 hupper.2
    have hk : k ≤ 25 := hk
    interval_cases k <;> rfl
  · have hsame : c.toLower = c := dif_neg hupper
    rw [hsame]

theorem ofDigits?_map_toLower : ∀ text : List Char,
    ofDigits? (text.map Char.toLower) = ofDigits? text
  | [] => rfl
  | [_] => rfl
  | high :: low :: rest => by
    rw [List.map_cons, List.map_cons, ofDigits?, ofDigits?, digit?_toLower, digit?_toLower,
      ofDigits?_map_toLower rest]

/-- Text that can be read is, in lower case, the text of what it spells. -/
theorem digits_of_ofDigits?_eq_some {text : List Char} {bytes : Bytes}
    (h : ofDigits? text = some bytes) : digits bytes = text.map Char.toLower := by
  fun_induction ofDigits? text generalizing bytes with
  | case1 =>
    cases h
    rfl
  | case2 => cases h
  | case3 high low rest x y more hmore hy hx ih =>
    cases h
    obtain ⟨hx', -⟩ := eq_digit_or_eq_toUpper hx
    obtain ⟨hy', -⟩ := eq_digit_or_eq_toUpper hy
    have hbyte : (UInt8.ofNat (x * 16 + y)).toNat = x * 16 + y := by
      rw [UInt8.toNat_ofNat', Nat.mod_eq_of_lt (by omega)]
    have hhigh : (x * 16 + y) / 16 = x := by omega
    have hlow : (x * 16 + y) % 16 = y := by omega
    rw [digits, List.flatMap_cons, ← digits, ih hmore, digitPair, hbyte, hhigh, hlow,
      List.map_cons, List.map_cons, toLower_eq_digit hx, toLower_eq_digit hy]
    rfl
  | case4 => cases h

/-- **A text spells a byte string exactly if it is its text up to case.** -/
theorem ofDigits?_eq_some_iff {text : List Char} {bytes : Bytes} :
    ofDigits? text = some bytes ↔ digits bytes = text.map Char.toLower := by
  refine ⟨digits_of_ofDigits?_eq_some, fun h => ?_⟩
  rw [← ofDigits?_map_toLower, ← h, ofDigits?_digits]

/-! ### What can be read -/

/-- Text that can be read consists of digits. -/
theorem isSome_digit?_of_ofDigits?_eq_some {text : List Char} {bytes : Bytes}
    (h : ofDigits? text = some bytes) {c : Char} (hc : c ∈ text) : (digit? c).isSome := by
  fun_induction ofDigits? text generalizing bytes with
  | case1 => cases hc
  | case2 => cases h
  | case3 high low rest x y more hmore hy hx ih =>
    rcases List.mem_cons.mp hc with rfl | hc
    · rw [hx]; rfl
    rcases List.mem_cons.mp hc with rfl | hc
    · rw [hy]; rfl
    · exact ih hmore hc
  | case4 => cases h

/-- The mark in front is all that is left out. -/
theorem mem_afterMark {text : List Char} {c : Char} (hzero : c ≠ '0') (hx : c ≠ 'x')
    (h : c ∈ text) : c ∈ afterMark text := by
  unfold afterMark
  split
  · simpa [hzero, hx] using h
  · exact h

end SelfCert.Hex
