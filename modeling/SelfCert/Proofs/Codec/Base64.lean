import SelfCert.Encoding
import SelfCert.Proofs.Text.Basic

/-!
# Base64 texts are read back

The text of a byte string spells the byte string (`Base64.ofDigits?_digits`), and no other text does
(`Base64.digits_of_ofDigits?_eq_some`). It holds only digits and padding
(`Base64.mem_of_mem_digits`), hence no blanks to trim, and no text with anything else can be read
(`Base64.mem_of_ofDigits?_eq_some`).
-/

namespace SelfCert.Base64

/-! ### Digits -/

/-- Each of the 64 digits is read as its value. -/
@[simp] theorem digit?_digit {n : Nat} (hn : n < 64) : digit? (digit n) = some n := by
  have hall : (List.range 64).all fun n => digit? (digit n) = some n := by decide
  exact of_decide_eq_true (List.all_eq_true.mp hall n (List.mem_range.mpr hn))

theorem digit_mem_alphabet (n : Nat) : digit n ∈ alphabet := by
  rw [digit, List.getD_eq_getElem?_getD]
  cases h : alphabet[n]? with
  | none => decide
  | some c => exact List.mem_of_getElem? h

/-- The padding is no digit. -/
theorem digit_ne_padding (n : Nat) : digit n ≠ '=' := fun h =>
  absurd (h ▸ digit_mem_alphabet n) (by decide)

/-- All characters of a text are digits or padding. -/
theorem mem_of_mem_digits {bytes : Bytes} {c : Char} (h : c ∈ digits bytes) :
    c ∈ '=' :: alphabet := by
  have hdigit : ∀ n, digit n ∈ '=' :: alphabet := fun n =>
    List.mem_cons_of_mem _ (digit_mem_alphabet n)
  fun_induction digits bytes with
  | case1 => cases h
  | case2 a =>
    simp only [List.mem_cons, List.not_mem_nil, or_false] at h
    rcases h with rfl | rfl | rfl | rfl
    · exact hdigit _
    · exact hdigit _
    · exact List.mem_cons_self
    · exact List.mem_cons_self
  | case3 a b =>
    simp only [List.mem_cons, List.not_mem_nil, or_false] at h
    rcases h with rfl | rfl | rfl | rfl
    · exact hdigit _
    · exact hdigit _
    · exact hdigit _
    · exact List.mem_cons_self
  | case4 a b c rest ih =>
    simp only [List.mem_cons] at h
    rcases h with rfl | rfl | rfl | rfl | h
    · exact hdigit _
    · exact hdigit _
    · exact hdigit _
    · exact hdigit _
    · exact ih h

/-! ### Reading back -/

/-- A group of four digits in front, the last of which is no padding. -/
theorem ofDigits?_cons {a b c d : Char} (hd : d ≠ '=') (rest : List Char) :
    ofDigits? (a :: b :: c :: d :: rest) =
      (group? a b c d).bind fun bytes => (ofDigits? rest).map (bytes ++ ·) := by
  rw [ofDigits?]
  · cases group? a b c d <;> cases ofDigits? rest <;> rfl
  · rintro - rfl
    exact absurd rfl hd
  · rintro rfl
    exact absurd rfl hd

theorem lastByte?_digits (a : UInt8) :
    lastByte? (digit (a.toNat / 4)) (digit (a.toNat % 4 * 16)) = some [a] := by
  have ha : a.toNat < 256 := a.toNat_lt
  have hvalue : a.toNat / 4 * 4 + a.toNat % 4 * 16 / 16 = a.toNat := by omega
  have hunused : a.toNat % 4 * 16 % 16 = 0 := by omega
  rw [lastByte?, digit?_digit (by omega), digit?_digit (by omega)]
  simp only [hunused, hvalue, if_true, UInt8.ofNat_toNat]

theorem lastBytes?_digits (a b : UInt8) :
    lastBytes? (digit (a.toNat / 4)) (digit (a.toNat % 4 * 16 + b.toNat / 16))
      (digit (b.toNat % 16 * 4)) = some [a, b] := by
  have ha : a.toNat < 256 := a.toNat_lt
  have hb : b.toNat < 256 := b.toNat_lt
  have hfirst : a.toNat / 4 * 4 + (a.toNat % 4 * 16 + b.toNat / 16) / 16 = a.toNat := by omega
  have hsecond : (a.toNat % 4 * 16 + b.toNat / 16) % 16 * 16 + b.toNat % 16 * 4 / 4 =
      b.toNat := by omega
  have hunused : b.toNat % 16 * 4 % 4 = 0 := by omega
  rw [lastBytes?, digit?_digit (by omega), digit?_digit (by omega), digit?_digit (by omega)]
  simp only [hunused, hfirst, hsecond, if_true, UInt8.ofNat_toNat]

theorem group?_digits (a b c : UInt8) :
    group? (digit (a.toNat / 4)) (digit (a.toNat % 4 * 16 + b.toNat / 16))
      (digit (b.toNat % 16 * 4 + c.toNat / 64)) (digit (c.toNat % 64)) = some [a, b, c] := by
  have ha : a.toNat < 256 := a.toNat_lt
  have hb : b.toNat < 256 := b.toNat_lt
  have hc : c.toNat < 256 := c.toNat_lt
  have hfirst : a.toNat / 4 * 4 + (a.toNat % 4 * 16 + b.toNat / 16) / 16 = a.toNat := by omega
  have hsecond : (a.toNat % 4 * 16 + b.toNat / 16) % 16 * 16 +
      (b.toNat % 16 * 4 + c.toNat / 64) / 4 = b.toNat := by omega
  have hthird : (b.toNat % 16 * 4 + c.toNat / 64) % 4 * 64 + c.toNat % 64 = c.toNat := by omega
  rw [group?, digit?_digit (by omega), digit?_digit (by omega), digit?_digit (by omega),
    digit?_digit (by omega)]
  simp only [hfirst, hsecond, hthird, UInt8.ofNat_toNat]

/-- **The text of a byte string spells it.** -/
@[simp] theorem ofDigits?_digits (bytes : Bytes) : ofDigits? (digits bytes) = some bytes := by
  -- Groups of three bytes, with one or two bytes in the last group if it is padded.
  fun_induction digits bytes with
  | case1 => rfl
  | case2 a => rw [ofDigits?, lastByte?_digits]
  | case3 a b =>
    rw [ofDigits?, lastBytes?_digits]
    exact fun h => absurd h (digit_ne_padding _)
  | case4 a b c rest ih =>
    rw [ofDigits?_cons (digit_ne_padding _), group?_digits, ih]
    rfl

/-- The same for strings, with nothing to trim. -/
theorem decode_encode (bytes : Bytes) :
    Encoding.base64.decode (Encoding.base64.encode bytes) = .ok bytes := by
  have hblank : ∀ c ∈ digits bytes, Text.isBlank c = false := by
    have hall : ('=' :: alphabet).all fun c => !Text.isBlank c := by decide
    intro c hc
    simpa using List.all_eq_true.mp hall c (mem_of_mem_digits hc)
  rw [Encoding.encode, encode, Encoding.decode, String.toList_ofList, Text.trim_eq_self hblank,
    ofDigits?_digits]

/-! ### What can be read -/

theorem mem_alphabet_of_digit?_eq_some {c : Char} {n : Nat} (h : digit? c = some n) :
    c ∈ alphabet := by
  by_contra hc
  rw [digit?, List.idxOf?_eq_none_iff.mpr hc] at h
  cases h

/-- Text that can be read consists of digits and padding. -/
theorem mem_of_ofDigits?_eq_some {text : List Char} {bytes : Bytes}
    (h : ofDigits? text = some bytes) {c : Char} (hc : c ∈ text) : c ∈ '=' :: alphabet := by
  have hdigit : ∀ {d : Char} {n : Nat}, digit? d = some n → d ∈ '=' :: alphabet :=
    fun hd => List.mem_cons_of_mem _ (mem_alphabet_of_digit?_eq_some hd)
  have hpadding : '=' ∈ '=' :: alphabet := List.mem_cons_self
  fun_induction ofDigits? text generalizing bytes with
  | case1 => cases hc
  | case2 a b =>
    unfold lastByte? at h
    split at h
    · next ha hb =>
      simp only [List.mem_cons, List.not_mem_nil, or_false] at hc
      rcases hc with rfl | rfl | rfl | rfl
      · exact hdigit ha
      · exact hdigit hb
      · exact hpadding
      · exact hpadding
    · cases h
  | case3 a b d =>
    unfold lastBytes? at h
    split at h
    · next ha hb hd =>
      simp only [List.mem_cons, List.not_mem_nil, or_false] at hc
      rcases hc with rfl | rfl | rfl | rfl
      · exact hdigit ha
      · exact hdigit hb
      · exact hdigit hd
      · exact hpadding
    · cases h
  | case4 a b d e rest _ _ found more hmore hgroup ih =>
    unfold group? at hgroup
    split at hgroup
    · next ha hb hd he =>
      simp only [List.mem_cons] at hc
      rcases hc with rfl | rfl | rfl | rfl | hc
      · exact hdigit ha
      · exact hdigit hb
      · exact hdigit hd
      · exact hdigit he
      · exact ih hmore hc
    · cases hgroup
  | case5 => cases h
  | case6 => cases h

/-! ### Only one text -/

/-- A character that can be read is the digit for its value. -/
theorem eq_digit_of_digit?_eq_some {c : Char} {n : Nat} (h : digit? c = some n) :
    n < 64 ∧ c = digit n := by
  obtain ⟨hn, hc, -⟩ := List.idxOf?_eq_some_iff.mp h
  refine ⟨hn, ?_⟩
  rw [digit, List.getD_eq_getElem?_getD, List.getElem?_eq_getElem hn, hc, Option.getD_some]

/-- A byte that is read has the bits of its digits. -/
private theorem toNat_ofNat_of_lt {n : Nat} (hn : n < 256) : (UInt8.ofNat n).toNat = n := by
  rw [UInt8.toNat_ofNat', Nat.mod_eq_of_lt hn]

theorem digits_of_lastByte?_eq_some {a b : Char} {bytes : Bytes}
    (h : lastByte? a b = some bytes) : digits bytes = [a, b, '=', '='] := by
  unfold lastByte? at h
  split at h
  · next x y ha hb =>
    split_ifs at h with hunused
    cases h
    obtain ⟨hx, rfl⟩ := eq_digit_of_digit?_eq_some ha
    obtain ⟨hy, rfl⟩ := eq_digit_of_digit?_eq_some hb
    have hfirst : (x * 4 + y / 16) / 4 = x := by omega
    have hsecond : (x * 4 + y / 16) % 4 * 16 = y := by omega
    rw [digits, toNat_ofNat_of_lt (by omega), hfirst, hsecond]
  · cases h

theorem digits_of_lastBytes?_eq_some {a b c : Char} {bytes : Bytes}
    (h : lastBytes? a b c = some bytes) : digits bytes = [a, b, c, '='] := by
  unfold lastBytes? at h
  split at h
  · next x y z ha hb hc =>
    split_ifs at h with hunused
    cases h
    obtain ⟨hx, rfl⟩ := eq_digit_of_digit?_eq_some ha
    obtain ⟨hy, rfl⟩ := eq_digit_of_digit?_eq_some hb
    obtain ⟨hz, rfl⟩ := eq_digit_of_digit?_eq_some hc
    have hfirst : (x * 4 + y / 16) / 4 = x := by omega
    have hsecond : (x * 4 + y / 16) % 4 * 16 + (y % 16 * 16 + z / 4) / 16 = y := by omega
    have hthird : (y % 16 * 16 + z / 4) % 16 * 4 = z := by omega
    rw [digits, toNat_ofNat_of_lt (by omega), toNat_ofNat_of_lt (by omega), hfirst, hsecond,
      hthird]
  · cases h

theorem digits_append_of_group?_eq_some {a b c d : Char} {bytes : Bytes}
    (h : group? a b c d = some bytes) (more : Bytes) :
    digits (bytes ++ more) = a :: b :: c :: d :: digits more := by
  unfold group? at h
  split at h
  · next x y z w ha hb hc hd =>
    cases h
    obtain ⟨hx, rfl⟩ := eq_digit_of_digit?_eq_some ha
    obtain ⟨hy, rfl⟩ := eq_digit_of_digit?_eq_some hb
    obtain ⟨hz, rfl⟩ := eq_digit_of_digit?_eq_some hc
    obtain ⟨hw, rfl⟩ := eq_digit_of_digit?_eq_some hd
    have hfirst : (x * 4 + y / 16) / 4 = x := by omega
    have hsecond : (x * 4 + y / 16) % 4 * 16 + (y % 16 * 16 + z / 4) / 16 = y := by omega
    have hthird : (y % 16 * 16 + z / 4) % 16 * 4 + (z % 4 * 64 + w) / 64 = z := by omega
    have hfourth : (z % 4 * 64 + w) % 64 = w := by omega
    rw [List.cons_append, List.cons_append, List.cons_append, List.nil_append, digits,
      toNat_ofNat_of_lt (by omega), toNat_ofNat_of_lt (by omega), toNat_ofNat_of_lt (by omega),
      hfirst, hsecond, hthird, hfourth]
  · cases h

/-- **Text that can be read is the text of what it spells**: the padding and the unused bits leave
no choice. -/
theorem digits_of_ofDigits?_eq_some {text : List Char} {bytes : Bytes}
    (h : ofDigits? text = some bytes) : digits bytes = text := by
  fun_induction ofDigits? text generalizing bytes with
  | case1 =>
    cases h
    rfl
  | case2 a b => exact digits_of_lastByte?_eq_some h
  | case3 a b c => exact digits_of_lastBytes?_eq_some h
  | case4 a b c d rest _ _ front more hmore hgroup ih =>
    cases h
    rw [digits_append_of_group?_eq_some hgroup, ih hmore]
  | case5 => cases h
  | case6 => cases h

theorem ofDigits?_eq_some_iff {text : List Char} {bytes : Bytes} :
    ofDigits? text = some bytes ↔ digits bytes = text := by
  refine ⟨digits_of_ofDigits?_eq_some, ?_⟩
  rintro rfl
  exact ofDigits?_digits bytes

end SelfCert.Base64
