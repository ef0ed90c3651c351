import SelfCert.Der
import SelfCert.Proofs.Number.Digits

/-!
# Distinguished encodings are read back

What the writer of an element, of a natural number and of a sequence puts down is what the reader
finds, with whatever stands behind it. Lengths are read from at most four bytes, so the laws hold
for contents of fewer than `2 ^ 32` bytes (`Der.maxLength`).

Nothing else is read: a length, a number or a sequence has one encoding, and the reader only accepts
that one (`Der.eq_of_naturals?_eq_some`, `Der.eq_of_wholeSequence?_eq_some`).
-/

namespace SelfCert.Der

/-! ### Lengths -/

/-- A length is read back. -/
theorem readLength?_lengthBytes_append {n : Nat} (hn : n < maxLength) (rest : Bytes) :
    readLength? (lengthBytes n ++ rest) = some (n, rest) := by
  unfold lengthBytes
  split_ifs with hshort
  · have hbyte : (UInt8.ofNat n).toNat = n := by
      rw [UInt8.toNat_ofNat', Nat.mod_eq_of_lt (by omega)]
    have hless : UInt8.ofNat n < 0x80 := by
      rw [UInt8.lt_iff_toNat_lt, hbyte]
      exact hshort
    rw [List.cons_append, List.nil_append, readLength?, if_pos hless, hbyte]
  · -- In the long form the first byte counts the bytes of the length, of which four are read.
    have hwidth : Bytes.width n ≤ 4 := Bytes.width_le_of_lt hn
    have hpos : Bytes.width n ≠ 0 := by
      rw [Bytes.width, if_neg (by omega)]
      omega
    have hbyte : (UInt8.ofNat (0x80 + Bytes.width n)).toNat = 0x80 + Bytes.width n := by
      rw [UInt8.toNat_ofNat', Nat.mod_eq_of_lt (by omega)]
    have hmore : ¬UInt8.ofNat (0x80 + Bytes.width n) < 0x80 := by
      rw [UInt8.lt_iff_toNat_lt, hbyte]
      exact Nat.not_lt.mpr (Nat.le_add_right _ _)
    have htake : (Bytes.ofNatMinimal n ++ rest).take (Bytes.width n) = Bytes.ofNatMinimal n :=
      List.take_left' (Bytes.length_ofNatMinimal n)
    have hdrop : (Bytes.ofNatMinimal n ++ rest).drop (Bytes.width n) = rest :=
      List.drop_left' (Bytes.length_ofNatMinimal n)
    have hlength : Bytes.width n ≤ (Bytes.ofNatMinimal n ++ rest).length := by
      rw [List.length_append, Bytes.length_ofNatMinimal]
      exact Nat.le_add_right _ _
    rw [List.cons_append, readLength?, if_neg hmore]
    simp only [hbyte, Nat.add_sub_cancel_left]
    rw [if_neg (by omega), htake, hdrop, Bytes.toNat_ofNatMinimal, if_neg (by omega)]

/-- A length takes at most two bytes more than the contents. -/
theorem length_lengthBytes_le (n : Nat) : (lengthBytes n).length ≤ n + 1 := by
  unfold lengthBytes
  split_ifs
  · exact Nat.le_add_left _ _
  · have hwidth : Bytes.width n ≤ n := Bytes.width_le_self n
    rw [List.length_cons, Bytes.length_ofNatMinimal]
    omega

/-! ### Elements -/

theorem length_element_le (tag : UInt8) (content : Bytes) :
    (element tag content).length ≤ 2 * content.length + 2 := by
  have hlength := length_lengthBytes_le content.length
  rw [element, List.cons_append, List.length_cons, List.length_append]
  omega

/-- A short element takes two bytes more than its content. -/
theorem length_element_of_lt (tag : UInt8) {content : Bytes} (h : content.length < 128) :
    (element tag content).length = content.length + 2 := by
  rw [element, lengthBytes, if_pos h, List.cons_append, List.length_cons, List.length_append,
    List.length_singleton]
  omega

/-- An element is longer than its content. -/
theorem length_lt_length_element (tag : UInt8) (content : Bytes) :
    content.length < (element tag content).length := by
  rw [element, List.cons_append, List.length_cons, List.length_append]
  omega

/-- An element is read back. -/
theorem read?_element_append {tag : UInt8} (htag : isTag tag) {content : Bytes}
    (hlength : content.length < maxLength) (rest : Bytes) :
    read? tag (element tag content ++ rest) = some (content, rest) := by
  have hany : readAny? (element tag content ++ rest) = some (tag, content, rest) := by
    have hfits : content.length ≤ (content ++ rest).length := by
      rw [List.length_append]
      exact Nat.le_add_right _ _
    rw [element, List.cons_append, List.cons_append, List.append_assoc, readAny?,
      readLength?_lengthBytes_append hlength]
    simp only
    rw [if_pos ⟨htag, hfits⟩, List.take_left' rfl, List.drop_left' rfl]
  rw [read?, hany]
  exact if_pos rfl

/-- A sequence is read back as a whole. -/
theorem wholeSequence?_sequence {elements : List Bytes}
    (hlength : elements.flatten.length < maxLength) :
    wholeSequence? (sequence elements) = some elements.flatten := by
  have hread := read?_element_append (by decide : isTag sequenceTag) hlength []
  rw [List.append_nil] at hread
  rw [wholeSequence?, sequence, hread]

/-! ### Natural numbers -/

theorem natural?_integerContent (n : Nat) : natural? (integerContent n) = some n := by
  have hvalue := Bytes.toNat_ofNatMinimal n
  unfold integerContent
  cases hbytes : Bytes.ofNatMinimal n with
  | nil =>
    rw [hbytes] at hvalue
    exact congrArg some hvalue
  | cons first rest =>
    have hfirst : first ≠ 0 := Bytes.head_ne_zero_of_ofNatMinimal_eq_cons hbytes
    rw [hbytes] at hvalue
    simp only
    split_ifs with hsmall
    · cases rest with
      | nil =>
        rw [natural?, if_pos hsmall, ← hvalue]
        simp [Bytes.toNat]
      | cons second rest =>
        rw [natural?, if_neg (UInt8.not_le.mpr hsmall), if_neg fun h => hfirst h.1, hvalue]
    · -- Without the zero in front the first byte would be taken for a sign.
      have hzero : Bytes.toNat (0 :: first :: rest) = n := by
        rw [Bytes.toNat_cons, hvalue]
        simp
      rw [natural?, if_neg (by decide), if_neg fun h => hsmall h.2, hzero]

theorem length_integerContent_le (n : Nat) : (integerContent n).length ≤ Bytes.width n + 1 := by
  have hlength := Bytes.length_ofNatMinimal n
  unfold integerContent
  cases hbytes : Bytes.ofNatMinimal n with
  | nil => exact Nat.le_add_left _ _
  | cons first rest =>
    rw [hbytes] at hlength
    simp only
    split_ifs
    · rw [hlength]
      exact Nat.le_add_right _ _
    · rw [List.length_cons, hlength]

theorem length_integer_le (n : Nat) : (integer n).length ≤ 2 * Bytes.width n + 4 := by
  have hcontent := length_integerContent_le n
  have helement := length_element_le integerTag (integerContent n)
  rw [integer]
  omega

/-- A natural number is read back. -/
theorem readInteger?_integer_append {n : Nat} (hlength : (integer n).length ≤ maxLength)
    (rest : Bytes) : readInteger? (integer n ++ rest) = some (n, rest) := by
  have hcontent : (integerContent n).length < maxLength :=
    (length_lt_length_element _ _).trans_le hlength
  rw [readInteger?, integer, read?_element_append (by decide) hcontent]
  simp only [natural?_integerContent, Option.map_some]

/-- A list of natural numbers is read back. -/
theorem naturals?_flatten {numbers : List Nat}
    (hlength : (numbers.map integer).flatten.length ≤ maxLength) :
    naturals? numbers.length (numbers.map integer).flatten = some numbers := by
  induction numbers with
  | nil => rfl
  | cons n numbers ih =>
    rw [List.map_cons, List.flatten_cons, List.length_append] at hlength
    rw [List.length_cons, List.map_cons, List.flatten_cons, naturals?,
      readInteger?_integer_append (by omega)]
    simp only [ih (by omega), Option.map_some]

/-! ### Only one encoding -/

section OnlyOne

variable {bytes content rest : Bytes} {tag : UInt8} {n : Nat}

theorem eq_of_readLength?_eq_some (h : readLength? bytes = some (n, rest)) :
    bytes = lengthBytes n ++ rest := by
  cases bytes with
  | nil => cases h
  | cons first tail =>
    rw [readLength?] at h
    dsimp only at h
    split_ifs at h with hshort hcount hwidth
    · obtain ⟨rfl, rfl⟩ : first.toNat = n ∧ tail = rest := by simpa using h
      have hless : first.toNat < 128 := UInt8.lt_iff_toNat_lt.mp hshort
      rw [lengthBytes, if_pos hless, UInt8.ofNat_toNat, List.singleton_append]
    · obtain ⟨hn, rfl⟩ : Bytes.toNat (tail.take (first.toNat - 0x80)) = n ∧
          tail.drop (first.toNat - 0x80) = rest := by simpa using h
      simp only [hn, not_or, not_lt, not_not] at hcount hwidth
      -- The first byte counts the bytes of the length, and these are the fewest that spell it.
      have hfirst : UInt8.ofNat (0x80 + Bytes.width n) = first := by
        have hmore : 0x80 ≤ first.toNat := UInt8.le_iff_toNat_le.mp (UInt8.not_lt.mp hshort)
        rw [hwidth.2, Nat.add_sub_cancel' hmore, UInt8.ofNat_toNat]
      have htake : Bytes.ofNatMinimal n = tail.take (first.toNat - 0x80) := by
        have hlength : (tail.take (first.toNat - 0x80)).length = Bytes.width n := by
          rw [List.length_take_of_le hcount.2.2, hwidth.2]
        rw [Bytes.ofNatMinimal, ← hlength, ← hn, Bytes.ofNat_toNat]
      rw [lengthBytes, if_neg (Nat.not_lt.mpr hwidth.1), hfirst, htake, List.cons_append,
        List.take_append_drop]

theorem eq_of_read?_eq_some (h : read? tag bytes = some (content, rest)) :
    bytes = element tag content ++ rest := by
  unfold read? at h
  split at h
  · next found inner behind hany =>
    split_ifs at h with htag
    obtain ⟨rfl, rfl⟩ : inner = content ∧ behind = rest := by simpa using h
    cases bytes with
    | nil => cases hany
    | cons mark tail =>
      rw [readAny?] at hany
      split at hany
      · cases hany
      · next n behind' hlength =>
        split_ifs at hany with hfits
        obtain ⟨rfl, rfl, rfl⟩ :
            mark = found ∧ behind'.take n = inner ∧ behind'.drop n = behind := by
          simpa using hany
        rw [element, List.length_take_of_le hfits.2, htag, List.cons_append, List.cons_append,
          List.append_assoc, List.take_append_drop, ← eq_of_readLength?_eq_some hlength]
  · cases h

theorem eq_of_wholeSequence?_eq_some (h : wholeSequence? bytes = some content) :
    bytes = element sequenceTag content := by
  unfold wholeSequence? at h
  split at h
  · next inner hread =>
    cases h
    rw [eq_of_read?_eq_some hread, List.append_nil]
  · cases h

theorem eq_integerContent_of_natural?_eq_some (h : natural? content = some n) :
    content = integerContent n := by
  unfold natural? at h
  split at h
  · cases h
  · next b =>
    split_ifs at h with hsmall
    obtain rfl : b.toNat = n := by simpa using h
    have hvalue : b.toNat = Bytes.toNat [b] := by simp [Bytes.toNat]
    rw [integerContent, hvalue, Bytes.ofNatMinimal_toNat]
    by_cases hb : b = 0
    · subst hb
      rfl
    · rw [List.dropWhile_cons_of_neg (by simpa using hb)]
      exact (if_pos hsmall).symm
  · next a b more =>
    split_ifs at h with hsign hzero
    obtain rfl : Bytes.toNat (a :: b :: more) = n := by simpa using h
    rw [integerContent, Bytes.ofNatMinimal_toNat]
    by_cases ha : a = 0
    · -- A zero in front is there because the next byte would be taken for a sign.
      have hb : ¬b < 0x80 := fun hb => hzero ⟨ha, hb⟩
      have hne : b ≠ 0 := by
        rintro rfl
        exact hb (by decide)
      subst ha
      rw [List.dropWhile_cons_of_pos (by simp), List.dropWhile_cons_of_neg (by simpa using hne)]
      exact (if_neg hb).symm
    · rw [List.dropWhile_cons_of_neg (by simpa using ha)]
      exact (if_pos (UInt8.not_le.mp hsign)).symm

theorem eq_of_readInteger?_eq_some (h : readInteger? bytes = some (n, rest)) :
    bytes = integer n ++ rest := by
  unfold readInteger? at h
  split at h
  · next content behind hread =>
    obtain ⟨m, hnatural, hpair⟩ := Option.map_eq_some_iff.mp h
    obtain ⟨rfl, rfl⟩ : m = n ∧ behind = rest := by simpa using hpair
    rw [integer, ← eq_integerContent_of_natural?_eq_some hnatural]
    exact eq_of_read?_eq_some hread
  · cases h

/-- **Numbers are only read from their encodings.** -/
theorem eq_of_naturals?_eq_some {count : Nat} {numbers : List Nat}
    (h : naturals? count bytes = some numbers) : bytes = (numbers.map integer).flatten := by
  induction count generalizing bytes numbers with
  | zero =>
    cases bytes with
    | nil =>
      cases h
      rfl
    | cons _ _ => cases h
  | succ count ih =>
    unfold naturals? at h
    split at h
    · next n behind hread =>
      obtain ⟨more, hmore, rfl⟩ := Option.map_eq_some_iff.mp h
      rw [List.map_cons, List.flatten_cons, ← ih hmore]
      exact eq_of_readInteger?_eq_some hread
    · cases h

end OnlyOne

end SelfCert.Der
