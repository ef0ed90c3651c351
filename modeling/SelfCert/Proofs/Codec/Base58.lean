import SelfCert.Codec.Base58
import SelfCert.Proofs.Number.Digits

/-!
# Base58 text and its bytes

Reading Base58 text undoes writing it (`Base58.ofDigits?_digits`), and writing undoes reading
(`Base58.encode_of_decode?_eq_some`). How long the text is depends on
how many zeros the bytes begin with: each of them takes a digit of its own, and the other bytes take
as many digits as their number has in base 58. For twenty-five bytes, at most twenty-one of them
leading zeros, that makes twenty-six to thirty-five digits (`Base58.length_digits_bounds`).
-/

namespace SelfCert.Base58

/-! ### Single digits -/

/-- Each digit reads back as its value. -/
theorem digit?_digit {n : Nat} (hn : n < 58) : digit? (digit n) = some n := by
  revert n
  decide

theorem mem_alphabet_of_digit?_eq_some {c : Char} {n : Nat} (h : digit? c = some n) :
    c ∈ alphabet := by
  by_contra hc
  rw [digit?, List.idxOf?_eq_none_iff.mpr hc] at h
  cases h

theorem digit_mem_alphabet {n : Nat} (hn : n < 58) : digit n ∈ alphabet :=
  mem_alphabet_of_digit?_eq_some (digit?_digit hn)

/-- The digits of values read back as these values. -/
private theorem mapM_digit?_map_digit {values : List Nat} (h : ∀ n ∈ values, n < 58) :
    (values.map digit).mapM digit? = some values := by
  induction values with
  | nil => rfl
  | cons n values ih =>
    have hn : digit? (digit n) = some n := digit?_digit (h n (by simp))
    have hrest := ih fun m hm => h m (by simp [hm])
    simp [List.mapM_cons, hn, hrest]

/-- Text that can be read consists of digits. -/
private theorem mem_alphabet_of_mapM_eq_some {text : List Char} {values : List Nat}
    (h : text.mapM digit? = some values) {c : Char} (hc : c ∈ text) : c ∈ alphabet := by
  induction text generalizing values with
  | nil => simp at hc
  | cons d text ih =>
    simp only [List.mapM_cons, Option.bind_eq_bind, Option.bind_eq_some_iff] at h
    obtain ⟨n, hd, rest, hrest, -⟩ := h
    rcases List.mem_cons.mp hc with rfl | hc
    · exact mem_alphabet_of_digit?_eq_some hd
    · exact ih hrest hc

theorem mem_alphabet_of_ofDigits?_eq_some {text : List Char} {bytes : Bytes}
    (h : ofDigits? text = some bytes) {c : Char} (hc : c ∈ text) : c ∈ alphabet := by
  obtain ⟨values, hvalues, -⟩ := Option.map_eq_some_iff.mp h
  exact mem_alphabet_of_mapM_eq_some hvalues hc

/-! ### Whole texts -/

/-- The values of the digits of a byte string: one zero for each leading zero, then the digits of
the number. -/
def values (bytes : Bytes) : List Nat :=
  List.replicate (bytes.takeWhile (· == 0)).length 0 ++ Radix.digits 58 bytes.toNat

theorem digits_eq_map (bytes : Bytes) : digits bytes = (values bytes).map digit := by
  have hzero : digit 0 = '1' := by decide
  rw [digits, values, List.map_append, List.map_replicate, hzero]

theorem lt_of_mem_values {bytes : Bytes} {n : Nat} (h : n ∈ values bytes) : n < 58 := by
  rcases List.mem_append.mp h with h | h
  · rw [List.eq_of_mem_replicate h]
    decide
  · exact Radix.lt_of_mem_digits (by decide) h

theorem mem_alphabet_of_mem_digits {bytes : Bytes} {c : Char} (h : c ∈ digits bytes) :
    c ∈ alphabet := by
  rw [digits_eq_map, List.mem_map] at h
  obtain ⟨n, hn, rfl⟩ := h
  exact digit_mem_alphabet (lt_of_mem_values hn)

/-- The zeros in front of the values are those of the bytes. -/
private theorem takeWhile_values (bytes : Bytes) :
    (values bytes).takeWhile (· == 0) =
      List.replicate (bytes.takeWhile (· == 0)).length 0 := by
  have hdigits : (Radix.digits 58 bytes.toNat).takeWhile (· == 0) = [] := by
    have hne := Radix.head?_digits_ne_zero (by decide : 1 < 58) bytes.toNat
    cases hd : Radix.digits 58 bytes.toNat with
    | nil => rfl
    | cons d ds =>
      rw [hd] at hne
      exact List.takeWhile_cons_of_neg (by simpa using hne)
  rw [values, List.takeWhile_append_of_pos, hdigits, List.append_nil]
  simp

/-- Reading undoes writing. -/
@[simp] theorem ofDigits?_digits (bytes : Bytes) : ofDigits? (digits bytes) = some bytes := by
  rw [ofDigits?, digits_eq_map, mapM_digit?_map_digit fun _ => lt_of_mem_values, Option.map_some,
    takeWhile_values, List.length_replicate, values, Radix.value_replicate_zero_append,
    Radix.value_digits (by decide), Bytes.ofNatMinimal_toNat,
    Bytes.replicate_zero_append_dropWhile]

@[simp] theorem decode?_encode (bytes : Bytes) : decode? (encode bytes) = some bytes := by
  rw [decode?, encode, String.toList_ofList, ofDigits?_digits]

/-! ### Only one text -/

/-- A character that can be read is the digit for its value. -/
private theorem eq_digit_of_digit?_eq_some {c : Char} {n : Nat} (h : digit? c = some n) :
    n < 58 ∧ c = digit n := by
  obtain ⟨hn, hc, -⟩ := List.idxOf?_eq_some_iff.mp h
  refine ⟨hn, ?_⟩
  rw [digit, List.getD_eq_getElem?_getD, List.getElem?_eq_getElem hn, hc, Option.getD_some]

/-- Text that can be read consists of the digits for its values. -/
private theorem eq_map_digit_of_mapM_eq_some {text : List Char} {values : List Nat}
    (h : text.mapM digit? = some values) :
    text = values.map digit ∧ ∀ n ∈ values, n < 58 := by
  induction text generalizing values with
  | nil =>
    obtain rfl : values = [] := by simpa using h.symm
    exact ⟨rfl, nofun⟩
  | cons c text ih =>
    simp only [List.mapM_cons, Option.bind_eq_bind, Option.bind_eq_some_iff, Option.pure_def,
      Option.some.injEq] at h
    obtain ⟨n, hn, rest, hrest, rfl⟩ := h
    obtain ⟨hlt, rfl⟩ := eq_digit_of_digit?_eq_some hn
    obtain ⟨rfl, hall⟩ := ih hrest
    exact ⟨rfl, List.forall_mem_cons.mpr ⟨hlt, hall⟩⟩

/-- Values are the values of the bytes they spell: zeros in front stand for zero bytes, and the
others for a number without zeros in front. -/
private theorem values_spelled {vs : List Nat} (h : ∀ n ∈ vs, n < 58) :
    values (List.replicate (vs.takeWhile (· == 0)).length 0 ++
      Bytes.ofNatMinimal (Radix.value 58 vs)) = vs := by
  let zeros := vs.takeWhile (· == 0)
  let rest := vs.dropWhile (· == 0)
  have hzeros : zeros = List.replicate zeros.length 0 :=
    List.eq_replicate_of_mem fun n hn => by simpa using List.mem_takeWhile_imp hn
  have hsplit : zeros ++ rest = vs := List.takeWhile_append_dropWhile
  have hhead : rest.head? ≠ some 0 := fun hzero => by
    have hne := List.head?_dropWhile_not (· == 0) vs
    rw [show (vs.dropWhile (· == 0)).head? = some 0 from hzero] at hne
    simp at hne
  have hvalue : Radix.value 58 vs = Radix.value 58 rest := by
    rw [← hsplit, hzeros, Radix.value_replicate_zero_append]
  have hdigits : Radix.digits 58 (Radix.value 58 vs) = rest := by
    rw [hvalue]
    exact Radix.digits_value (by decide)
      (fun n hn => h n (hsplit ▸ List.mem_append_right _ hn)) hhead
  have hminimal : (Bytes.ofNatMinimal (Radix.value 58 vs)).takeWhile (· == 0) = [] := by
    cases hbytes : Bytes.ofNatMinimal (Radix.value 58 vs) with
    | nil => rfl
    | cons b more =>
      have hb := Bytes.head_ne_zero_of_ofNatMinimal_eq_cons hbytes
      exact List.takeWhile_cons_of_neg (by simpa using hb)
  have hfront : (List.replicate zeros.length (0 : UInt8) ++
      Bytes.ofNatMinimal (Radix.value 58 vs)).takeWhile (· == 0) =
        List.replicate zeros.length 0 := by
    rw [List.takeWhile_append_of_pos (by simp), hminimal, List.append_nil]
  have hnumber : Bytes.toNat (List.replicate zeros.length 0 ++
      Bytes.ofNatMinimal (Radix.value 58 vs)) = Radix.value 58 vs := by
    rw [← Bytes.toNat_dropWhile_zero, List.dropWhile_append_of_pos (by simp),
      Bytes.toNat_dropWhile_zero, Bytes.toNat_ofNatMinimal]
  rw [values, hfront, hnumber, hdigits, List.length_replicate, ← hzeros, hsplit]

/-- **Text that can be read is the text of what it spells**, so no byte string has two texts. -/
theorem encode_of_decode?_eq_some {text : String} {bytes : Bytes}
    (h : decode? text = some bytes) : encode bytes = text := by
  obtain ⟨vs, hvs, rfl⟩ := Option.map_eq_some_iff.mp h
  obtain ⟨htext, hlt⟩ := eq_map_digit_of_mapM_eq_some hvs
  rw [encode, digits_eq_map, values_spelled hlt, ← htext, String.ofList_toList]

theorem decode?_eq_some_iff {text : String} {bytes : Bytes} :
    decode? text = some bytes ↔ encode bytes = text := by
  refine ⟨encode_of_decode?_eq_some, ?_⟩
  rintro rfl
  exact decode?_encode bytes

/-! ### Lengths -/

/-- Beside a leading digit, `k` bytes take more than `k` digits once there are three of them. -/
private theorem pow_digits_le_pow_bytes {k : Nat} (hlow : 3 ≤ k) (hhigh : k ≤ 24) :
    58 ^ (k + 1) ≤ 256 ^ k := by
  interval_cases k <;> norm_num

/-- Up to twenty-five bytes take at most ten digits more than there are bytes. -/
private theorem pow_bytes_le_pow_digits {k : Nat} (hk : k ≤ 25) : 256 ^ k ≤ 58 ^ (k + 10) := by
  interval_cases k <;> norm_num

theorem length_digits (bytes : Bytes) :
    (digits bytes).length =
      (bytes.takeWhile (· == 0)).length + (Radix.digits 58 bytes.toNat).length := by
  simp [digits]

/-- Twenty-five bytes of which at most twenty-one are leading zeros have between twenty-six and
thirty-five digits. -/
theorem length_digits_bounds {bytes : Bytes} (hlength : bytes.length = 25)
    (hzeros : (bytes.takeWhile (· == 0)).length ≤ 21) :
    26 ≤ (digits bytes).length ∧ (digits bytes).length ≤ 35 := by
  set zeros := (bytes.takeWhile (· == 0)).length with hzerosDef
  have hsplit : zeros + (bytes.dropWhile (· == 0)).length = 25 := by
    rw [← hlength, hzerosDef, ← List.length_append, List.takeWhile_append_dropWhile]
  obtain ⟨b, rest, hrest⟩ : ∃ b rest, bytes.dropWhile (· == 0) = b :: rest :=
    List.exists_cons_of_length_pos (by omega)
  have hb : b ≠ 0 := Bytes.head_ne_zero_of_dropWhile_eq_cons hrest
  have hnat : bytes.toNat = Bytes.toNat (b :: rest) := by
    rw [← hrest, Bytes.toNat_dropWhile_zero]
  have hrestLength : rest.length = 24 - zeros := by
    rw [hrest, List.length_cons] at hsplit
    omega
  have hlow : 24 - zeros + 1 < (Radix.digits 58 bytes.toNat).length := by
    rw [Radix.lt_length_digits_iff (by decide), hnat]
    calc 58 ^ (24 - zeros + 1) ≤ 256 ^ (24 - zeros) :=
          pow_digits_le_pow_bytes (by omega) (by omega)
      _ ≤ Bytes.toNat (b :: rest) := hrestLength ▸ Bytes.le_toNat_cons hb rest
  have hhigh : (Radix.digits 58 bytes.toNat).length ≤ 24 - zeros + 1 + 10 := by
    rw [Radix.length_digits_le_iff (by decide), hnat]
    calc Bytes.toNat (b :: rest) < 256 ^ (rest.length + 1) := Bytes.toNat_lt (b :: rest)
      _ = 256 ^ (24 - zeros + 1) := by rw [hrestLength]
      _ ≤ 58 ^ (24 - zeros + 1 + 10) := pow_bytes_le_pow_digits (by omega)
  rw [length_digits, ← hzerosDef]
  omega

end SelfCert.Base58
