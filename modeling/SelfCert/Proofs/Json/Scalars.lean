import SelfCert.Json.Printer
import SelfCert.Json.Reader
import SelfCert.Proofs.Codec.Hex
import SelfCert.Proofs.Number.Digits

/-!
# Strings and integers in JSON

The escaped text of a string is read back up to its closing quote
(`Json.readString_flatMap_escape`), and the text of an integer is read back up to the first
character that does not continue a number (`Json.readNumber_integerText`).
-/

namespace SelfCert.Json

/-! ### Strings -/

/-- An escape of one letter stands for its character. -/
private theorem readString_letter {letter c : Char} (hletter : letter ≠ 'u')
    (hc : unescape? letter = some c) (rest : List Char) :
    readString ('\\' :: letter :: rest) =
      (readString rest).map fun found => (c :: found.1, found.2) := by
  rw [readString, hc]
  · cases readString rest <;> rfl
  -- The equation is for letters that do not begin a code.
  · rintro _ _ _ _ _ rfl
    exact absurd rfl hletter

/-- A character that needs no escape stands for itself. -/
private theorem readString_plain {c : Char} (hquote : c ≠ '"') (hbackslash : c ≠ '\\')
    (hcontrol : ¬c.toNat < 0x20) (rest : List Char) :
    readString (c :: rest) = (readString rest).map fun found => (c :: found.1, found.2) := by
  rw [readString, if_neg (by simp [hbackslash, hcontrol])]
  · cases readString rest <;> rfl
  · exact hquote
  · rintro _ _ _ _ _ rfl
    exact absurd rfl hbackslash
  · rintro _ _ rfl
    exact absurd rfl hbackslash

/-- The code of a control character stands for it. -/
private theorem readString_control {c : Char} (hcontrol : c.toNat < 0x20) (rest : List Char) :
    readString ('\\' :: 'u' :: '0' :: '0' :: Hex.digit (c.toNat / 16) ::
        Hex.digit (c.toNat % 16) :: rest) =
      (readString rest).map fun found => (c :: found.1, found.2) := by
  have hzero : Hex.digit? '0' = some 0 := rfl
  have hvalue : ((0 * 16 + 0) * 16 + c.toNat / 16) * 16 + c.toNat % 16 = c.toNat := by omega
  have hunit : unit? '0' '0' (Hex.digit (c.toNat / 16)) (Hex.digit (c.toNat % 16)) =
      some c.toNat := by
    rw [unit?, hzero, Hex.digit?_digit (by omega), Hex.digit?_digit (by omega)]
    simp only [hvalue]
  rw [readString, hunit]
  simp only
  rw [if_neg (by omega), if_neg (by omega), Char.ofNat_toNat]
  cases readString rest <;> rfl

/-- A character as it is written in a string is read back. -/
theorem readString_escape_append (c : Char) (rest : List Char) :
    readString (escape c ++ rest) =
      (readString rest).map fun found => (c :: found.1, found.2) := by
  unfold escape
  split_ifs with hquote hbackslash hb hf hn hr ht hcontrol
  · exact readString_letter (by decide) (by rw [hquote]; rfl) rest
  · exact readString_letter (by decide) (by rw [hbackslash]; rfl) rest
  · exact readString_letter (by decide) (by rw [hb]; rfl) rest
  · exact readString_letter (by decide) (by rw [hf]; rfl) rest
  · exact readString_letter (by decide) (by rw [hn]; rfl) rest
  · exact readString_letter (by decide) (by rw [hr]; rfl) rest
  · exact readString_letter (by decide) (by rw [ht]; rfl) rest
  · exact readString_control hcontrol rest
  · exact readString_plain hquote hbackslash hcontrol rest

/-- **A string is read back up to its closing quote.** -/
theorem readString_flatMap_escape (chars rest : List Char) :
    readString (chars.flatMap escape ++ '"' :: rest) = some (chars, rest) := by
  induction chars with
  | nil => rw [List.flatMap_nil, List.nil_append, readString]
  | cons c chars ih =>
    rw [List.flatMap_cons, List.append_assoc, readString_escape_append, ih]
    rfl

/-! ### Integers -/

/-- Each of the ten digits is read as its value. -/
theorem decimalDigit?_decimalDigit {d : Nat} (hd : d < 10) :
    Radix.decimalDigit? (Radix.decimalDigit d) = some d := by
  revert d
  decide

/-- Whether a character would go on with a number. -/
def continuesNumber (c : Char) : Bool :=
  (Radix.decimalDigit? c).isSome || c == '.' || c == 'e' || c == 'E'

/-- Whether a text does not go on with a number. -/
def EndsNumber (rest : List Char) : Prop :=
  ∀ c ∈ rest.head?, continuesNumber c = false

theorem endsNumber_nil : EndsNumber [] := by
  rintro _ ⟨⟩

theorem endsNumber_cons {c : Char} (h : continuesNumber c = false) (rest : List Char) :
    EndsNumber (c :: rest) := by
  rintro _ ⟨⟩
  exact h

/-- Digits are read up to the first character that is none. -/
theorem readDigits_append {ds : List Nat} (hds : ∀ d ∈ ds, d < 10) {rest : List Char}
    (hrest : EndsNumber rest) : readDigits (ds.map Radix.decimalDigit ++ rest) = (ds, rest) := by
  induction ds with
  | nil =>
    cases rest with
    | nil => rfl
    | cons c rest =>
      have hc := hrest c rfl
      simp only [continuesNumber, Bool.or_eq_false_iff, Option.isSome_eq_false_iff,
        Option.isNone_iff_eq_none] at hc
      rw [List.map_nil, List.nil_append, readDigits, hc.1.1.1]
  | cons d ds ih =>
    have hd : d < 10 := hds d List.mem_cons_self
    rw [List.map_cons, List.cons_append, readDigits, decimalDigit?_decimalDigit hd]
    simp only [ih fun e he => hds e (List.mem_cons_of_mem _ he)]

/-- The digits of a numeral, where zero has the digit zero. -/
def wholeDigits (n : Nat) : List Nat :=
  if n = 0 then [0] else Radix.digits 10 n

theorem decimal_eq_map (n : Nat) : Radix.decimal n = (wholeDigits n).map Radix.decimalDigit := by
  unfold Radix.decimal wholeDigits
  split_ifs <;> rfl

theorem value_wholeDigits (n : Nat) : Radix.value 10 (wholeDigits n) = n := by
  unfold wholeDigits
  split_ifs with hn
  · rw [hn]
    rfl
  · exact Radix.value_digits (by decide) n

theorem lt_of_mem_wholeDigits {n d : Nat} (h : d ∈ wholeDigits n) : d < 10 := by
  unfold wholeDigits at h
  split_ifs at h
  · rw [List.mem_singleton.mp h]
    decide
  · exact Radix.lt_of_mem_digits (by decide) h

/-- A numeral is read as its digits: it has one at least, and the first of several is not zero. -/
theorem readWhole_decimal (n : Nat) {rest : List Char} (hrest : EndsNumber rest) :
    readWhole (Radix.decimal n ++ rest) = some (wholeDigits n, rest) := by
  have hread : readDigits (Radix.decimal n ++ rest) = (wholeDigits n, rest) := by
    rw [decimal_eq_map]
    exact readDigits_append (fun _ => lt_of_mem_wholeDigits) hrest
  rw [readWhole, hread]
  by_cases hn : n = 0
  · subst hn
    rfl
  · -- The reader refuses a zero in front of other digits, and there is none.
    have hdigits : wholeDigits n = Radix.digits 10 n := if_neg hn
    have hhead := Radix.head?_digits_ne_zero (by decide : 1 < 10) n
    have hne : Radix.digits 10 n ≠ [] := (Radix.digits_eq_nil_iff (by decide)).not.mpr hn
    rw [hdigits]
    cases hds : Radix.digits 10 n with
    | nil => exact absurd hds hne
    | cons d ds =>
      rw [hds] at hhead
      have hd : d ≠ 0 := fun hd => hhead (by rw [hd]; rfl)
      cases d with
      | zero => exact absurd rfl hd
      | succ d => rfl

theorem readFraction_of_endsNumber {rest : List Char} (hrest : EndsNumber rest) :
    readFraction rest = some (none, rest) := by
  rw [readFraction]
  rintro rest rfl
  exact absurd (hrest '.' rfl) (by decide)

theorem readExponent_of_endsNumber {rest : List Char} (hrest : EndsNumber rest) :
    readExponent rest = some (none, rest) := by
  rw [readExponent]
  · rintro rest rfl
    exact absurd (hrest 'e' rfl) (by decide)
  · rintro rest rfl
    exact absurd (hrest 'E' rfl) (by decide)

/-- The sign and the digits of an integer stand for it. -/
theorem number?_integer (n : Integer) :
    number? (n.value < 0) (wholeDigits n.value.natAbs) none none = some (.integer n) := by
  have hsigned : (if decide (n.value < 0) then -(n.value.natAbs : Int) else n.value.natAbs) =
      n.value := by
    simp only [decide_eq_true_eq]
    split_ifs <;> omega
  have hzero : ¬(decide (n.value < 0) ∧ n.value.natAbs = 0) := by
    rw [decide_eq_true_eq]
    omega
  have hfits : Integer.ofInt? n.value = some n := dif_pos ⟨n.lower, n.upper⟩
  simp only [number?, value_wholeDigits]
  rw [if_neg hzero, hsigned, hfits]

/-- A numeral begins with a digit. -/
theorem exists_decimal_eq_cons (n : Nat) :
    ∃ c text, Radix.decimal n = c :: text ∧ (Radix.decimalDigit? c).isSome := by
  have hne : wholeDigits n ≠ [] := by
    unfold wholeDigits
    split_ifs with hn
    · exact List.cons_ne_nil _ _
    · exact (Radix.digits_eq_nil_iff (by decide)).not.mpr hn
  obtain ⟨d, ds, hds⟩ := List.exists_cons_of_ne_nil hne
  have hd : d < 10 := lt_of_mem_wholeDigits (hds ▸ List.mem_cons_self)
  refine ⟨Radix.decimalDigit d, ds.map Radix.decimalDigit, ?_, ?_⟩
  · rw [decimal_eq_map, hds, List.map_cons]
  · rw [decimalDigit?_decimalDigit hd]
    rfl

/-- A numeral has no sign in front. -/
private theorem decimal_append_ne (n : Nat) (rest text : List Char) :
    Radix.decimal n ++ rest ≠ '-' :: text := by
  obtain ⟨c, more, hn, hc⟩ := exists_decimal_eq_cons n
  rw [hn, List.cons_append]
  intro h
  rw [(List.cons.inj h).1] at hc
  exact absurd hc (by decide)

/-- **An integer is read back up to the end of its text.** -/
theorem readNumber_integerText (n : Integer) {rest : List Char} (hrest : EndsNumber rest) :
    readNumber (integerText n.value ++ rest) = some (.integer n, rest) := by
  have hnumber := number?_integer n
  have hread := readWhole_decimal n.value.natAbs hrest
  have hfraction := readFraction_of_endsNumber hrest
  have hexponent := readExponent_of_endsNumber hrest
  unfold integerText readNumber
  split_ifs with hn
  · rw [decide_eq_true hn] at hnumber
    simp only [List.cons_append, hread, hfraction, hexponent, hnumber, Option.map_some]
  · -- The reader looks for a sign first, which a digit is not.
    rw [decide_eq_false hn] at hnumber
    split
    · next negative text hsign =>
      split at hsign
      · next htext => exact absurd htext (decimal_append_ne _ _ _)
      · cases hsign
        simp only [hread, hfraction, hexponent, hnumber, Option.map_some]

end SelfCert.Json
