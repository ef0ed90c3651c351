import SelfCert.Proofs.AddressText

/-!
# Spellings of addresses

An address has one text, and other texts are read as it only up to the case of letters: those of a
word for a broadcast, and those of digits of a point (`Address.eq_iff_isRespelling`). Of digits the
case is a checksum. They are accepted with it, or if their letters are all in one case
(`Address.IsHexText.exists_parse_iff`), and the address has the checksum in either case. Base58 text
stands for itself: bytes have one text only, and a payload has one checksum
(`Address.eq_of_payload?_eq`). So the address of a key is determined by the network and the digest
of the key (`Address.text_ofKey_eq_iff`).
-/

namespace SelfCert.Address

variable {text s t : String} {a b : Address}

/-! ### Checksums in the case of letters -/

/-- The half byte of a digest at a place, high half first. -/
def halfAt (digest : Bytes) (i : Nat) : Nat :=
  let byte := (digest.getD (i / 2) 0).toNat
  if i % 2 = 0 then byte / 16 else byte % 16

/-- Whether the case of digits is their checksum: a letter is in upper case exactly if the digest of
the digits in lower case has a half byte of eight and above at its place. -/
def IsChecksummed (digits : List Char) : Prop :=
  ∀ (i : Nat) (c : Char), digits[i]? = some c → c.isAlpha →
    (c.isUpper ↔
      8 ≤ halfAt (Keccak256.digest (Utf8.encode (String.ofList (digits.map Char.toLower)))) i)

theorem getElem?_halves {bytes : Bytes} {i : Nat} (h : i < 2 * bytes.length) :
    (halves bytes)[i]? = some (halfAt bytes i) := by
  induction bytes generalizing i with
  | nil => simp at h
  | cons b bytes ih =>
    rw [halves, List.flatMap_cons, ← halves]
    rcases i with _ | _ | i
    · rfl
    · rfl
    · have hi : i < 2 * bytes.length := by
        rw [List.length_cons] at h
        omega
      have hhalf : halfAt (b :: bytes) (i + 2) = halfAt bytes i := by
        simp [halfAt]
      rw [hhalf]
      exact ih hi

private theorem isAlpha_iff {c : Char} : c.isAlpha ↔ c.isUpper ∨ c.isLower :=
  Bool.or_eq_true_iff

/-- No letter is in both cases. -/
private theorem not_isLower_of_isUpper {c : Char} (h : c.isUpper) : ¬c.isLower := by
  intro hlower
  have hupper : c.val ≤ 'Z'.val := (of_decide_eq_true h).2
  have hlow : 'a'.val ≤ c.val := of_decide_eq_true (Bool.and_eq_true_iff.mp hlower).1
  have hcross : 'a'.val ≤ 'Z'.val := UInt32.le_trans hlow hupper
  exact absurd hcross (by decide)

private theorem imp_isLower_iff {c : Char} : (c.isAlpha → c.isLower) ↔ ¬c.isUpper := by
  rw [isAlpha_iff]
  constructor
  · intro h hupper
    exact not_isLower_of_isUpper hupper (h (.inl hupper))
  · intro h halpha
    exact halpha.resolve_left h

private theorem imp_isUpper_iff {c : Char} : (c.isAlpha → c.isUpper) ↔ ¬c.isLower := by
  rw [isAlpha_iff]
  constructor
  · intro h hlower
    exact not_isLower_of_isUpper (h (.inr hlower)) hlower
  · intro h halpha
    exact halpha.resolve_right h

/-- A digit is left as it is exactly if its case agrees with the half byte. -/
private theorem setCase_eq_iff {c : Char} (h : (Hex.digit? c).isSome) (half : Nat) :
    (if 8 ≤ half then c.toLower.toUpper else c.toLower) = c ↔
      (c.isAlpha → (c.isUpper ↔ 8 ≤ half)) := by
  split_ifs with hhalf
  · simp only [hhalf, iff_true, Hex.toUpper_toLower_eq_iff h]
  · simp only [hhalf, iff_false, Hex.toLower_eq_iff h]
    exact ⟨fun hupper _ => hupper, fun himp hupper => himp (isAlpha_iff.mpr (.inl hupper)) hupper⟩

/-- The same for all digits, and for the half bytes of any digest that is long enough. -/
private theorem zipWith_setCase_eq_iff {digits : List Char} {digest : Bytes}
    (hdigit : ∀ c ∈ digits, (Hex.digit? c).isSome) (hlength : digits.length ≤ 2 * digest.length) :
    List.zipWith (fun c half => if 8 ≤ half then c.toUpper else c) (digits.map Char.toLower)
        (halves digest) = digits ↔
      ∀ i c, digits[i]? = some c → c.isAlpha → (c.isUpper ↔ 8 ≤ halfAt digest i) := by
  rw [List.ext_getElem?_iff]
  refine forall_congr' fun i => ?_
  cases hc : digits[i]? with
  | none => simp [List.getElem?_zipWith, hc]
  | some c =>
    obtain ⟨hi, rfl⟩ := List.getElem?_eq_some_iff.mp hc
    have hhalf : (halves digest)[i]? = some (halfAt digest i) := getElem?_halves (by omega)
    simp only [List.getElem?_zipWith, List.getElem?_map, hc, Option.map_some, hhalf,
      Option.some.injEq, forall_eq']
    exact setCase_eq_iff (hdigit _ (List.getElem_mem hi)) _

/-- **Setting the case leaves exactly those digits as they are whose case is their checksum.** -/
theorem withCase_toLower_eq_iff {digits : List Char} (hdigit : ∀ c ∈ digits, (Hex.digit? c).isSome)
    (hlength : digits.length ≤ 64) :
    withCase (digits.map Char.toLower) = digits ↔ IsChecksummed digits :=
  zipWith_setCase_eq_iff hdigit (by rw [Keccak256.length_digest]; exact hlength)

namespace IsHexText

variable {digits : List Char}

/-- **Which digits are accepted**: those with letters in one case only, and those whose case is
their checksum. -/
theorem exists_parse_iff (h : IsHexText text digits) :
    (∃ a, parse text = .ok a) ↔
      (∀ c ∈ digits, c.isAlpha → c.isLower) ∨ (∀ c ∈ digits, c.isAlpha → c.isUpper) ∨
        IsChecksummed digits := by
  have hlower : (∀ c ∈ digits, c.isAlpha → c.isLower) ↔ ¬digits.any Char.isUpper := by
    simp [imp_isLower_iff]
  have hupper : (∀ c ∈ digits, c.isAlpha → c.isUpper) ↔ ¬digits.any Char.isLower := by
    simp [imp_isUpper_iff]
  have hlength : digits.length ≤ 64 := by
    rw [h.length_eq]
    decide
  rw [hlower, hupper, ← withCase_toLower_eq_iff h.isDigit hlength, h.parse_eq]
  split_ifs with hmixed
  · obtain ⟨hlow, hup, hne⟩ := hmixed
    simp [hlow, hup, hne]
  · simp only [Except.ok.injEq, exists_eq', true_iff]
    tauto

/-- **Accepted digits get their checksum**, and the network of the address is that of users. -/
theorem checksum_of_parse_eq_ok (h : IsHexText text digits) (ha : parse text = .ok a) :
    a.network = .user ∧ ∃ checked, a.text = hexMark ++ String.ofList checked ∧
      checked.map Char.toLower = digits.map Char.toLower ∧ IsChecksummed checked := by
  rw [h.parse_eq] at ha
  split_ifs at ha
  cases ha
  have hshort : (digits.map Char.toLower).length ≤ 64 := by
    rw [h.length_lower]
    decide
  have hback : (withCase (digits.map Char.toLower)).map Char.toLower = digits.map Char.toLower :=
    map_toLower_withCase h.isWritten hshort
  have hchecked := isHexText_ofDigits h.isWritten h.length_lower
  refine ⟨rfl, _, rfl, hback, ?_⟩
  rw [← withCase_toLower_eq_iff hchecked.isDigit (by rw [hchecked.length_eq]; decide), hback]

end IsHexText

example :
    (parse "0x5AAEB6053F3E94C9B9A09F33669435E7EF1BEAED").map (·.text) =
      .ok "0x5aAeb6053F3E94C9b9A09f33669435E7Ef1BeAed" := by
  decide +kernel

/-! ### Texts that are read as one address -/

/-- Whether two texts spell one address, if they spell any: they are the same text, or the same word
for a broadcast up to case, or the same digits behind the mark up to case. -/
def IsRespelling (s t : String) : Prop :=
  s = t ∨
    (∃ word ∈ [anywhere.text, everywhere.text],
      lowerCase s = lowerCase word ∧ lowerCase t = lowerCase word) ∨
    ((s.utf8ByteSize = hexTextLength ∧ hexMark.toList <+: s.toList) ∧
      (t.utf8ByteSize = hexTextLength ∧ hexMark.toList <+: t.toList) ∧
      lowerCase s = lowerCase t)

theorem lowerCase_of_form_eq_broadcast (h : parse text = .ok a) (hform : a.form = .broadcast) :
    a.text ∈ [anywhere.text, everywhere.text] ∧ lowerCase text = lowerCase a.text := by
  obtain ⟨rfl, hword⟩ | ⟨rfl, hword⟩ | ⟨digits, -, rfl⟩ | ⟨-, -, hbase58⟩ := parse_cases h
  · exact ⟨by decide, hword⟩
  · exact ⟨by decide, hword⟩
  · cases hform
  · rw [(eq_of_parseBase58_eq_ok hbase58).2.1] at hform
    cases hform

theorem exists_isHexText_of_form_eq_ethereum (h : parse text = .ok a)
    (hform : a.form = .ethereum) :
    ∃ digits, IsHexText text digits ∧ a = ofDigits (digits.map Char.toLower) := by
  obtain ⟨rfl, -⟩ | ⟨rfl, -⟩ | hhex | ⟨-, -, hbase58⟩ := parse_cases h
  · cases hform
  · cases hform
  · exact hhex
  · rw [(eq_of_parseBase58_eq_ok hbase58).2.1] at hform
    cases hform

theorem parseBase58_of_form_eq_base58Check (h : parse text = .ok a)
    (hform : a.form = .base58Check) : parseBase58 text = .ok a := by
  obtain ⟨rfl, -⟩ | ⟨rfl, -⟩ | ⟨digits, -, rfl⟩ | ⟨-, -, hbase58⟩ := parse_cases h
  · cases hform
  · cases hform
  · cases hform
  · exact hbase58

/-- A word for a broadcast is read as it in any case. -/
theorem parse_of_lowerCase_eq {word : String} (hword : word ∈ [anywhere.text, everywhere.text])
    (h : lowerCase text = lowerCase word) : parse text = parse word := by
  simp only [List.mem_cons, List.not_mem_nil, or_false] at hword
  rcases hword with rfl | rfl
  · rw [parse, if_pos h]
    rfl
  · have hne : lowerCase everywhere.text ≠ lowerCase anywhere.text := by decide
    rw [parse, h, if_neg hne, if_pos rfl]
    rfl

/-- What stands behind the mark in a text of the right size is read as digits. -/
theorem exists_isHexText_of_marked (h : parse text = .ok a)
    (hsize : text.utf8ByteSize = hexTextLength) (hmark : hexMark.toList <+: text.toList) :
    ∃ digits, IsHexText text digits ∧ a = ofDigits (digits.map Char.toLower) := by
  have hhead : (lowerCase text).head? = some '0' := by
    obtain ⟨rest, hrest⟩ := hmark
    rw [lowerCase, ← hrest]
    rfl
  obtain ⟨-, hword⟩ | ⟨-, hword⟩ | hhex | ⟨-, hmax, -⟩ := parse_cases h
  · rw [hword] at hhead
    exact absurd hhead (by decide)
  · rw [hword] at hhead
    exact absurd hhead (by decide)
  · exact hhex
  · rw [hsize] at hmax
    exact absurd hmax (by decide)

theorem IsHexText.lowerCase_eq {digits : List Char} (h : IsHexText text digits) :
    lowerCase text = lowerCase hexMark ++ digits.map Char.toLower := by
  rw [lowerCase, h.toList_eq, List.map_append, lowerCase]

theorem IsHexText.isMarked {digits : List Char} (h : IsHexText text digits) :
    text.utf8ByteSize = hexTextLength ∧ hexMark.toList <+: text.toList := by
  refine ⟨h.utf8ByteSize_eq, ?_⟩
  rw [h.toList_eq]
  exact List.prefix_append _ _

/-- Texts that are read as one address spell it in the same way, up to the case of letters. -/
theorem isRespelling_of_parse_eq_ok (hs : parse s = .ok a) (ht : parse t = .ok a) :
    IsRespelling s t := by
  cases hform : a.form with
  | base58Check =>
    have hs' := parseBase58_of_form_eq_base58Check hs hform
    have ht' := parseBase58_of_form_eq_base58Check ht hform
    exact .inl ((eq_of_parseBase58_eq_ok hs').1.symm.trans (eq_of_parseBase58_eq_ok ht').1)
  | ethereum =>
    obtain ⟨digits, hhex, rfl⟩ := exists_isHexText_of_form_eq_ethereum hs hform
    obtain ⟨digits', hhex', heq⟩ := exists_isHexText_of_form_eq_ethereum ht hform
    -- The digits in lower case are what the texts of both addresses are in lower case.
    have htext := congrArg (fun a : Address => a.text.toList.map Char.toLower) heq
    simp only [text_ofDigits_toList, List.map_append, List.append_cancel_left_eq,
      map_toLower_withCase hhex.isWritten (hhex.length_lower.trans_le (by decide)),
      map_toLower_withCase hhex'.isWritten (hhex'.length_lower.trans_le (by decide))] at htext
    refine .inr (.inr ⟨hhex.isMarked, hhex'.isMarked, ?_⟩)
    rw [hhex.lowerCase_eq, hhex'.lowerCase_eq, htext]
  | broadcast =>
    obtain ⟨hword, hs'⟩ := lowerCase_of_form_eq_broadcast hs hform
    obtain ⟨-, ht'⟩ := lowerCase_of_form_eq_broadcast ht hform
    exact .inr (.inl ⟨a.text, hword, hs', ht'⟩)

/-- Spellings of one address are read as one address, if at all. -/
theorem eq_of_isRespelling (hs : parse s = .ok a) (ht : parse t = .ok b)
    (h : IsRespelling s t) : a = b := by
  obtain rfl | ⟨word, hword, hs', ht'⟩ | ⟨⟨hsize, hmark⟩, ⟨hsize', hmark'⟩, hlower⟩ := h
  · exact Except.ok.inj (hs.symm.trans ht)
  · rw [parse_of_lowerCase_eq hword hs'] at hs
    rw [parse_of_lowerCase_eq hword ht'] at ht
    exact Except.ok.inj (hs.symm.trans ht)
  · obtain ⟨digits, hhex, rfl⟩ := exists_isHexText_of_marked hs hsize hmark
    obtain ⟨digits', hhex', rfl⟩ := exists_isHexText_of_marked ht hsize' hmark'
    rw [hhex.lowerCase_eq, hhex'.lowerCase_eq, List.append_cancel_left_eq] at hlower
    rw [hlower]

/-- **Two accepted texts are read as one address exactly if one is a respelling of the other.** -/
theorem eq_iff_isRespelling (hs : parse s = .ok a) (ht : parse t = .ok b) :
    a = b ↔ IsRespelling s t :=
  ⟨fun h => isRespelling_of_parse_eq_ok hs (h ▸ ht), eq_of_isRespelling hs ht⟩

/-! ### Base58 text -/

/-- The payload of Base58 text: network byte and digest, without the checksum. -/
def payload? (text : String) : Option Bytes :=
  (Base58.decode? text).map (·.take (checkedLength - checksumLength))

/-- Accepted Base58 text is the text of its payload, whose checksum follows. -/
theorem exists_payload_of_parseBase58_eq_ok (h : parseBase58 text = .ok a) :
    ∃ payload : Bytes, payload? text = some payload ∧
      payload.length = checkedLength - checksumLength ∧
      text = Base58.encode (payload ++ checksum payload) := by
  unfold parseBase58 at h
  split at h
  · cases h
  · next bytes hbytes =>
    simp only at h
    split_ifs at h with hlength hsum
    refine ⟨bytes.take (checkedLength - checksumLength), ?_, ?_, ?_⟩
    · rw [payload?, hbytes, Option.map_some]
    · rw [List.length_take, hlength]
      decide
    · rw [hsum, List.take_append_drop, Base58.encode_of_decode?_eq_some hbytes]

/-- **No payload has two accepted texts.** -/
theorem eq_of_payload?_eq (hs : parse s = .ok a) (ht : parse t = .ok b)
    (hform : a.form = .base58Check) (hform' : b.form = .base58Check)
    (h : payload? s = payload? t) : s = t := by
  obtain ⟨payload, hpayload, -, hs'⟩ :=
    exists_payload_of_parseBase58_eq_ok (parseBase58_of_form_eq_base58Check hs hform)
  obtain ⟨payload', hpayload', -, ht'⟩ :=
    exists_payload_of_parseBase58_eq_ok (parseBase58_of_form_eq_base58Check ht hform')
  obtain rfl : payload = payload' :=
    Option.some_injective _ (hpayload.symm.trans (h.trans hpayload'))
  rw [hs', ht']

/-- **The address of a key tells the network and the digest of the key**, and nothing else. -/
theorem text_ofKey_eq_iff {data data' : Bytes} {network network' : Entity} :
    (ofKey data network).text = (ofKey data' network').text ↔
      network = network' ∧ Digest.hash160 data = Digest.hash160 data' := by
  constructor
  · intro h
    have hbytes := congrArg Base58.decode? h
    simp only [ofKey, Base58.decode?_encode, Option.some.injEq] at hbytes
    have hpayload := List.append_inj_left hbytes (by simp [Digest.length_hash160])
    obtain ⟨hcode, hdigest⟩ := List.cons.inj hpayload
    refine ⟨?_, hdigest⟩
    cases network
    cases network'
    exact congrArg Entity.mk hcode
  · rintro ⟨rfl, hdigest⟩
    rw [ofKey, ofKey, hdigest]

/-! ### Main result -/

/-- **Which texts are addresses, and which are the same address.** Two accepted texts are one
address exactly if they are respellings of each other, and then the addresses agree in all parts,
since their texts do. Forty digits behind the mark are accepted exactly if their letters are all in
one case or their case is their checksum; the address has the checksum then, and the network of
users. Accepted Base58 texts with the same payload are the same text. The addresses of keys are the
same exactly if their networks and the digests of the keys are. -/
theorem address_spellings :
    (∀ (s t : String) (a b : Address), parse s = .ok a → parse t = .ok b →
      (a.text = b.text ↔ IsRespelling s t) ∧ (a.text = b.text → a = b)) ∧
    (∀ digits : List Char, digits.length = 40 → (∀ c ∈ digits, (Hex.digit? c).isSome) →
      ((∃ a, parse (hexMark ++ String.ofList digits) = .ok a) ↔
        (∀ c ∈ digits, c.isAlpha → c.isLower) ∨ (∀ c ∈ digits, c.isAlpha → c.isUpper) ∨
          IsChecksummed digits) ∧
      ∀ a, parse (hexMark ++ String.ofList digits) = .ok a →
        a.network = .user ∧ ∃ checked, a.text = hexMark ++ String.ofList checked ∧
          checked.map Char.toLower = digits.map Char.toLower ∧ IsChecksummed checked) ∧
    (∀ (s t : String) (a b : Address), parse s = .ok a → parse t = .ok b →
      a.form = .base58Check → b.form = .base58Check → payload? s = payload? t → s = t) ∧
    ∀ (data data' : Bytes) (network network' : Entity),
      (ofKey data network).text = (ofKey data' network').text ↔
        network = network' ∧ Digest.hash160 data = Digest.hash160 data' := by
  refine ⟨fun s t a b hs ht => ?_, fun digits hlength hdigit => ?_,
    fun s t a b hs ht => eq_of_payload?_eq hs ht, fun data data' network network' =>
      text_ofKey_eq_iff⟩
  · have heq : a.text = b.text → a = b := eq_of_text_eq (.parse hs) (.parse ht)
    exact ⟨⟨fun h => (eq_iff_isRespelling hs ht).mp (heq h),
      fun h => congrArg Address.text ((eq_iff_isRespelling hs ht).mpr h)⟩, heq⟩
  · have hhex : IsHexText (hexMark ++ String.ofList digits) digits :=
      ⟨by rw [String.toList_append, String.toList_ofList], hdigit, hlength⟩
    exact ⟨hhex.exists_parse_iff, fun a ha => hhex.checksum_of_parse_eq_ok ha⟩

/-- The statement for a word in two cases, for digits in one case, whose letters get the checksum,
for Base58 text and for the keys of a user and a group. -/
theorem address_spellings_of_word_and_point :
    IsRespelling "ANYWHERE" "anyWhere" ∧
    (∃ (a : Address) (checked : List Char),
      parse "0x5aaeb6053f3e94c9b9a09f33669435e7ef1beaed" = .ok a ∧ a.network = .user ∧
      a.text = hexMark ++ String.ofList checked ∧ IsChecksummed checked) ∧
    (∀ t b, parse t = .ok b → b.form = .base58Check →
      payload? (ofKey [] .user).text = payload? t → (ofKey [] .user).text = t) ∧
    (ofKey [] .user).text ≠ (ofKey [] .group).text := by
  obtain ⟨hspelling, hdigits, hpayload, hkey⟩ := address_spellings
  let digits := "5aaeb6053f3e94c9b9a09f33669435e7ef1beaed".toList
  have hdigit : digits.all fun c => (Hex.digit? c).isSome := by decide
  have hlower : digits.all fun c => c.isAlpha → c.isLower := by decide
  obtain ⟨hiff, hchecked⟩ := hdigits digits rfl (List.all_eq_true.mp hdigit)
  refine ⟨?_, ?_, ?_, ?_⟩
  · exact (hspelling _ _ anywhere anywhere (by decide) (by decide)).1.mp rfl
  · obtain ⟨a, ha⟩ := hiff.mpr <| .inl fun c hc =>
      of_decide_eq_true (List.all_eq_true.mp hlower c hc)
    obtain ⟨hnetwork, checked, htext, -, hcase⟩ := hchecked a ha
    exact ⟨a, checked, ha, hnetwork, htext, hcase⟩
  · intro t b ht hform
    exact hpayload _ _ _ _ (parse_text_ofKey [] .user) ht rfl hform
  · rw [ne_eq, hkey [] [] .user .group]
    exact fun h => absurd h.1 (by decide)

end SelfCert.Address
