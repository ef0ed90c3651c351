import SelfCert.Address
import SelfCert.Proofs.Codec.Base58
import SelfCert.Proofs.Codec.Hex
import SelfCert.Proofs.Text.Basic

/-!
# The text of an address

The addresses there are come from keys, from points, from the two broadcasts and from reading texts
(`Address.Issued`). Each of them is what its own text reads as, so the text alone tells the network
and the form. For this the lengths have to keep the forms apart: Base58 text of a network byte, a
digest and a checksum has between 26 and 35 characters whatever the digest, text of a point has 42,
and the words for broadcasts are shorter. The bound from below fails for a payload that is all zero,
if its checksum begins with zero too; it does not (`checksum_replicate_zero`).
-/

namespace SelfCert

namespace Address

/-- The addresses that can be obtained: from keys, from points, as broadcasts and from texts. -/
inductive Issued : Address → Prop where
  | ofKey (data : Bytes) (network : Entity) : Issued (ofKey data network)
  | ofPointBytes {data : Bytes} {a : Address} : ofPointBytes data = .ok a → Issued a
  | derive {scheme : Scheme} {data : Bytes} {network : Entity} {a : Address} :
    derive scheme data network = .ok a → Issued a
  | anywhere : Issued anywhere
  | everywhere : Issued everywhere
  | parse {text : String} {a : Address} : parse text = .ok a → Issued a

/-! ### Which form a text is read as -/

/-- Two texts that agree up to the case of letters have the same length. -/
private theorem length_eq_of_lowerCase_eq {s t : String} (h : lowerCase s = lowerCase t) :
    s.toList.length = t.toList.length := by
  have hlength := congrArg List.length h
  rwa [lowerCase, lowerCase, List.length_map, List.length_map] at hlength

/-- A text of more than ten characters is no word for a broadcast. -/
private theorem lowerCase_ne {text : String} (h : 10 < text.toList.length) :
    lowerCase text ≠ lowerCase anywhere.text ∧ lowerCase text ≠ lowerCase everywhere.text := by
  constructor
  · intro heq
    have : anywhere.text.toList.length = 8 := rfl
    have := length_eq_of_lowerCase_eq heq
    omega
  · intro heq
    have : everywhere.text.toList.length = 10 := rfl
    have := length_eq_of_lowerCase_eq heq
    omega

/-- A text of the length of Base58 text is read as such. -/
theorem parse_eq_parseBase58 {text : String} (hascii : ∀ c ∈ text.toList, c.utf8Size = 1)
    (hmin : minBase58Length ≤ text.toList.length) (hmax : text.toList.length ≤ maxBase58Length) :
    parse text = parseBase58 text := by
  have hsize : text.utf8ByteSize = text.toList.length := Text.utf8ByteSize_eq_length hascii
  simp only [minBase58Length, maxBase58Length] at hmin hmax
  have hlong : 10 < text.toList.length := by omega
  obtain ⟨hany, hevery⟩ := lowerCase_ne hlong
  rw [parse, if_neg hany, if_neg hevery]
  simp only [hsize, hexTextLength, minBase58Length, maxBase58Length]
  rw [if_neg (by omega), if_pos ⟨hmin, hmax⟩]

/-- Whether a text is the mark with forty digits behind it, in whatever case. -/
structure IsHexText (text : String) (digits : List Char) : Prop where
  toList_eq : text.toList = hexMark.toList ++ digits
  isDigit : ∀ c ∈ digits, (Hex.digit? c).isSome
  length_eq : digits.length = 40

namespace IsHexText

variable {text : String} {digits : List Char}

theorem utf8ByteSize_eq (h : IsHexText text digits) : text.utf8ByteSize = hexTextLength := by
  have hmark : hexMark.toList = ['0', 'x'] := rfl
  have hascii : ∀ c ∈ text.toList, c.utf8Size = 1 := by
    intro c hc
    rw [h.toList_eq, hmark] at hc
    simp only [List.cons_append, List.nil_append, List.mem_cons] at hc
    rcases hc with rfl | rfl | hc
    · rfl
    · rfl
    · obtain ⟨n, hn⟩ := Option.isSome_iff_exists.mp (h.isDigit c hc)
      exact Hex.utf8Size_eq_one hn
  rw [Text.utf8ByteSize_eq_length hascii, h.toList_eq, hmark]
  simp [h.length_eq, hexTextLength]

/-- In lower case the digits are as they are written. -/
theorem isWritten (h : IsHexText text digits) : ∀ c ∈ digits.map Char.toLower, Hex.IsWritten c := by
  intro c hc
  obtain ⟨d, hd, rfl⟩ := List.mem_map.mp hc
  exact Hex.isWritten_toLower (h.isDigit d hd)

theorem length_lower (h : IsHexText text digits) : (digits.map Char.toLower).length = 40 := by
  rw [List.length_map, h.length_eq]

/-- Such a text is read as digits of a point. -/
theorem parse_eq_parseHex (h : IsHexText text digits) : parse text = parseHex text := by
  have hlong : 10 < text.toList.length := by
    rw [h.toList_eq]
    simp [h.length_eq, hexMark]
  obtain ⟨hany, hevery⟩ := lowerCase_ne hlong
  have hmark : hexMark.toList <+: text.toList := by
    rw [h.toList_eq]
    exact List.prefix_append _ _
  rw [parse, if_neg hany, if_neg hevery]
  simp only
  rw [if_pos ⟨h.utf8ByteSize_eq, hmark⟩]

/-- Such a text is read as the address of its digits in lower case. Letters in both cases have to be
the checksum. -/
theorem parse_eq (h : IsHexText text digits) :
    parse text =
      if digits.any Char.isLower ∧ digits.any Char.isUpper ∧
          withCase (digits.map Char.toLower) ≠ digits then
        .error (.checksumMismatch text)
      else .ok (ofDigits (digits.map Char.toLower)) := by
  have hbody : text.toList.drop hexMark.length = digits := by
    rw [h.toList_eq]
    exact List.drop_left
  have hsame : (ofDigits (digits.map Char.toLower)).text = text ↔
      withCase (digits.map Char.toLower) = digits := by
    rw [← String.toList_inj, ofDigits, String.toList_append, String.toList_ofList, h.toList_eq,
      List.append_cancel_left_eq]
  rw [h.parse_eq_parseHex, parseHex]
  simp only [hbody, ne_eq, hsame]
  rw [if_pos (List.all_eq_true.mpr h.isDigit)]

end IsHexText

/-! ### Base58 text -/

/-- The checksum of zeros does not begin with zero. -/
theorem checksum_replicate_zero :
    (checksum (List.replicate (checkedLength - checksumLength) 0)).head? = some 0x94 := by
  decide +kernel

@[simp] theorem length_checksum (payload : Bytes) : (checksum payload).length = checksumLength := by
  simp [checksum, checksumLength]

/-- A payload and its checksum begin with at most as many zeros as the payload has bytes. -/
private theorem length_takeWhile_zero_le {payload : Bytes}
    (hlength : payload.length = checkedLength - checksumLength) :
    ((payload ++ checksum payload).takeWhile (· == 0)).length ≤ 21 := by
  have hlength' : payload.length = 21 := hlength
  by_cases hzero : ∀ b ∈ payload, b = 0
  · -- All zero: here the checksum itself has to stop the run.
    have hpayload : payload = List.replicate (checkedLength - checksumLength) 0 := by
      rw [← hlength]
      exact List.eq_replicate_of_mem hzero
    have hhead := checksum_replicate_zero
    rw [← hpayload] at hhead
    cases hsum : checksum payload with
    | nil => simp [hsum] at hhead
    | cons b rest =>
      obtain rfl : b = 0x94 := by simpa [hsum] using hhead
      rw [List.takeWhile_append_of_pos (by simpa using hzero),
        List.takeWhile_cons_of_neg (by decide), List.append_nil, hlength']
  · push Not at hzero
    obtain ⟨b, hb, hne⟩ := hzero
    have hlt : (payload.takeWhile (· == 0)).length < payload.length := by
      have hprefix : payload.takeWhile (· == 0) <+: payload := List.takeWhile_prefix _
      refine lt_of_le_of_ne hprefix.length_le fun heq => ?_
      have hall := hprefix.eq_of_length heq
      rw [List.takeWhile_eq_self_iff] at hall
      exact hne (by simpa using hall b hb)
    rw [List.takeWhile_append, if_neg (by omega)]
    omega

/-- Base58 text of a payload and its checksum has between 26 and 35 characters. -/
theorem length_encode_bounds {payload : Bytes}
    (hlength : payload.length = checkedLength - checksumLength) :
    minBase58Length ≤ (Base58.encode (payload ++ checksum payload)).toList.length ∧
      (Base58.encode (payload ++ checksum payload)).toList.length ≤ maxBase58Length := by
  have hbytes : (payload ++ checksum payload).length = 25 := by
    rw [List.length_append, length_checksum, hlength]
    rfl
  rw [Base58.encode, String.toList_ofList]
  exact Base58.length_digits_bounds hbytes (length_takeWhile_zero_le hlength)

/-- What holds of the characters of Base58 text. -/
theorem alphabet_facts {c : Char} (h : c ∈ Base58.alphabet) :
    c.utf8Size = 1 ∧ c ≠ '@' ∧ c ≠ '/' := by
  have hall : Base58.alphabet.all fun c => c.utf8Size = 1 ∧ c ≠ '@' ∧ c ≠ '/' := by decide
  exact of_decide_eq_true (List.all_eq_true.mp hall c h)

/-- A payload and its checksum are read back from their text. -/
theorem parseBase58_encode {payload : Bytes}
    (hlength : payload.length = checkedLength - checksumLength) :
    parseBase58 (Base58.encode (payload ++ checksum payload)) =
      .ok ⟨Base58.encode (payload ++ checksum payload), ⟨payload.headD 0⟩, .base58Check⟩ := by
  have hbytes : (payload ++ checksum payload).length = checkedLength := by
    rw [List.length_append, length_checksum, hlength]
    rfl
  simp only [parseBase58, Base58.decode?_encode]
  rw [if_pos hbytes, ← hlength, List.take_left, List.drop_left, if_pos rfl]

/-- The address of a key is what its text reads as. -/
theorem parse_text_ofKey (data : Bytes) (network : Entity) :
    parse (ofKey data network).text = .ok (ofKey data network) := by
  have hpayload : (network.code :: Digest.hash160 data).length =
      checkedLength - checksumLength := by
    rw [List.length_cons, Digest.length_hash160]
    rfl
  have hascii : ∀ c ∈ (ofKey data network).text.toList, c.utf8Size = 1 := by
    intro c hc
    simp only [ofKey, Base58.encode, String.toList_ofList] at hc
    exact (alphabet_facts (Base58.mem_alphabet_of_mem_digits hc)).1
  obtain ⟨hmin, hmax⟩ := length_encode_bounds hpayload
  rw [parse_eq_parseBase58 hascii hmin hmax]
  exact parseBase58_encode hpayload

/-- What is read as Base58 text keeps that text, which consists of digits. -/
theorem eq_of_parseBase58_eq_ok {text : String} {a : Address} (h : parseBase58 text = .ok a) :
    a.text = text ∧ a.form = .base58Check ∧ ∀ c ∈ text.toList, c ∈ Base58.alphabet := by
  unfold parseBase58 at h
  split at h
  · cases h
  · next bytes hbytes =>
    simp only at h
    split_ifs at h
    cases h
    exact ⟨rfl, rfl, fun c hc => Base58.mem_alphabet_of_ofDigits?_eq_some hbytes hc⟩

/-! ### Digits of a point -/

@[simp] theorem length_halves (bytes : Bytes) : (halves bytes).length = 2 * bytes.length := by
  induction bytes with
  | nil => rfl
  | cons b bytes ih =>
    rw [halves, List.flatMap_cons, ← halves, List.length_append, ih, List.length_cons]
    simp only [List.length_cons, List.length_nil]
    omega

/-- The case of a digit is set or not, and nothing else happens to it. -/
private theorem mem_withCase {digits : List Char} {c : Char} (h : c ∈ withCase digits) :
    ∃ d ∈ digits, c = d ∨ c = d.toUpper := by
  rw [withCase] at h
  obtain ⟨i, hi, rfl⟩ := List.mem_iff_getElem.mp h
  have hdigit : i < digits.length := by
    rw [List.length_zipWith] at hi
    omega
  rw [List.getElem_zipWith]
  refine ⟨digits[i], List.getElem_mem hdigit, ?_⟩
  split_ifs
  · exact .inr rfl
  · exact .inl rfl

/-- Setting the case keeps the number of digits, as long as the digest has halves for all. -/
private theorem length_withCase {digits : List Char} (h : digits.length ≤ 64) :
    (withCase digits).length = digits.length := by
  rw [withCase, List.length_zipWith, length_halves, Keccak256.length_digest]
  omega

/-- Lowering the case undoes setting it. -/
private theorem map_toLower_zipWith {digits : List Char} {halves : List Nat}
    (hwritten : ∀ c ∈ digits, Hex.IsWritten c) (hlength : digits.length ≤ halves.length) :
    (List.zipWith (fun c half => if 8 ≤ half then c.toUpper else c) digits halves).map
      Char.toLower = digits := by
  induction digits generalizing halves with
  | nil => simp
  | cons c digits ih =>
    obtain ⟨half, halves, rfl⟩ : ∃ half rest, halves = half :: rest :=
      List.exists_cons_of_length_pos (by rw [List.length_cons] at hlength; omega)
    have hc : Hex.IsWritten c := hwritten c List.mem_cons_self
    have hshort : digits.length ≤ halves.length := by simpa using hlength
    have hrest := ih (fun d hd => hwritten d (List.mem_cons_of_mem c hd)) hshort
    rw [List.zipWith_cons_cons, List.map_cons, hrest]
    split_ifs
    · rw [hc.toLower_toUpper]
    · rw [hc.toLower_eq]

theorem map_toLower_withCase {digits : List Char} (hwritten : ∀ c ∈ digits, Hex.IsWritten c)
    (hlength : digits.length ≤ 64) : (withCase digits).map Char.toLower = digits :=
  map_toLower_zipWith hwritten (by rw [length_halves, Keccak256.length_digest]; exact hlength)

theorem text_ofDigits_toList (digits : List Char) :
    (ofDigits digits).text.toList = hexMark.toList ++ withCase digits := by
  rw [ofDigits, String.toList_append, String.toList_ofList]

private theorem isSome_digit?_of_mem_withCase {digits : List Char}
    (hwritten : ∀ c ∈ digits, Hex.IsWritten c) {c : Char} (h : c ∈ withCase digits) :
    (Hex.digit? c).isSome := by
  obtain ⟨d, hd, rfl | rfl⟩ := mem_withCase h
  · exact (hwritten _ hd).isSome_digit?
  · exact (hwritten _ hd).isSome_digit?_toUpper

/-- The text of the address of forty written digits. -/
theorem isHexText_ofDigits {digits : List Char} (hwritten : ∀ c ∈ digits, Hex.IsWritten c)
    (hlength : digits.length = 40) : IsHexText (ofDigits digits).text (withCase digits) where
  toList_eq := text_ofDigits_toList digits
  isDigit := fun _ hc => isSome_digit?_of_mem_withCase hwritten hc
  length_eq := by rw [length_withCase (by omega), hlength]

/-- Forty written digits make an address that is what its text reads as. -/
theorem parse_text_ofDigits {digits : List Char} (hwritten : ∀ c ∈ digits, Hex.IsWritten c)
    (hlength : digits.length = 40) : parse (ofDigits digits).text = .ok (ofDigits digits) := by
  rw [(isHexText_ofDigits hwritten hlength).parse_eq, map_toLower_withCase hwritten (by omega),
    if_neg (by simp)]

/-- The address of a point is what its text reads as. -/
theorem parse_text_ofPoint (point : Secp256k1.Point) :
    parse (ofPoint point).text = .ok (ofPoint point) :=
  parse_text_ofDigits (fun _ hc => Hex.isWritten_of_mem_digits hc) (by simp)

theorem parse_text_ofPointBytes {data : Bytes} {a : Address} (h : ofPointBytes data = .ok a) :
    parse a.text = .ok a := by
  unfold ofPointBytes at h
  split at h
  · cases h
    exact parse_text_ofPoint _
  · cases h

/-- What is read as digits of a point has forty of them, and it is read as their address. -/
private theorem exists_isHexText_of_parseHex_eq_ok {text : String} {a : Address}
    (hsize : text.utf8ByteSize = hexTextLength) (hmark : hexMark.toList <+: text.toList)
    (h : parseHex text = .ok a) :
    ∃ digits, IsHexText text digits ∧ a = ofDigits (digits.map Char.toLower) := by
  obtain ⟨body, hbody⟩ := hmark
  have hdrop : text.toList.drop hexMark.length = body := by
    rw [← hbody]
    exact List.drop_left
  unfold parseHex at h
  simp only [hdrop] at h
  split_ifs at h with hall hmixed
  cases h
  rw [List.all_eq_true] at hall
  refine ⟨body, ⟨hbody.symm, hall, ?_⟩, rfl⟩
  have hascii : ∀ c ∈ body, c.utf8Size = 1 := by
    intro c hc
    obtain ⟨n, hn⟩ := Option.isSome_iff_exists.mp (hall c hc)
    exact Hex.utf8Size_eq_one hn
  -- The size of the text is counted in bytes, and all its characters take one.
  have hlength : String.utf8Len text.toList = 42 := by
    rw [String.utf8Len_toList, hsize]
    rfl
  rw [← hbody, String.utf8Len_append, Text.utf8Len_eq_length hascii] at hlength
  have hmarkSize : String.utf8Len hexMark.toList = 2 := rfl
  omega

/-! ### All addresses -/

/-- How a text comes to be read: as a word for a broadcast, as digits of a point or as Base58
text. -/
theorem parse_cases {text : String} {a : Address} (h : parse text = .ok a) :
    (a = anywhere ∧ lowerCase text = lowerCase anywhere.text) ∨
      (a = everywhere ∧ lowerCase text = lowerCase everywhere.text) ∨
      (∃ digits, IsHexText text digits ∧ a = ofDigits (digits.map Char.toLower)) ∨
      (minBase58Length ≤ text.utf8ByteSize ∧ text.utf8ByteSize ≤ maxBase58Length ∧
        parseBase58 text = .ok a) := by
  simp only [parse] at h
  split_ifs at h with hany hevery hhex hbase58
  · cases h
    exact .inl ⟨rfl, hany⟩
  · cases h
    exact .inr (.inl ⟨rfl, hevery⟩)
  · exact .inr (.inr (.inl (exists_isHexText_of_parseHex_eq_ok hhex.1 hhex.2 h)))
  · exact .inr (.inr (.inr ⟨hbase58.1, hbase58.2, h⟩))

/-- What a text is read as is what its own text is read as. -/
theorem parse_text_of_parse_eq_ok {text : String} {a : Address} (h : parse text = .ok a) :
    parse a.text = .ok a := by
  obtain ⟨rfl, -⟩ | ⟨rfl, -⟩ | ⟨digits, hhex, rfl⟩ | ⟨-, -, hbase58⟩ := parse_cases h
  · decide
  · decide
  · exact parse_text_ofDigits hhex.isWritten hhex.length_lower
  · rw [(eq_of_parseBase58_eq_ok hbase58).1, h]

/-- What each scheme derives, and in which networks. -/
theorem derive_cases {scheme : Scheme} {data : Bytes} {network : Entity} {a : Address}
    (h : derive scheme data network = .ok a) :
    (scheme = .standard ∧ network.isDerivable ∧ a = ofKey data network) ∨
      (scheme = .bitcoin ∧ network = .user ∧ a = ofKey data network) ∨
      (scheme = .ethereum ∧ network = .user ∧ ofPointBytes data = .ok a) := by
  unfold derive at h
  split at h
  · split_ifs at h with hderivable
    cases h
    exact .inl ⟨rfl, hderivable, rfl⟩
  · split_ifs at h with huser
    cases h
    exact .inr (.inl ⟨rfl, huser, rfl⟩)
  · split_ifs at h with huser
    exact .inr (.inr ⟨rfl, huser, h⟩)
  · cases h

theorem parse_text_of_derive_eq_ok {scheme : Scheme} {data : Bytes} {network : Entity}
    {a : Address} (h : derive scheme data network = .ok a) : parse a.text = .ok a := by
  obtain ⟨-, -, rfl⟩ | ⟨-, -, rfl⟩ | ⟨-, -, hpoint⟩ := derive_cases h
  · exact parse_text_ofKey data network
  · exact parse_text_ofKey data network
  · exact parse_text_ofPointBytes hpoint

/-- Every address is what its text reads as. -/
theorem Issued.parse_text {a : Address} (h : a.Issued) : Address.parse a.text = .ok a := by
  cases h with
  | ofKey data network => exact parse_text_ofKey data network
  | ofPointBytes h => exact parse_text_ofPointBytes h
  | derive h => exact parse_text_of_derive_eq_ok h
  | anywhere => decide
  | everywhere => decide
  | parse h => exact parse_text_of_parse_eq_ok h

/-- The text tells addresses apart. -/
theorem eq_of_text_eq {a b : Address} (ha : a.Issued) (hb : b.Issued) (h : a.text = b.text) :
    a = b := by
  have hread := ha.parse_text
  rw [h, hb.parse_text] at hread
  exact (Except.ok.inj hread).symm

theorem network_of_ofPointBytes_eq_ok {data : Bytes} {a : Address} (h : ofPointBytes data = .ok a) :
    a.network = .user := by
  unfold ofPointBytes at h
  split at h
  · cases h
    rfl
  · cases h

/-- The network an address is derived for is the network of that address. -/
theorem network_eq_of_derive_eq_ok {scheme : Scheme} {data : Bytes} {network : Entity}
    {a : Address} (h : derive scheme data network = .ok a) : a.network = network := by
  obtain ⟨-, -, rfl⟩ | ⟨-, -, rfl⟩ | ⟨-, rfl, hpoint⟩ := derive_cases h
  · rfl
  · rfl
  · exact network_of_ofPointBytes_eq_ok hpoint

/-- Issued Base58 text has between 26 and 35 characters. -/
private theorem Issued.length_text_bounds {a : Address} (h : a.Issued)
    (hform : a.form = .base58Check) : 26 ≤ a.text.length ∧ a.text.length ≤ 35 := by
  obtain ⟨rfl, -⟩ | ⟨rfl, -⟩ | ⟨digits, -, rfl⟩ | ⟨hmin, hmax, hbase58⟩ :=
    parse_cases h.parse_text
  · cases hform
  · cases hform
  · cases hform
  · have hascii : ∀ c ∈ a.text.toList, c.utf8Size = 1 := fun c hc =>
      (alphabet_facts ((eq_of_parseBase58_eq_ok hbase58).2.2 c hc)).1
    rw [Text.utf8ByteSize_eq_length hascii, String.length_toList] at hmin hmax
    exact ⟨hmin, hmax⟩

/-- **Address texts read back.** Every address that can be obtained is what its text reads as, with
the same text, network and form. Base58 text has between 26 and 35 characters, whatever the network
byte and the digest it is made from, and the network an address is derived for is the one that is
read from its text. -/
theorem issued_address_reads_back :
    (∀ a : Address, a.Issued → parse a.text = .ok a) ∧
      (∀ a : Address, a.Issued → a.form = .base58Check →
        26 ≤ a.text.length ∧ a.text.length ≤ 35) ∧
      (∀ (network : Entity) (digest : Bytes), digest.length = 20 →
        26 ≤ (Base58.encode (network.code :: digest ++ checksum (network.code :: digest))).length ∧
        (Base58.encode (network.code :: digest ++ checksum (network.code :: digest))).length ≤
          35) ∧
      ∀ (scheme : Scheme) (data : Bytes) (network : Entity) (a : Address),
        derive scheme data network = .ok a →
          (parse a.text).map Address.network = .ok network := by
  refine ⟨fun a ha => ha.parse_text, fun a ha hform => ha.length_text_bounds hform,
    fun network digest hdigest => ?_, fun scheme data network a ha => ?_⟩
  · have hpayload : (network.code :: digest).length = checkedLength - checksumLength := by
      rw [List.length_cons, hdigest]
      rfl
    have hbounds := length_encode_bounds hpayload
    rw [String.length_toList] at hbounds
    exact hbounds
  · rw [parse_text_of_derive_eq_ok ha, Except.map, network_eq_of_derive_eq_ok ha]

/-- The statement at an empty key, at the digest of zeros only and at the last network that the
standard scheme derives for. -/
theorem issued_address_reads_back_zero :
    (ofKey [] .user).Issued ∧ parse (ofKey [] .user).text = .ok (ofKey [] .user) ∧
      (ofKey [] .user).form = .base58Check ∧ 26 ≤ (ofKey [] .user).text.length ∧
      (List.replicate 20 (0 : UInt8)).length = 20 ∧
      26 ≤ (Base58.encode (Entity.user.code :: List.replicate 20 0 ++
        checksum (Entity.user.code :: List.replicate 20 0))).length ∧
      derive .standard [] .company = .ok (ofKey [] .company) ∧
      (parse (ofKey [] .company).text).map Address.network = .ok .company :=
  ⟨.ofKey _ _, issued_address_reads_back.1 _ (.ofKey _ _), rfl,
    (issued_address_reads_back.2.1 _ (.ofKey _ _) rfl).1, rfl,
    (issued_address_reads_back.2.2.1 .user _ rfl).1, rfl,
    issued_address_reads_back.2.2.2 .standard [] .company _ rfl⟩

end Address

end SelfCert
