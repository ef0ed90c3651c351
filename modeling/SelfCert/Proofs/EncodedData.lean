import SelfCert.EncodedData
import SelfCert.Proofs.Codec.Base58
import SelfCert.Proofs.Codec.Base64
import SelfCert.Proofs.Codec.Hex
import SelfCert.Proofs.DataUri
import SelfCert.Proofs.Except

/-!
# Encoded data is read back

Bytes travel as a map, as a data URI or, in Base64 and without a type, as bare text. The map is
always read back. The compact text never holds a map, because it does not begin with a brace; so it
is read back exactly if its MIME type, where there is one, is plain
(`EncodedData.ofJson_toJson_iff`).
-/

namespace SelfCert

/-- A text that does not begin with a brace holds no map. -/
theorem Json.embedded?_eq_none {text : String} (h : text.toList.head? ≠ some '\x7b') :
    Json.embedded? text = none := by
  rw [Json.embedded?, if_neg fun hall => h hall.2.1]

namespace Encoding

/-- **Each encoding reads what it writes.** -/
theorem decode_encode (encoding : Encoding) (data : Bytes) :
    encoding.decode (encoding.encode data) = .ok data := by
  cases encoding with
  | base64 => exact Base64.decode_encode data
  | base58 => rw [encode, decode, Base58.decode?_encode]
  | hex =>
    rw [encode, Hex.encode, decode, String.toList_ofList, Hex.afterMark_digits,
      Hex.ofDigits?_digits]

/-- A tag can stand in front of the comma of a data URI, with and without a type. -/
theorem tag_facts (encoding : Encoding) :
    ',' ∉ encoding.tag.toList ∧ ';' ∉ encoding.tag.toList ∧
      Utf8.size encoding.tag.toList ≤ DataUri.maxBareName ∧
      ¬DataUri.scheme.toList <+: encoding.tag.toList := by
  cases encoding <;> decide

/-- No encoding reads a text that holds a closing brace. -/
theorem brace_notMem_of_decode_eq_ok {encoding : Encoding} {text : String} {data : Bytes}
    (h : encoding.decode text = .ok data) : '\x7d' ∉ text.toList := by
  intro hbrace
  cases encoding with
  | base64 =>
    rw [decode] at h
    split at h
    · next hread =>
      exact absurd (Base64.mem_of_ofDigits?_eq_some hread (Text.mem_trim (by decide) hbrace))
        (by decide)
    · cases h
  | base58 =>
    rw [decode] at h
    split at h
    · next hread => exact absurd (Base58.mem_alphabet_of_ofDigits?_eq_some hread hbrace) (by decide)
    · cases h
  | hex =>
    rw [decode] at h
    split at h
    · next hread =>
      have hmem := Hex.mem_afterMark (by decide) (by decide) hbrace
      exact absurd (Hex.isSome_digit?_of_ofDigits?_eq_some hread hmem) (by decide)
    · cases h

end Encoding

namespace EncodedData

variable {encodings : Registry Encoding} {encoded : EncodedData}

/-- Whether the MIME type, if there is one, is plain. -/
def HasPlainType (encoded : EncodedData) : Prop :=
  ∀ mime ∈ encoded.mimeType, DataUri.IsPlainType mime

/-- Whether a registry has each encoding under its tag, and Base64 for all other tags. -/
structure IsStandard (encodings : Registry Encoding) : Prop where
  get?_tag : ∀ encoding : Encoding, Table.get? encoding.tag encodings = some encoding
  get?_wildcard : Table.get? Registry.wildcard encodings = some .base64

/-! ### Maps -/

/-- The map of data is read in its own encoding as the data. -/
theorem ofFields_toMap (encoded : EncodedData) :
    ofFields encoded.encoding encoded.toMap = .ok encoded := by
  obtain ⟨-, hbody, hmime⟩ :=
    DataUri.string?_toMap ⟨encoded.mimeType, encoded.encoding.tag, encoded.body⟩
  rw [ofFields, toMap, hbody, hmime]
  simp only [body, Encoding.decode_encode, Except.map]

/-- **Maps are read back.** -/
theorem ofJson_toMap (hstandard : IsStandard encodings) (encoded : EncodedData) :
    ofJson encodings (.object encoded.toMap) = .ok encoded := by
  have htag : encoded.toMap.string? "algorithm" = some encoded.encoding.tag :=
    (DataUri.string?_toMap ⟨encoded.mimeType, encoded.encoding.tag, encoded.body⟩).1
  have hresolve : encodings.resolveAny (some encoded.encoding.tag) = some encoded.encoding :=
    Registry.resolve_of_get?_eq_some (hstandard.get?_tag encoded.encoding)
  rw [ofJson, fields?]
  simp only [htag, hresolve]
  exact ofFields_toMap encoded

/-- The type of what is read is the one that the fields name. -/
theorem mimeType_of_ofJson_eq_ok {value : Json} (h : ofJson encodings value = .ok encoded) :
    ∃ fields, fields? value = some fields ∧ encoded.mimeType = fields.string? "mime-type" := by
  unfold ofJson at h
  split at h
  · cases h
  · next fields hfields =>
    refine ⟨fields, hfields, ?_⟩
    simp only at h
    split at h
    · cases h
    · unfold ofFields at h
      split at h
      · cases h
      · obtain ⟨data, -, rfl⟩ := Except.map_eq_ok_iff.mp h
        rfl

/-! ### Bare text -/

/-- The characters of Base64 text are none that the other forms need. -/
private theorem notMem_encode {data : Bytes} {c : Char} (h : c ∉ '=' :: Base64.alphabet) :
    c ∉ (Base64.encode data).toList := fun hc => by
  rw [Base64.encode, String.toList_ofList] at hc
  exact h (Base64.mem_of_mem_digits hc)

/-- A text beside all other forms is a map of nothing but the text. -/
theorem fields?_string {text : String} (hbrace : text.toList.head? ≠ some '\x7b') :
    fields? (.string text) =
      some (((DataUri.parse? text).map DataUri.toMap).getD
        (Table.ofList [("data", .string text)])) := by
  rw [fields?, Json.embedded?_eq_none hbrace]
  cases DataUri.parse? text <;> rfl

/-- What stands under a key of a map of nothing but a text. -/
private theorem string?_bare (key text : String) :
    Json.Object.string? (Table.ofList [("data", .string text)]) key =
      if "data" = key then some text else none := by
  simp only [Json.Object.string?, Table.ofList, Table.insertAll, List.foldl_cons, List.foldl_nil,
    Table.insert, Table.get?]
  split_ifs <;> rfl

/-- **Bare Base64 text is read back.** Base64 has to be registered for all tags, since the text does
not name it. -/
theorem ofJson_bare (hall : Table.get? Registry.wildcard encodings = some .base64) (data : Bytes) :
    ofJson encodings (ofBytes .base64 data).toJson = .ok (ofBytes .base64 data) := by
  have htext : (ofBytes .base64 data).toString = Base64.encode data := by
    rw [toString, if_pos ⟨rfl, rfl⟩]
    rfl
  have hbrace : (Base64.encode data).toList.head? ≠ some '\x7b' := fun h =>
    notMem_encode (by decide) (List.mem_of_head? h)
  have hparse : DataUri.parse? (Base64.encode data) = none :=
    DataUri.parse?_eq_none (notMem_encode (by decide))
  have hread : Encoding.base64.decode (Base64.encode data) = .ok data :=
    Base64.decode_encode data
  rw [ofJson, toJson, htext, fields?_string hbrace, hparse, Option.map_none, Option.getD_none]
  simp only
  rw [string?_bare "algorithm", if_neg (by decide), Registry.resolveAny, hall]
  simp only
  rw [ofFields, string?_bare "data", if_pos rfl, string?_bare "mime-type", if_neg (by decide)]
  simp only [hread]
  rfl

/-! ### Compact text -/

/-- Compact text does not begin with a brace. -/
theorem head?_toString_ne (encoded : EncodedData) :
    encoded.toString.toList.head? ≠ some '\x7b' := by
  obtain ⟨encoding, mimeType, data⟩ := encoded
  unfold toString
  split_ifs with hbare
  · obtain ⟨-, hencoding⟩ := hbare
    obtain rfl : encoding = .base64 := hencoding
    exact fun h => notMem_encode (by decide) (List.mem_of_head? h)
  · cases mimeType with
    | some mime => simp [DataUri.toString, DataUri.scheme]
    | none => cases encoding <;> simp [DataUri.toString, Encoding.tag]

/-- The text of data with a type is that of a data URI. -/
theorem toString_of_type (h : encoded.mimeType ≠ none) :
    encoded.toString =
      DataUri.toString ⟨encoded.mimeType, encoded.encoding.tag, encoded.body⟩ := by
  rw [toString, if_neg fun hbare => h (Option.isNone_iff_eq_none.mp hbare.1)]

/-- Data with a plain type is a data URI that is read back, unless it is bare. -/
theorem parse?_toString (hplain : encoded.HasPlainType)
    (hbare : ¬(encoded.mimeType.isNone ∧ encoded.encoding = .base64)) :
    DataUri.parse? encoded.toString =
      some ⟨encoded.mimeType, encoded.encoding.tag, encoded.body⟩ := by
  have htag := encoded.encoding.tag_facts
  rw [toString, if_neg hbare]
  cases hmime : encoded.mimeType with
  | some mime => exact DataUri.parse?_toString_some_iff.mpr ⟨hplain mime hmime, htag.1⟩
  | none => exact DataUri.parse?_toString_none_iff.mpr htag

/-- Compact text with a plain type is read back. -/
theorem ofJson_toJson (hstandard : IsStandard encodings) (hplain : encoded.HasPlainType) :
    ofJson encodings encoded.toJson = .ok encoded := by
  by_cases hbare : encoded.mimeType.isNone ∧ encoded.encoding = .base64
  · obtain ⟨encoding, mimeType, data⟩ := encoded
    obtain ⟨hmime, hencoding⟩ := hbare
    obtain rfl : encoding = .base64 := hencoding
    obtain rfl : mimeType = none := Option.isNone_iff_eq_none.mp hmime
    exact ofJson_bare hstandard.get?_wildcard data
  · -- The text stands for the same map as the long form.
    have hfields : fields? encoded.toJson = fields? (.object encoded.toMap) := by
      rw [toJson, fields?_string encoded.head?_toString_ne, parse?_toString hplain hbare]
      rfl
    rw [ofJson, hfields]
    exact ofJson_toMap hstandard encoded

/-- A type that is read from a compact text is plain. -/
theorem hasPlainType_of_ofJson_eq_ok {text : String} (hbrace : text.toList.head? ≠ some '\x7b')
    (h : ofJson encodings (.string text) = .ok encoded) : encoded.HasPlainType := by
  obtain ⟨fields, hfields, hmime⟩ := mimeType_of_ofJson_eq_ok h
  rw [fields?_string hbrace] at hfields
  obtain rfl := Option.some_injective _ hfields
  intro mime hmem
  rw [hmime] at hmem
  cases huri : DataUri.parse? text with
  | some uri =>
    rw [huri, Option.map_some, Option.getD_some, (DataUri.string?_toMap uri).2.2] at hmem
    exact DataUri.isPlainType_of_parse?_eq_some huri mime hmem
  | none =>
    rw [huri, Option.map_none, Option.getD_none, string?_bare] at hmem
    cases hmem

/-- **Compact text is read back exactly if the type is plain.** -/
theorem ofJson_toJson_iff (hstandard : IsStandard encodings) :
    ofJson encodings encoded.toJson = .ok encoded ↔ encoded.HasPlainType :=
  ⟨hasPlainType_of_ofJson_eq_ok encoded.head?_toString_ne, ofJson_toJson hstandard⟩

/-! ### What cannot be read -/

/-- What is read has a text under `data`, without a closing brace. -/
theorem exists_data_of_ofJson_eq_ok {value : Json} (h : ofJson encodings value = .ok encoded) :
    ∃ fields text, fields? value = some fields ∧ fields.string? "data" = some text ∧
      '\x7d' ∉ text.toList := by
  unfold ofJson at h
  split at h
  · cases h
  · next fields hfields =>
    simp only at h
    split at h
    · cases h
    · unfold ofFields at h
      split at h
      · cases h
      · next text htext =>
        obtain ⟨data, hdecode, -⟩ := Except.map_eq_ok_iff.mp h
        exact ⟨fields, text, hfields, htext, Encoding.brace_notMem_of_decode_eq_ok hdecode⟩

/-- No text that ends with a brace is read, unless it holds a map. -/
theorem ofJson_string_ne_ok {text : String} (hnone : Json.embedded? text = none)
    (hlast : text.toList.getLast? = some '\x7d') :
    ofJson encodings (.string text) ≠ .ok encoded := by
  intro h
  obtain ⟨fields, data, hfields, hdata, hbrace⟩ := exists_data_of_ofJson_eq_ok h
  apply hbrace
  rw [fields?, hnone, Option.getD_none, Option.some_inj] at hfields
  split at hfields
  · next uri huri =>
    rw [← hfields, (DataUri.string?_toMap uri).2.1, Option.some_inj] at hdata
    rw [← hdata]
    exact DataUri.mem_body_of_parse?_eq_some huri (by decide) hlast
  · rw [← hfields] at hdata
    cases hdata
    exact List.mem_of_getLast? hlast

end EncodedData

end SelfCert
