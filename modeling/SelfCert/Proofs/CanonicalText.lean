import SelfCert.Proofs.EncodedData

/-!
# One text for each byte string

Reading an encoding is generous at the rim only: Base64 text may have blanks around it, and
hexadecimal digits may be in upper case and behind a mark. Beside that, what is read is exactly what
is written (`Encoding.decode_eq_ok_iff`), so each byte string has one text.
-/

namespace SelfCert.Encoding

/-- The canonical spelling of a text: Base64 text without the blanks around it, Base58 text as it
is, and hexadecimal digits in lower case and without the mark in front. -/
def canonical : Encoding → String → String
  | base64, text => Text.trimString text
  | base58, text => text
  | hex, text => String.ofList ((Hex.afterMark text.toList).map Char.toLower)

/-- **A text is read as the bytes whose text is its canonical spelling**, and not at all if there
are none. -/
theorem decode_eq_ok_iff {encoding : Encoding} {text : String} {bytes : Bytes} :
    encoding.decode text = .ok bytes ↔ encoding.encode bytes = encoding.canonical text := by
  cases encoding with
  | base64 =>
    rw [encode, canonical, Base64.encode, Text.trimString, String.ofList_inj,
      ← Base64.ofDigits?_eq_some_iff, decode]
    cases Base64.ofDigits? (Text.trim text.toList) <;> simp
  | base58 =>
    rw [encode, canonical, ← Base58.decode?_eq_some_iff, decode]
    cases Base58.decode? text <;> simp
  | hex =>
    rw [encode, canonical, Hex.encode, String.ofList_inj, ← Hex.ofDigits?_eq_some_iff, decode]
    cases Hex.ofDigits? (Hex.afterMark text.toList) <;> simp

/-- **Each byte string has one text.** In each encoding, the text of a byte string is read as the
byte string and is its own canonical spelling; and a text is read as a byte string exactly if its
canonical spelling is the text of that byte string. -/
theorem each_byte_string_has_one_text (encoding : Encoding) :
    (∀ bytes, encoding.decode (encoding.encode bytes) = .ok bytes ∧
      encoding.canonical (encoding.encode bytes) = encoding.encode bytes) ∧
      ∀ text bytes, encoding.decode text = .ok bytes ↔
        encoding.encode bytes = encoding.canonical text :=
  ⟨fun bytes => ⟨decode_encode encoding bytes,
    (decode_eq_ok_iff.mp (decode_encode encoding bytes)).symm⟩, fun _ _ => decode_eq_ok_iff⟩

end SelfCert.Encoding
