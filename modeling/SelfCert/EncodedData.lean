import SelfCert.DataUri
import SelfCert.Encoding
import SelfCert.Json.Reader
import SelfCert.Registry

/-!
# Encoded data

Bytes together with the way they are written and, if known, their MIME type. In the compact form,
Base64 without a type is the bare text, and everything else is a data URI; the long form is a map.
-/

namespace SelfCert

/-- Bytes that travel as text. -/
structure EncodedData where
  encoding : Encoding
  mimeType : Option String
  data : Bytes
  deriving DecidableEq, Repr

namespace EncodedData

/-- Bytes without a type. -/
def ofBytes (encoding : Encoding) (data : Bytes) : EncodedData := ⟨encoding, none, data⟩

/-- The text of the bytes. -/
def body (encoded : EncodedData) : String :=
  encoded.encoding.encode encoded.data

/-- The compact form. -/
def toString (encoded : EncodedData) : String :=
  if encoded.mimeType.isNone ∧ encoded.encoding = .base64 then encoded.body
  else DataUri.toString ⟨encoded.mimeType, encoded.encoding.tag, encoded.body⟩

/-- The long form. -/
def toMap (encoded : EncodedData) : Json.Object :=
  DataUri.toMap ⟨encoded.mimeType, encoded.encoding.tag, encoded.body⟩

/-- The compact form as a value. -/
def toJson (encoded : EncodedData) : Json := .string encoded.toString

/-- The fields of a value: a map as it is, and a text as a map inside it, as a data URI or as bare
data, whichever fits first. -/
def fields? : Json → Option Json.Object
  | .object fields => some fields
  | .string text =>
    some <| (Json.embedded? text).getD <|
      match DataUri.parse? text with
      | some uri => uri.toMap
      | none => Table.ofList [("data", .string text)]
  | _ => none

/-- Reads the fields of data in a given encoding. -/
def ofFields (encoding : Encoding) (fields : Json.Object) : Except EncodingError EncodedData :=
  match fields.string? "data" with
  | none => .error .missingBody
  | some text => (encoding.decode text).map fun data => ⟨encoding, fields.string? "mime-type", data⟩

/-- Reads a value; the registry says which encoding a tag stands for. -/
def ofJson (encodings : Registry Encoding) (value : Json) : Except EncodingError EncodedData :=
  match fields? value with
  | none => .error .notEncodedData
  | some fields =>
    let tag := fields.string? "algorithm"
    match encodings.resolveAny tag with
    | none => .error (.unknownEncoding (tag.getD ""))
    | some encoding => ofFields encoding fields

/-- Data in the encoding registered for a tag, Base64 if none is given. -/
def create (encodings : Registry Encoding) (data : Bytes) (tag : Option String) :
    Except EncodingError EncodedData :=
  let tag := tag.getD Encoding.base64.tag
  match Table.get? tag encodings with
  | some encoding => .ok (ofBytes encoding data)
  | none => .error (.unknownEncoding tag)

end EncodedData

end SelfCert
