import SelfCert.Codec.Hex
import SelfCert.Codec.Base58
import SelfCert.Codec.Base64
import SelfCert.Text.Classes

/-!
# Encodings

The three ways bytes are written as text on the wire, each with its tag. `Encoding.decode` is
lenient at the rim only: Base64 text may have blanks around it and hexadecimal text a `0x` in
front.
-/

namespace SelfCert

/-- How bytes are written as text. -/
inductive Encoding where
  | base64
  | base58
  | hex
  deriving DecidableEq, Repr

/-- Why a wire form of bytes or of a file was refused. -/
inductive EncodingError where
  /-- The text is not canonical Base64. -/
  | notBase64
  /-- The text holds a character outside the Base58 alphabet. -/
  | notBase58
  /-- The text is not an even number of hexadecimal digits. -/
  | notHex
  /-- The bytes are not UTF-8. -/
  | notUtf8
  /-- No encoding is registered for this tag. -/
  | unknownEncoding (tag : String)
  /-- The map has no text under `data`. -/
  | missingBody
  /-- The value is neither a string nor a map. -/
  | notEncodedData
  /-- There is nothing to describe: no data, no address and no name. -/
  | emptyFile
  /-- The value is no wire form of a file. -/
  | notFile
  deriving DecidableEq, Repr

/-- The text of an error. -/
def EncodingError.message : EncodingError → String
  | .notBase64 => "invalid base64 text"
  | .notBase58 => "invalid base58 text"
  | .notHex => "invalid hex text"
  | .notUtf8 => "invalid UTF-8 bytes"
  | .unknownEncoding tag => "unknown encode algorithm: " ++ tag
  | .missingBody => "malformed value: TED without 'data'"
  | .notEncodedData => "malformed value: not a transportable value"
  | .emptyFile => "malformed value: file needs data, a URL or a filename"
  | .notFile => "malformed value: not a portable network file"

namespace Encoding

/-- The tag of an encoding on the wire. -/
def tag : Encoding → String
  | base64 => "base64"
  | base58 => "base58"
  | hex => "hex"

/-- The encoding with a given tag. -/
def ofTag? (tag : String) : Option Encoding :=
  [base64, base58, hex].find? fun encoding => encoding.tag == tag

/-- The canonical text of a byte string. -/
def encode : Encoding → Bytes → String
  | base64 => Base64.encode
  | base58 => Base58.encode
  | hex => Hex.encode

/-- The bytes a text stands for. -/
def decode : Encoding → String → Except EncodingError Bytes
  | base64, text =>
    match Base64.ofDigits? (Text.trim text.toList) with
    | some bytes => .ok bytes
    | none => .error .notBase64
  | base58, text =>
    match Base58.decode? text with
    | some bytes => .ok bytes
    | none => .error .notBase58
  | hex, text =>
    match Hex.ofDigits? (Hex.afterMark text.toList) with
    | some bytes => .ok bytes
    | none => .error .notHex

end Encoding

end SelfCert
