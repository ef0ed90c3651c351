import SelfCert.Codec.Base58
import SelfCert.Digest.Keccak256
import SelfCert.Digest.Ripemd160
import SelfCert.Entity
import SelfCert.Key.Ecc
import SelfCert.Scheme

/-!
# Addresses

An address is a text that determines its network and its form: Base58 text of a network byte, a
digest of a key and a checksum; forty hexadecimal digits of a digest of a point, whose letters are
checksummed by their case; or one of two words for broadcasts.
-/

namespace SelfCert

/-- The forms of addresses. -/
inductive AddressForm where
  | base58Check
  | ethereum
  | broadcast
  deriving DecidableEq, Repr

/-- The name of a form. -/
def AddressForm.name : AddressForm → String
  | base58Check => "Base58Check"
  | ethereum => "Ethereum"
  | broadcast => "Broadcast"

/-- An address. -/
structure Address where
  text : String
  network : Entity
  form : AddressForm
  deriving DecidableEq, Repr

/-- Why there is no address. -/
inductive AddressError where
  /-- The scheme has no addresses in this network. -/
  | unsupportedNetwork (scheme : Scheme) (network : Entity)
  /-- The checksum of the text is wrong. -/
  | checksumMismatch (text : String)
  /-- The text is not written in the digits of its form. -/
  | unreadable (text : String)
  /-- The text stands for a wrong number of bytes. -/
  | decodedLength (length : Nat)
  /-- No form has texts of this length. -/
  | textLength (length : Nat)
  /-- The key is no point; it has this many bytes. -/
  | notPoint (length : Nat)
  /-- Nothing is known about addresses of this scheme. -/
  | unknownScheme (tag : String)
  /-- Nobody is registered for addresses. -/
  | nobodyRegistered
  deriving DecidableEq, Repr

/-- The text of an error. -/
def AddressError.message : AddressError → String
  | unsupportedNetwork scheme network =>
    scheme.label ++ " addresses cannot carry network " ++ network.display
  | checksumMismatch text => "address checksum mismatch: " ++ text
  | unreadable text => "malformed address: " ++ text
  | decodedLength length =>
    "malformed address: expected 25 bytes, decoded " ++ Radix.decimalString length
  | textLength length =>
    "malformed address: unrecognised address length " ++ Radix.decimalString length
  | notPoint length =>
    "malformed address: ETH address needs a secp256k1 point, got " ++ Radix.decimalString length ++
      " bytes"
  | unknownScheme tag => "no address scheme for meta type " ++ tag
  | nobodyRegistered => "no address scheme for meta type no address factory"

namespace Address

/-! ### Broadcasts -/

/-- The address of a broadcast to any one member. -/
def anywhere : Address := ⟨"anywhere", .any, .broadcast⟩

/-- The address of a broadcast to all members. -/
def everywhere : Address := ⟨"everywhere", .every, .broadcast⟩

/-- A text with the letters of ASCII in lower case. -/
def lowerCase (text : String) : List Char :=
  text.toList.map Char.toLower

/-! ### Base58 with a checksum -/

/-- The length of a checksum. -/
def checksumLength : Nat := 4

/-- The length of what a text stands for: network byte, digest and checksum. -/
def checkedLength : Nat := 25

/-- The checksum of a payload. -/
def checksum (payload : Bytes) : Bytes :=
  (Sha256.double payload).take checksumLength

/-- The address of the bytes of a key in a network. -/
def ofKey (data : Bytes) (network : Entity) : Address :=
  let payload := network.code :: Digest.hash160 data
  ⟨Base58.encode (payload ++ checksum payload), network, .base58Check⟩

/-- Reads Base58 text. -/
def parseBase58 (text : String) : Except AddressError Address :=
  match Base58.decode? text with
  | none => .error (.unreadable text)
  | some bytes =>
    if bytes.length = checkedLength then
      let payload := bytes.take (checkedLength - checksumLength)
      if checksum payload = bytes.drop (checkedLength - checksumLength) then
        .ok ⟨text, ⟨payload.headD 0⟩, .base58Check⟩
      else .error (.checksumMismatch text)
    else .error (.decodedLength bytes.length)

/-! ### Digests of points -/

/-- What the text of a digest of a point starts with. -/
def hexMark : String := "0x"

/-- The digit for each half of a byte, high half first. -/
def halves (bytes : Bytes) : List Nat :=
  bytes.flatMap fun b => [b.toNat / 16, b.toNat % 16]

/-- Lower-case digits with their checksum: a letter is in upper case where the digest of the digits
has a half byte of eight and above. -/
def withCase (digits : List Char) : List Char :=
  let digest := Keccak256.digest (Utf8.encode (String.ofList digits))
  List.zipWith (fun c half => if 8 ≤ half then c.toUpper else c) digits (halves digest)

/-- The address of given lower-case digits. -/
def ofDigits (digits : List Char) : Address :=
  ⟨hexMark ++ String.ofList (withCase digits), .user, .ethereum⟩

/-- The address of a point. -/
def ofPoint (point : Secp256k1.Point) : Address :=
  ofDigits (Hex.digits ((Keccak256.digest (point.uncompressed.drop 1)).drop 12))

/-- The address of the bytes of a point. -/
def ofPointBytes (data : Bytes) : Except AddressError Address :=
  match Secp256k1.ofBytes? data with
  | some point => .ok (ofPoint point)
  | none => .error (.notPoint data.length)

/-- Reads digits behind the mark. They may be all in one case instead of checksummed. -/
def parseHex (text : String) : Except AddressError Address :=
  let body := text.toList.drop hexMark.length
  if body.all fun c => (Hex.digit? c).isSome then
    let address := ofDigits (body.map Char.toLower)
    if body.any Char.isLower ∧ body.any Char.isUpper ∧ address.text ≠ text then
      .error (.checksumMismatch text)
    else .ok address
  else .error (.unreadable text)

/-! ### Any form -/

/-- The length of a text of digits of a point, mark included. -/
def hexTextLength : Nat := 42

/-- The least length of Base58 text. -/
def minBase58Length : Nat := 26

/-- The greatest length of Base58 text. -/
def maxBase58Length : Nat := 35

/-- Reads an address. The words for broadcasts may have letters in any case. -/
def parse (text : String) : Except AddressError Address :=
  if lowerCase text = lowerCase anywhere.text then .ok anywhere
  else if lowerCase text = lowerCase everywhere.text then .ok everywhere
  else
    let length := text.utf8ByteSize
    if length = hexTextLength ∧ hexMark.toList <+: text.toList then parseHex text
    else if minBase58Length ≤ length ∧ length ≤ maxBase58Length then parseBase58 text
    else .error (.textLength length)

/-- The address of the bytes of a key under a scheme, in a network. -/
def derive (scheme : Scheme) (data : Bytes) (network : Entity) : Except AddressError Address :=
  match scheme with
  | .standard =>
    if network.isDerivable then .ok (ofKey data network)
    else .error (.unsupportedNetwork scheme network)
  | .bitcoin =>
    if network = .user then .ok (ofKey data network)
    else .error (.unsupportedNetwork scheme network)
  | .ethereum =>
    if network = .user then ofPointBytes data else .error (.unsupportedNetwork scheme network)
  | .custom tag => .error (.unknownScheme tag)

end Address

end SelfCert
