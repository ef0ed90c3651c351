import SelfCert.Codec.Hex
import SelfCert.Ecdsa
import SelfCert.Entropy
import SelfCert.Key.Basic

/-!
# Keys on secp256k1

A public key keeps the bytes it was received as beside the point they stand for, so that addresses
are derived from exactly those bytes. The public key of a private key has the long form.
-/

namespace SelfCert

/-- A public point and the bytes it was received as. -/
structure EccPublicKey where
  data : Bytes
  point : Secp256k1.Point
  reads : Secp256k1.ofBytes? data = some point
  deriving DecidableEq

namespace EccPublicKey

/-- The length of the short form. -/
def shortLength : Nat := 33

/-- The length of the long form. -/
def longLength : Nat := 65

/-- The public key of given bytes. -/
def ofBytes (bytes : Bytes) : Except KeyError EccPublicKey :=
  match h : Secp256k1.ofBytes? bytes with
  | some point => .ok ⟨bytes, point, h⟩
  | none => .error .invalidPublicKey

/-- The public key that hexadecimal digits spell. -/
def ofHex (text : String) : Except KeyError EccPublicKey :=
  if text.utf8ByteSize = 2 * shortLength ∨ text.utf8ByteSize = 2 * longLength then
    match Hex.decode? text with
    | some bytes => ofBytes bytes
    | none => .error .invalidPublicKey
  else .error (.pointLength text.utf8ByteSize)

/-- The long form of the point. -/
def uncompressed (key : EccPublicKey) : Bytes :=
  key.point.uncompressed

/-- The long form of the point that bytes stand for. -/
def uncompressedPoint (bytes : Bytes) : Except KeyError Bytes :=
  (ofBytes bytes).map uncompressed

/-- Whether the key was received in the short form. -/
def isCompressed (key : EccPublicKey) : Bool :=
  key.data.length == shortLength

/-- Whether a signature in either byte form belongs to a message; it may have the number `s` in
either half. -/
def verify (key : EccPublicKey) (message signature : Bytes) : Bool :=
  match Ecdsa.Signature.ofBytes? signature with
  | some sig => Ecdsa.verify key.point message sig.lower
  | none => false

/-- The map of a key given by its bytes. -/
def mapOf (data : Bytes) : KeyMap :=
  Table.ofList [("algorithm", .string KeyAlgorithm.ecc.tag), ("curve", .string "secp256k1"),
    ("data", .string (Hex.encode data))]

/-- The map of a public key. -/
def toMap (key : EccPublicKey) : KeyMap := mapOf key.data

/-- Reads the map of a public key. -/
def ofMap (map : KeyMap) : Except KeyError EccPublicKey := do
  ofHex (← map.required "data")

/-- A short text that tells keys apart. -/
def describe (key : EccPublicKey) : String :=
  "EccPublicKey(" ++ String.ofList ((Hex.digits key.data).take 18) ++ ")"

end EccPublicKey

/-- A secret number and its multiple of the base point. -/
structure EccPrivateKey where
  secret : Nat
  point : Secp256k1.Point
  isScalar : Ecdsa.isScalar secret
  isMultiple : Secp256k1.mulGenerator? secret = some point
  isOnCurve : point.isOnCurve
  deriving DecidableEq

namespace EccPrivateKey

/-- The private key of a secret number. -/
def ofNat? (secret : Nat) : Option EccPrivateKey :=
  if isScalar : Ecdsa.isScalar secret then
    match isMultiple : Secp256k1.mulGenerator? secret with
    | some point =>
      if isOnCurve : point.isOnCurve then some ⟨secret, point, isScalar, isMultiple, isOnCurve⟩
      else none
    | none => none
  else none

/-- The length of the byte form. -/
def byteLength : Nat := 32

/-- The private key of 32 bytes. -/
def ofBytes (bytes : Bytes) : Except KeyError EccPrivateKey :=
  if bytes.length = byteLength then
    match ofNat? (Bytes.toNat bytes) with
    | some key => .ok key
    | none => .error .invalidSecretKey
  else .error .invalidSecretKey

/-- The private key that hexadecimal digits spell. -/
def ofHex (text : String) : Except KeyError EccPrivateKey :=
  match Hex.decode? text with
  | some bytes => ofBytes bytes
  | none => .error .invalidSecretKey

/-- A new private key. Nearly every byte string of the right length is one, so that a few tries are
more than enough; the first argument is their number. -/
def tryGenerate : Nat → Entropy → Except KeyError EccPrivateKey × Entropy
  | 0, source => (.error .generationFailed, source)
  | tries + 1, source =>
    let (bytes, rest) := source.take byteLength
    match ofBytes bytes with
    | .ok key => (.ok key, rest)
    | .error _ => tryGenerate tries rest

/-- A new private key. -/
def generate (source : Entropy) : Except KeyError EccPrivateKey × Entropy :=
  tryGenerate 64 source

/-- The bytes of the secret number. -/
def bytes (key : EccPrivateKey) : Bytes :=
  Bytes.ofNat byteLength key.secret

/-- The public key that belongs to a private key. -/
def publicKey (key : EccPrivateKey) : EccPublicKey where
  data := key.point.uncompressed
  point := key.point
  reads := Secp256k1.ofBytes?_uncompressed key.isOnCurve

/-- The signature of a message. -/
def sign (key : EccPrivateKey) (message : Bytes) : Bytes :=
  (Ecdsa.sign key.secret message).toDer

/-- The map of a private key. -/
def toMap (key : EccPrivateKey) : KeyMap := EccPublicKey.mapOf key.bytes

/-- Reads the map of a private key. -/
def ofMap (map : KeyMap) : Except KeyError EccPrivateKey := do
  ofHex (← map.required "data")

/-- A short text that tells keys apart and shows no secret. -/
def describe (key : EccPrivateKey) : String :=
  "EccPrivateKey(pub=" ++ key.publicKey.describe ++ ")"

end EccPrivateKey

end SelfCert
