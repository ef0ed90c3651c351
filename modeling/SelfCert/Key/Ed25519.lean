import SelfCert.Codec.Hex
import SelfCert.Curve.Ed25519
import SelfCert.Entropy
import SelfCert.Key.Basic

/-!
# Keys on the Edwards curve

A public key is the 32 bytes of a point and a private key the 32 bytes of a seed.
-/

namespace SelfCert

/-- The bytes of a public point. -/
structure Ed25519PublicKey where
  data : Bytes
  isPoint : (Ed25519.Point.ofBytes? data).isSome
  deriving DecidableEq

namespace Ed25519PublicKey

/-- The public key of given bytes. -/
def ofBytes (bytes : Bytes) : Except KeyError Ed25519PublicKey :=
  if h : (Ed25519.Point.ofBytes? bytes).isSome then .ok ⟨bytes, h⟩ else .error .invalidPublicKey

/-- The public key that hexadecimal digits spell. -/
def ofHex (text : String) : Except KeyError Ed25519PublicKey :=
  match Hex.decode? text with
  | some bytes => ofBytes bytes
  | none => .error .invalidPublicKey

/-- Whether a signature belongs to a message. -/
def verify (key : Ed25519PublicKey) (message signature : Bytes) : Bool :=
  Ed25519.verify key.data message signature

/-- The map of a key given by its bytes. -/
def mapOf (data : Bytes) : KeyMap :=
  Table.ofList [("algorithm", .string KeyAlgorithm.ed25519.tag),
    ("data", .string (Hex.encode data))]

/-- The map of a public key. -/
def toMap (key : Ed25519PublicKey) : KeyMap := mapOf key.data

/-- Reads the map of a public key. -/
def ofMap (map : KeyMap) : Except KeyError Ed25519PublicKey := do
  ofHex (← map.required "data")

/-- A short text that tells keys apart. -/
def describe (key : Ed25519PublicKey) : String :=
  "Ed25519PublicKey(" ++ String.ofList ((Hex.digits key.data).take 16) ++ ")"

end Ed25519PublicKey

/-- A seed and the public key it expands to. -/
structure Ed25519PrivateKey where
  seed : Bytes
  publicKey : Ed25519PublicKey
  length_seed : seed.length = 32
  isPublic : publicKey.data = Ed25519.publicOfSeed seed
  deriving DecidableEq

namespace Ed25519PrivateKey

/-- The private key of a seed. -/
def ofSeed (seed : Bytes) : Except KeyError Ed25519PrivateKey :=
  if length_seed : seed.length = 32 then
    if isPoint : (Ed25519.Point.ofBytes? (Ed25519.publicOfSeed seed)).isSome then
      .ok ⟨seed, ⟨Ed25519.publicOfSeed seed, isPoint⟩, length_seed, rfl⟩
    else .error .invalidSecretKey
  else .error .invalidSecretKey

/-- The private key that hexadecimal digits spell. -/
def ofHex (text : String) : Except KeyError Ed25519PrivateKey :=
  match Hex.decode? text with
  | some bytes => ofSeed bytes
  | none => .error .invalidSecretKey

/-- A new private key. -/
def generate (source : Entropy) : Except KeyError Ed25519PrivateKey × Entropy :=
  let (seed, rest) := source.take 32
  (ofSeed seed, rest)

/-- The signature of a message. -/
def sign (key : Ed25519PrivateKey) (message : Bytes) : Bytes :=
  Ed25519.sign key.seed message

/-- The map of a private key. -/
def toMap (key : Ed25519PrivateKey) : KeyMap := Ed25519PublicKey.mapOf key.seed

/-- Reads the map of a private key. -/
def ofMap (map : KeyMap) : Except KeyError Ed25519PrivateKey := do
  ofHex (← map.required "data")

/-- A short text that tells keys apart and shows no secret. -/
def describe (key : Ed25519PrivateKey) : String :=
  "Ed25519PrivateKey(pub=" ++ key.publicKey.describe ++ ")"

end Ed25519PrivateKey

end SelfCert
