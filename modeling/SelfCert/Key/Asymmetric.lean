import SelfCert.Key.Ecc
import SelfCert.Key.Ed25519
import SelfCert.Key.Rsa
import SelfCert.Registry

/-!
# Keys that sign

Private keys sign byte strings and public keys verify the signatures. Two public keys count as the
same when their kinds and their bytes agree (`PublicKey.same`).
-/

namespace SelfCert

/-- A key that verifies signatures. -/
inductive PublicKey where
  | ecc (key : EccPublicKey)
  | ed25519 (key : Ed25519PublicKey)
  | rsa (key : Rsa.PublicKey)
  deriving DecidableEq

namespace PublicKey

/-- The kind of a key. -/
def algorithm : PublicKey → KeyAlgorithm
  | ecc _ => .ecc
  | ed25519 _ => .ed25519
  | rsa _ => .rsa

/-- The bytes of a key, which addresses are derived from. -/
def data : PublicKey → Bytes
  | ecc key => key.data
  | ed25519 key => key.data
  | rsa key => key.toDer

/-- Whether a signature belongs to a message. -/
def verify : PublicKey → Bytes → Bytes → Bool
  | ecc key => key.verify
  | ed25519 key => key.verify
  | rsa key => key.verify

/-- The map of a key. -/
def toMap : PublicKey → KeyMap
  | ecc key => key.toMap
  | ed25519 key => key.toMap
  | rsa key => key.toMap

/-- Reads the map of a key of a given kind. -/
def ofMap : KeyAlgorithm → KeyMap → Except KeyError PublicKey
  | .ecc, map => (EccPublicKey.ofMap map).map ecc
  | .ed25519, map => (Ed25519PublicKey.ofMap map).map ed25519
  | .rsa, map => (Rsa.PublicKey.ofMap map).map rsa

/-- Reads the map of a key; the registry says which kind a tag stands for. -/
def read (kinds : Registry KeyAlgorithm) (map : KeyMap) : Except KeyError PublicKey := do
  ofMap (← map.resolveKind kinds) map

/-- A short text that tells keys apart. -/
def describe : PublicKey → String
  | ecc key => key.describe
  | ed25519 key => key.describe
  | rsa key => key.describe

/-- Whether two keys have the same kind and the same bytes. -/
def same (a b : PublicKey) : Bool :=
  a.algorithm == b.algorithm && a.data == b.data

end PublicKey

/-- A key that signs. -/
inductive PrivateKey where
  | ecc (key : EccPrivateKey)
  | ed25519 (key : Ed25519PrivateKey)
  | rsa (key : Rsa.PrivateKey)
  deriving DecidableEq

namespace PrivateKey

/-- The kind of a key. -/
def algorithm : PrivateKey → KeyAlgorithm
  | ecc _ => .ecc
  | ed25519 _ => .ed25519
  | rsa _ => .rsa

/-- The signature of a message. -/
def sign : PrivateKey → Bytes → Bytes
  | ecc key => key.sign
  | ed25519 key => key.sign
  | rsa key => key.sign

/-- The public key that belongs to a private key. -/
def publicKey : PrivateKey → PublicKey
  | ecc key => .ecc key.publicKey
  | ed25519 key => .ed25519 key.publicKey
  | rsa key => .rsa key.publicKey

/-- The map of a key. -/
def toMap : PrivateKey → KeyMap
  | ecc key => key.toMap
  | ed25519 key => key.toMap
  | rsa key => key.toMap

/-- Reads the map of a key of a given kind. -/
def ofMap : KeyAlgorithm → KeyMap → Except KeyError PrivateKey
  | .ecc, map => (EccPrivateKey.ofMap map).map ecc
  | .ed25519, map => (Ed25519PrivateKey.ofMap map).map ed25519
  | .rsa, map => (Rsa.PrivateKey.ofMap map).map rsa

/-- Reads the map of a key; the registry says which kind a tag stands for. -/
def read (kinds : Registry KeyAlgorithm) (map : KeyMap) : Except KeyError PrivateKey := do
  ofMap (← map.resolveKind kinds) map

/-- A new key of a given kind. -/
def generate (algorithm : KeyAlgorithm) (source : Entropy) :
    Except KeyError PrivateKey × Entropy :=
  match algorithm with
  | .ecc => (EccPrivateKey.generate source).map (·.map ecc) id
  | .ed25519 => (Ed25519PrivateKey.generate source).map (·.map ed25519) id
  | .rsa => (Rsa.PrivateKey.new Rsa.newKeyBits source).map (·.map rsa) id

/-- A new key of the kind that the registry has for a tag. -/
def create (kinds : Registry KeyAlgorithm) (tag : String) (source : Entropy) :
    Except KeyError PrivateKey × Entropy :=
  match Table.get? tag kinds with
  | some algorithm => generate algorithm source
  | none => (.error (.unknownAlgorithm tag), source)

/-- A short text that tells keys apart and shows no secret. -/
def describe : PrivateKey → String
  | ecc key => key.describe
  | ed25519 key => key.describe
  | rsa key => key.describe

/-- The message that tells whether two keys belong together. -/
def probe : Bytes := Utf8.encode "Moky loves May Lee forever!"

/-- Whether a public key verifies what this key signs. -/
def fits (secret : PrivateKey) (key : PublicKey) : Bool :=
  secret.algorithm == key.algorithm && key.verify probe (secret.sign probe)

end PrivateKey

end SelfCert
