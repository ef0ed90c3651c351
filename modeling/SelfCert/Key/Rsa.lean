import SelfCert.Codec.Hex
import SelfCert.Key.Basic
import SelfCert.Rsa.Generate
import SelfCert.Rsa.Wire

/-!
# RSA keys as maps

The text of a public key is one block and the text of a private key is the block of its public key
followed by its own. Other text around the blocks does not count.
-/

namespace SelfCert.Rsa

/-- The map of a key given by its text. -/
def mapOf (data : String) : KeyMap :=
  Table.ofList [("algorithm", .string KeyAlgorithm.rsa.tag), ("data", .string data),
    ("mode", .string "ECB"), ("padding", .string "PKCS1"), ("digest", .string "SHA256")]

/-! ### Public keys -/

/-- The public key whose block is found in a text. -/
def PublicKey.ofText (text : String) : Except KeyError PublicKey :=
  let read? : Option (Option PublicKey) :=
    match Pem.find? "PUBLIC KEY" text with
    | some inner => some ((Pem.decode? inner).bind ofDer?)
    | none => (Pem.find? "RSA PUBLIC KEY" text).map fun inner => (Pem.decode? inner).bind ofNumbers?
  match read? with
  | none => .error .noPublicBlock
  | some none => .error .invalidPublicKey
  | some (some key) => .ok key

/-- The map of a public key. -/
def PublicKey.toMap (key : PublicKey) : KeyMap := mapOf key.toPem

/-- Reads the map of a public key. -/
def PublicKey.ofMap (map : KeyMap) : Except KeyError PublicKey := do
  ofText (← map.required "data")

/-- A short text that tells keys apart. -/
def PublicKey.describe (key : PublicKey) : String :=
  "RsaPublicKey(" ++ Radix.decimalString key.bits ++ " bits, " ++
    String.ofList ((Hex.digits key.toDer).take 16) ++ ")"

/-! ### Private keys -/

/-- A private key whose block can be written. -/
def PrivateKey.checked (key : PrivateKey) : Except KeyError PrivateKey :=
  if key.isWritable then .ok key else .error .invalidSecretKey

/-- The private key whose block is found in a text. -/
def PrivateKey.ofText (text : String) : Except KeyError PrivateKey :=
  let read? : Option (Option PrivateKey) :=
    match Pem.find? "RSA PRIVATE KEY" text with
    | some inner => some ((Pem.decode? inner).bind ofDer?)
    | none => (Pem.find? "PRIVATE KEY" text).map fun inner => (Pem.decode? inner).bind ofKindDer?
  match read? with
  | none => .error .noPrivateBlock
  | some none => .error .invalidSecretKey
  | some (some key) => key.checked

/-- The size of new keys in bits. -/
def newKeyBits : Nat := 1024

/-- A new private key of a given size. -/
def PrivateKey.new (bits : Nat) (source : Entropy) : Except KeyError PrivateKey × Entropy :=
  match generate bits source with
  | (some key, rest) => (key.checked, rest)
  | (none, rest) => (.error .generationFailed, rest)

/-- The map of a private key. -/
def PrivateKey.toMap (key : PrivateKey) : KeyMap :=
  mapOf (key.publicKey.toPem ++ "\r\n" ++ key.toPem)

/-- Reads the map of a private key. -/
def PrivateKey.ofMap (map : KeyMap) : Except KeyError PrivateKey := do
  ofText (← map.required "data")

/-- A short text that tells keys apart and shows no secret. -/
def PrivateKey.describe (key : PrivateKey) : String :=
  "RsaPrivateKey(pub=" ++ key.publicKey.describe ++ ")"

end SelfCert.Rsa
