import SelfCert.Cipher.Cbc
import SelfCert.Cipher.Gcm
import SelfCert.Codec.Base64
import SelfCert.Entropy
import SelfCert.Key.Basic

/-!
# Keys that seal messages

What a key seals it also opens. A key of AES seals in Galois counter mode, or in cipher block
chaining mode if it has a first block; the plain key leaves messages as they are.
-/

namespace SelfCert

/-- A key of AES with 256 bits. -/
@[ext]
structure AesKey where
  bytes : Bytes
  length_bytes : bytes.length = 32

instance : DecidableEq AesKey :=
  fun _ _ => decidable_of_iff _ AesKey.ext_iff.symm

/-- A key of AES and the first block of the chain. -/
structure AesCbcKey where
  key : AesKey
  iv : Bytes
  length_iv : iv.length = 16
  deriving DecidableEq

/-! ### AES in Galois counter mode -/

/-- The key of 32 bytes. -/
def AesKey.ofBytes (bytes : Bytes) : Except KeyError AesKey :=
  if h : bytes.length = 32 then .ok ⟨bytes, h⟩ else .error .dataLength

/-- The key that a Base64 text spells. -/
def AesKey.ofBase64 (text : String) : Except KeyError AesKey :=
  match Base64.decode? text with
  | some bytes => ofBytes bytes
  | none => .error .dataNotBase64

/-- A new key. -/
def AesKey.generate (source : Entropy) : AesKey × Entropy :=
  (⟨(source.take 32).1, Entropy.length_take 32 source⟩, (source.take 32).2)

/-- The map of a key. -/
def AesKey.toMap (key : AesKey) : KeyMap :=
  Table.ofList [("algorithm", .string CipherKind.aes.algorithm),
    ("data", .string (Base64.encode key.bytes))]

/-! ### AES in cipher block chaining mode -/

/-- The key of 32 bytes with a first block of 16 bytes. -/
def AesCbcKey.ofBytes (bytes iv : Bytes) : Except KeyError AesCbcKey := do
  let key ← AesKey.ofBytes bytes
  if h : iv.length = 16 then .ok ⟨key, iv, h⟩ else .error .ivLength

/-- The first block of the chain in the map of a key: zeros unless there is a text for it. -/
def AesCbcKey.ivOfMap (map : KeyMap) : Except KeyError Bytes :=
  match map.string? "iv" with
  | none => .ok (List.replicate 16 0)
  | some text =>
    if text.isEmpty then .ok (List.replicate 16 0)
    else
      match Base64.decode? text with
      | some iv => .ok iv
      | none => .error .ivNotBase64

/-- Reads the map of a key. -/
def AesCbcKey.ofMap (map : KeyMap) : Except KeyError AesCbcKey := do
  let text ← map.required "data"
  match Base64.decode? text with
  | none => .error .dataNotBase64
  | some bytes =>
    let iv ← ivOfMap map
    ofBytes bytes iv

/-- A new key. -/
def AesCbcKey.generate (source : Entropy) : AesCbcKey × Entropy :=
  let (key, source) := AesKey.generate source
  (⟨key, (source.take 16).1, Entropy.length_take 16 source⟩, (source.take 16).2)

/-- The map of a key. -/
def AesCbcKey.toMap (key : AesCbcKey) : KeyMap :=
  Table.ofList [("algorithm", .string CipherKind.aesCbc.algorithm), ("mode", .string "CBC"),
    ("padding", .string "PKCS7"), ("data", .string (Base64.encode key.key.bytes)),
    ("iv", .string (Base64.encode key.iv))]

/-! ### All kinds -/

/-- A key that seals messages. -/
inductive SymmetricKey where
  | aes (key : AesKey)
  | aesCbc (key : AesCbcKey)
  | plain
  deriving DecidableEq

namespace SymmetricKey

/-- The kind of a key. -/
def kind : SymmetricKey → CipherKind
  | aes _ => .aes
  | aesCbc _ => .aesCbc
  | plain => .plain

/-- The name of the algorithm in the map of a key. -/
def algorithm (key : SymmetricKey) : String := key.kind.algorithm

/-- The map of a key. -/
def toMap : SymmetricKey → KeyMap
  | aes key => key.toMap
  | aesCbc key => key.toMap
  | plain => Table.ofList [("algorithm", .string CipherKind.plain.algorithm)]

/-- Reads the map of a key of a given kind. A map with a field `iv` is one of a chaining key. -/
def ofMap : CipherKind → KeyMap → Except KeyError SymmetricKey
  | .aes, map =>
    if Table.contains "iv" map then (AesCbcKey.ofMap map).map aesCbc
    else do
      let key ← AesKey.ofBase64 (← map.required "data")
      return aes key
  | .aesCbc, map => (AesCbcKey.ofMap map).map aesCbc
  | .plain, _ => .ok plain

/-- Reads the map of a key; the registry says which kind a tag stands for. -/
def read (kinds : Registry CipherKind) (map : KeyMap) : Except KeyError SymmetricKey := do
  ofMap (← map.resolveKind kinds) map

/-- A new key of a given kind. -/
def generate (kind : CipherKind) (source : Entropy) : SymmetricKey × Entropy :=
  match kind with
  | .aes => (AesKey.generate source).map aes id
  | .aesCbc => (AesCbcKey.generate source).map aesCbc id
  | .plain => (plain, source)

/-- A new key of the kind that the registry has for a tag. -/
def create (kinds : Registry CipherKind) (tag : String) (source : Entropy) :
    Except KeyError SymmetricKey × Entropy :=
  match Table.get? tag kinds with
  | some kind => (generate kind source).map .ok id
  | none => (.error (.unknownAlgorithm tag), source)

/-- Whether a message is short enough for a key: in Galois counter mode there is a bound. -/
def admits (key : SymmetricKey) (message : Bytes) : Bool :=
  key.kind ≠ .aes || message.length ≤ Gcm.maxLength

/-- What a key makes of a message; Galois counter mode takes its nonce from the source. -/
def encrypt (key : SymmetricKey) (message : Bytes) (source : Entropy) : Bytes × Entropy :=
  match key with
  | aes key =>
    let (nonce, rest) := source.take Gcm.nonceLength
    (Gcm.encrypt key.bytes nonce message, rest)
  | aesCbc key => (Cbc.encrypt key.key.bytes key.iv message, source)
  | plain => (message, source)

/-- Seals a message, unless it is too long. The nonce is taken from the source in any case. -/
def tryEncrypt (key : SymmetricKey) (message : Bytes) (source : Entropy) :
    Except KeyError Bytes × Entropy :=
  let (sealedMessage, rest) := key.encrypt message source
  (if key.admits message then .ok sealedMessage else .error .encryptionFailed, rest)

/-- Opens a sealed message. -/
def decrypt (key : SymmetricKey) (sealedMessage : Bytes) : Except KeyError Bytes :=
  let opened : Option Bytes :=
    match key with
    | aes key => Gcm.decrypt? key.bytes sealedMessage
    | aesCbc key => Cbc.decrypt? key.key.bytes key.iv sealedMessage
    | plain => some sealedMessage
  match opened with
  | some message => .ok message
  | none => .error .decryptionFailed

/-- The kind of a key in words, without its secret. -/
def describe : SymmetricKey → String
  | aes _ => "AesKey(***)"
  | aesCbc _ => "AesCbcKey(***)"
  | plain => "PlainKey"

end SymmetricKey

end SelfCert
