import SelfCert.Json.Basic
import SelfCert.Number.Radix
import SelfCert.Registry

/-!
# Keys as maps

A key travels as a map whose `algorithm` names its kind and whose `data` holds its text. This module
names the kinds of keys and what can be wrong with the map of one.
-/

namespace SelfCert

/-- The kinds of keys that sign. -/
inductive KeyAlgorithm where
  /-- A point of secp256k1. -/
  | ecc
  /-- A point of the Edwards curve of RFC 8032. -/
  | ed25519
  /-- A modulus and an exponent. -/
  | rsa
  deriving DecidableEq, Repr

/-- The tag of a kind of key. -/
def KeyAlgorithm.tag : KeyAlgorithm → String
  | ecc => "ECC"
  | ed25519 => "Ed25519"
  | rsa => "RSA"

/-- The ways to seal messages. -/
inductive CipherKind where
  /-- AES in Galois counter mode. -/
  | aes
  /-- AES in cipher block chaining mode. -/
  | aesCbc
  /-- No sealing at all. -/
  | plain
  deriving DecidableEq, Repr

/-- The tag a way to seal messages is found under. -/
def CipherKind.tag : CipherKind → String
  | aes => "AES"
  | aesCbc => "AES/CBC/PKCS7Padding"
  | plain => "PLAIN"

/-- The name of the algorithm in the map of a key. -/
def CipherKind.algorithm : CipherKind → String
  | aes => "AES"
  | aesCbc => "AES"
  | plain => "PLAIN"

/-- Why a key was refused. -/
inductive KeyError where
  /-- No kind of key is registered for this tag. -/
  | unknownAlgorithm (tag : String)
  /-- The map has no text, or an empty one, in this field. -/
  | missingField (name : String)
  /-- The text of a point is neither of the two lengths. -/
  | pointLength (length : Nat)
  /-- The text of a symmetric key is not Base64. -/
  | dataNotBase64
  /-- The text of a first block is not Base64. -/
  | ivNotBase64
  /-- A symmetric key has the wrong length. -/
  | dataLength
  /-- A first block has the wrong length. -/
  | ivLength
  /-- The text holds no block of a public key. -/
  | noPublicBlock
  /-- The text holds no block of a private key. -/
  | noPrivateBlock
  /-- The bytes are no private key. -/
  | invalidSecretKey
  /-- The bytes are no public key. -/
  | invalidPublicKey
  /-- No key of this size could be made. -/
  | generationFailed
  /-- The message is too long to be sealed. -/
  | encryptionFailed
  /-- The sealed message does not open. -/
  | decryptionFailed
  deriving DecidableEq, Repr

/-- The text of an error. -/
def KeyError.message : KeyError → String
  | unknownAlgorithm tag => "unknown key algorithm: " ++ tag
  | missingField name => "malformed key map: missing '" ++ name ++ "' field"
  | pointLength length =>
    "malformed key map: ECC public key must be 66 or 130 hex digits, got " ++
      Radix.decimalString length
  | dataNotBase64 => "malformed key map: AES key data is not base64"
  | ivNotBase64 => "malformed key map: AES IV is not base64"
  | dataLength => "malformed key map: AES key must be 32 bytes"
  | ivLength => "malformed key map: AES IV must be 16 bytes"
  | noPublicBlock => "malformed key map: no RSA public key PEM block"
  | noPrivateBlock => "malformed key map: no RSA private key PEM block"
  | invalidSecretKey => "invalid secret key bytes"
  | invalidPublicKey => "invalid public key bytes"
  | generationFailed => "key generation failed"
  | encryptionFailed => "encryption failed"
  | decryptionFailed => "decryption failed -- wrong key or corrupted ciphertext"

/-- The map of a key. -/
abbrev KeyMap := Json.Object

/-- The text of a field, which must not be empty. -/
def KeyMap.required (map : KeyMap) (field : String) : Except KeyError String :=
  match map.string? field with
  | some text => if text.isEmpty then .error (.missingField field) else .ok text
  | none => .error (.missingField field)

/-- What the registry has for the algorithm of a map. -/
def KeyMap.resolveKind {α : Type} (map : KeyMap) (kinds : Registry α) : Except KeyError α :=
  match kinds.resolveAny (map.string? "algorithm"), map.string? "algorithm" with
  | some kind, _ => .ok kind
  | none, some tag => .error (.unknownAlgorithm tag)
  | none, none => .error (.missingField "algorithm")

end SelfCert
