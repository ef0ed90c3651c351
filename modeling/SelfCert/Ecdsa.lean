import SelfCert.Curve.Secp256k1
import SelfCert.Der
import SelfCert.Digest.Sha256

/-!
# Signatures over secp256k1

A signature is a pair `(r, s)` of numbers between 1 and the order of the group, exclusively. It is
written as a sequence of two integers, with `s` in the lower half, and read from that form or as 64
bytes. Signing is deterministic: the secret multiplier comes from the key and the message by the
generator of RFC 6979. The message is hashed with SHA-256.
-/

namespace SelfCert.Ecdsa

open Secp256k1

/-- A pair of numbers; `isInRange` says whether it can be a signature. -/
structure Signature where
  r : Nat
  s : Nat
  deriving DecidableEq, Repr

/-- Whether a number is a unit modulo the order in its least form. -/
def isScalar (n : Nat) : Bool :=
  0 < n && n < order

/-- Whether both numbers are between 1 and the order. -/
def Signature.isInRange (sig : Signature) : Bool :=
  isScalar sig.r && isScalar sig.s

/-- The signature with `s` in the lower half; `s` and `order - s` belong to the same message. -/
def Signature.lower (sig : Signature) : Signature :=
  if order / 2 < sig.s then { sig with s := order - sig.s } else sig

/-! ### Byte forms -/

/-- The sequence of the two numbers. -/
def Signature.toDer (sig : Signature) : Bytes :=
  Der.sequence [Der.integer sig.r, Der.integer sig.s]

/-- The two numbers, 32 bytes each. -/
def Signature.toRaw (sig : Signature) : Bytes :=
  Bytes.ofNat 32 sig.r ++ Bytes.ofNat 32 sig.s

/-- The signature for two numbers in range. -/
def Signature.ofPair? (r s : Nat) : Option Signature :=
  let sig : Signature := ⟨r, s⟩
  if sig.isInRange then some sig else none

/-- Reads a sequence of two numbers. -/
def Signature.ofDer? (bytes : Bytes) : Option Signature :=
  match (Der.wholeSequence? bytes).bind (Der.naturals? 2) with
  | some [r, s] => ofPair? r s
  | _ => none

/-- Reads 64 bytes. -/
def Signature.ofRaw? (bytes : Bytes) : Option Signature :=
  if bytes.length = 64 then
    ofPair? (Bytes.toNat (bytes.take 32)) (Bytes.toNat (bytes.drop 32))
  else none

/-- Reads either form; a byte string that is both is read as the sequence. -/
def Signature.ofBytes? (bytes : Bytes) : Option Signature :=
  (ofDer? bytes).or (ofRaw? bytes)

/-! ### Verifying and signing -/

/-- The number a message is signed as. -/
def messageNumber (message : Bytes) : Nat :=
  (Sha256.digest message).toNat % order

/-- Whether a signature belongs to a message under a public point. -/
def verify (q : Point) (message : Bytes) (sig : Signature) : Bool :=
  let inverse := Modular.primeInverse order sig.s
  let u := messageNumber message * inverse % order
  let v := sig.r * inverse % order
  match ((generator.toJacobian.mul u).add (q.toJacobian.mul v)).toPoint? with
  | some point => point.x % order == sig.r
  | none => false

/-- The generator of multipliers: a key and a value. -/
structure Drbg where
  key : Bytes
  value : Bytes

/-- Mixes data into the generator. -/
def Drbg.update (g : Drbg) (mark : UInt8) (data : Bytes) : Drbg :=
  let key := Hmac.sha256 g.key (g.value ++ mark :: data)
  ⟨key, Hmac.sha256 key g.value⟩

/-- The generator for a secret number and a message. -/
def Drbg.start (secret : Nat) (message : Bytes) : Drbg :=
  let data := Bytes.ofNat 32 secret ++ Bytes.ofNat 32 (messageNumber message)
  let empty : Drbg := ⟨List.replicate 32 0, List.replicate 32 1⟩
  (empty.update 0 data).update 1 data

/-- The first candidate in range. All but about one in `2 ^ 128` are, so that a few tries are more
than enough. -/
def Drbg.scalar : Nat → Drbg → Nat
  | 0, _ => 1
  | tries + 1, g =>
    let value := Hmac.sha256 g.key g.value
    let k := value.toNat
    if isScalar k then k
    else scalar tries (Drbg.update ⟨g.key, value⟩ 0 [])

/-- The signature of a message under a secret number. -/
def sign (secret : Nat) (message : Bytes) : Signature :=
  let k := (Drbg.start secret message).scalar 16
  let r := match mulGenerator? k with
    | some point => point.x % order
    | none => 0
  let s := Modular.primeInverse order k * ((messageNumber message + r * secret) % order) % order
  Signature.lower ⟨r, s⟩

end SelfCert.Ecdsa
