import SelfCert.Bytes
import SelfCert.Digest.Sha256
import SelfCert.Number.Modular

/-!
# RSA signatures

Signatures with the padding of PKCS #1 version 1.5 over SHA-256. A signature is as long as the
modulus, and the padded digest has to fit: a modulus of fewer than 62 bytes cannot sign, and its
signatures are empty, so that they verify against nothing.
-/

namespace SelfCert.Rsa

/-- A modulus and an exponent. -/
structure PublicKey where
  modulus : Nat
  exponent : Nat
  deriving DecidableEq, Repr

/-- The number of bytes of the modulus. -/
def PublicKey.size (key : PublicKey) : Nat :=
  Bytes.width key.modulus

/-- The size of the modulus in bits, counted in whole bytes. -/
def PublicKey.bits (key : PublicKey) : Nat :=
  key.size * 8

/-- The greatest size of a public modulus in bits. -/
def maxModulusBits : Nat := 4096

/-- Whether modulus and exponent can be a key: the modulus is odd, and the exponent is odd, at least
3, below `2 ^ 33` and below the modulus. -/
def PublicKey.isSound (key : PublicKey) : Bool :=
  key.modulus % 2 == 1 && key.exponent < key.modulus && key.exponent % 2 == 1 &&
    3 ≤ key.exponent && key.exponent < 2 ^ 33

/-- Whether a sound key may also be received from others: its size is limited. -/
def PublicKey.isAcceptable (key : PublicKey) : Bool :=
  key.isSound && key.modulus < 2 ^ maxModulusBits

/-- A private key: the exponent that undoes the public one and the two factors of the modulus, with
the inverse of the second factor modulo the first. -/
structure PrivateKey where
  publicKey : PublicKey
  secret : Nat
  first : Nat
  second : Nat
  coefficient : Nat
  deriving DecidableEq, Repr

/-- The exponent modulo one less than a factor. -/
def PrivateKey.reduced (key : PrivateKey) (factor : Nat) : Nat :=
  key.secret % (factor - 1)

/-- The private key of given numbers, if they fit together: the public part is sound, the factors
multiply to the modulus, and the two exponents cancel modulo one less than each factor. -/
def PrivateKey.ofNumbers? (publicKey : PublicKey) (secret first second : Nat) : Option PrivateKey :=
  let cancels (factor : Nat) : Bool := publicKey.exponent * secret % (factor - 1) == 1
  if publicKey.isSound && first * second == publicKey.modulus && cancels first &&
      cancels second then
    (Modular.inverse? first second).map fun coefficient =>
      ⟨publicKey, secret, first, second, coefficient⟩
  else none

/-! ### Padding -/

/-- What stands in front of a SHA-256 digest: the distinguished encoding of its kind and length. -/
def digestMark : Bytes :=
  [0x30, 0x31, 0x30, 0x0d, 0x06, 0x09, 0x60, 0x86, 0x48, 0x01, 0x65, 0x03, 0x04, 0x02, 0x01, 0x05,
    0x00, 0x04, 0x20]

/-- The padded digest of a message for a modulus of `size` bytes, if it fits: `00 01`, at least
eight bytes `FF`, `00`, the mark and the digest. -/
def padded? (size : Nat) (message : Bytes) : Option Bytes :=
  let tail := digestMark ++ Sha256.digest message
  if size < tail.length + 11 then none
  else some (0x00 :: 0x01 :: List.replicate (size - tail.length - 3) 0xff ++ 0x00 :: tail)

/-! ### Signing and verifying -/

/-- The power of a number by the secret exponent, computed modulo the factors and put together. -/
def PrivateKey.power (key : PrivateKey) (n : Nat) : Nat :=
  let m := Modular.pow key.first n (key.reduced key.first)
  let m' := Modular.pow key.second n (key.reduced key.second)
  let difference := (m + (key.first - m' % key.first)) % key.first
  difference * key.coefficient % key.first * key.second + m'

/-- The signature of a message; empty if the padded digest does not fit, or if the power does not
lead back to it. -/
def PrivateKey.sign (key : PrivateKey) (message : Bytes) : Bytes :=
  match padded? key.publicKey.size message with
  | none => []
  | some padded =>
    let n := Bytes.toNat padded
    let signature := key.power n
    if Modular.pow key.publicKey.modulus signature key.publicKey.exponent = n then
      Bytes.ofNat key.publicKey.size signature
    else []

/-- Whether a signature belongs to a message. -/
def PublicKey.verify (key : PublicKey) (message signature : Bytes) : Bool :=
  match padded? key.size message with
  | none => false
  | some padded =>
    let n := Bytes.toNat signature
    signature.length == key.size && n < key.modulus &&
      Bytes.ofNat key.size (Modular.pow key.modulus n key.exponent) == padded

/-- A modulus that is too small for the padding verifies nothing. -/
theorem PublicKey.verify_eq_false_of_size_lt {key : PublicKey} (h : key.size < 62)
    (message signature : Bytes) : key.verify message signature = false := by
  simp [verify, padded?, digestMark, h]

/-- A modulus that is too small for the padding signs with nothing. -/
theorem PrivateKey.sign_eq_nil_of_size_lt {key : PrivateKey} (h : key.publicKey.size < 62)
    (message : Bytes) : key.sign message = [] := by
  simp [sign, padded?, digestMark, h]

end SelfCert.Rsa
