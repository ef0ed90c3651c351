import SelfCert.Bytes

/-!
# SHA-256

The hash of FIPS 180-4 with 32-bit words. The message schedule is kept as the window of the last
sixteen words, and each round moves the window on by one word. HMAC is the keyed hash of RFC 2104
over it.

The hash functions of the SHA-2 family and RIPEMD-160 work on whole blocks: a message is followed
by the byte `0x80`, by as few zeros as possible and by its length in bits, so that a whole number of
blocks comes out (`Digest.padded`).
-/

/-! ### Padding -/

namespace SelfCert.Digest

/-- The number of zeros that fill a message of `size` bytes, the mark `0x80` and a length field of
`field` bytes up to whole blocks of `block` bytes. -/
def zeros (block field size : Nat) : Nat :=
  (block - (size + 1 + field) % block) % block

/-- A message with its padding in front of the length field. -/
def padded (block : Nat) (lengthField : Nat → Bytes) (message : Bytes) : Bytes :=
  let field := lengthField (8 * message.length)
  message ++ 0x80 :: List.replicate (zeros block field.length message.length) 0 ++ field

end SelfCert.Digest

/-! ### The hash -/

namespace SelfCert.Sha256

/-- The eight words between rounds. -/
structure State where
  a : UInt32
  b : UInt32
  c : UInt32
  d : UInt32
  e : UInt32
  f : UInt32
  g : UInt32
  h : UInt32

/-- The state before the first block. -/
def start : State :=
  ⟨0x6a09e667, 0xbb67ae85, 0x3c6ef372, 0xa54ff53a, 0x510e527f, 0x9b05688c, 0x1f83d9ab, 0x5be0cd19⟩

/-- The constants of the sixty-four rounds. -/
def constants : List UInt32 :=
  [0x428a2f98, 0x71374491, 0xb5c0fbcf, 0xe9b5dba5, 0x3956c25b, 0x59f111f1, 0x923f82a4, 0xab1c5ed5,
    0xd807aa98, 0x12835b01, 0x243185be, 0x550c7dc3, 0x72be5d74, 0x80deb1fe, 0x9bdc06a7, 0xc19bf174,
    0xe49b69c1, 0xefbe4786, 0x0fc19dc6, 0x240ca1cc, 0x2de92c6f, 0x4a7484aa, 0x5cb0a9dc, 0x76f988da,
    0x983e5152, 0xa831c66d, 0xb00327c8, 0xbf597fc7, 0xc6e00bf3, 0xd5a79147, 0x06ca6351, 0x14292967,
    0x27b70a85, 0x2e1b2138, 0x4d2c6dfc, 0x53380d13, 0x650a7354, 0x766a0abb, 0x81c2c92e, 0x92722c85,
    0xa2bfe8a1, 0xa81a664b, 0xc24b8b70, 0xc76c51a3, 0xd192e819, 0xd6990624, 0xf40e3585, 0x106aa070,
    0x19a4c116, 0x1e376c08, 0x2748774c, 0x34b0bcb5, 0x391c0cb3, 0x4ed8aa4a, 0x5b9cca4f, 0x682e6ff3,
    0x748f82ee, 0x78a5636f, 0x84c87814, 0x8cc70208, 0x90befffa, 0xa4506ceb, 0xbef9a3f7, 0xc67178f2]

/-- Rotates a word to the right; `n` is between 1 and 31. -/
def rotr (x : UInt32) (n : UInt32) : UInt32 :=
  (x >>> n) ||| (x <<< (32 - n))

/-- Mixes one schedule word and one constant into the state. -/
def round (s : State) (constant word : UInt32) : State :=
  let choice := (s.e &&& s.f) ^^^ (~~~s.e &&& s.g)
  let majority := (s.a &&& s.b) ^^^ (s.a &&& s.c) ^^^ (s.b &&& s.c)
  let t1 := s.h + (rotr s.e 6 ^^^ rotr s.e 11 ^^^ rotr s.e 25) + choice + constant + word
  let t2 := (rotr s.a 2 ^^^ rotr s.a 13 ^^^ rotr s.a 22) + majority
  ⟨t1 + t2, s.a, s.b, s.c, s.d + t1, s.e, s.f, s.g⟩

/-- The schedule word after a window of sixteen. -/
def nextWord (window : List UInt32) : UInt32 :=
  let w1 := window.getD 1 0
  let w14 := window.getD 14 0
  window.getD 0 0 + (rotr w1 7 ^^^ rotr w1 18 ^^^ (w1 >>> 3)) + window.getD 9 0 +
    (rotr w14 17 ^^^ rotr w14 19 ^^^ (w14 >>> 10))

/-- One round for each constant, the window moving along. -/
def rounds : List UInt32 → List UInt32 → State → State
  | [], _, s => s
  | constant :: more, window, s =>
    rounds more (window.tail ++ [nextWord window]) (round s constant (window.headD 0))

/-- The words of a block, four bytes each. -/
def words : Bytes → List UInt32
  | a :: b :: c :: d :: rest =>
    ((a.toUInt32 <<< 24) ||| (b.toUInt32 <<< 16) ||| (c.toUInt32 <<< 8) ||| d.toUInt32) ::
      words rest
  | _ => []

/-- Takes one block into the state. -/
def compress (s : State) (block : Bytes) : State :=
  let t := rounds constants (words block) s
  ⟨s.a + t.a, s.b + t.b, s.c + t.c, s.d + t.d, s.e + t.e, s.f + t.f, s.g + t.g, s.h + t.h⟩

/-- The four bytes of a word. -/
def wordBytes (w : UInt32) : Bytes :=
  [(w >>> 24).toUInt8, (w >>> 16).toUInt8, (w >>> 8).toUInt8, w.toUInt8]

/-- The thirty-two bytes of a state. -/
def State.toBytes (s : State) : Bytes :=
  [s.a, s.b, s.c, s.d, s.e, s.f, s.g, s.h].flatMap wordBytes

/-- The SHA-256 digest of a message. -/
def digest (message : Bytes) : Bytes :=
  ((Bytes.blocks 64 (Digest.padded 64 (Bytes.ofNat 8) message)).foldl compress start).toBytes

/-- The digest of the digest. -/
def double (message : Bytes) : Bytes :=
  digest (digest message)

/-- Every digest has thirty-two bytes. -/
@[simp] theorem length_digest (message : Bytes) : (digest message).length = 32 := by
  simp [digest, State.toBytes, wordBytes]

@[simp] theorem length_double (message : Bytes) : (double message).length = 32 :=
  length_digest _

end SelfCert.Sha256

/-! ### The keyed hash -/

namespace SelfCert.Hmac

/-- A key of exactly one block, which has 64 bytes: long keys are hashed, short ones filled up with
zeros. -/
def blockKey (key : Bytes) : Bytes :=
  let short := if key.length > 64 then Sha256.digest key else key
  short ++ List.replicate (64 - short.length) 0

/-- The HMAC of a message under a key. -/
def sha256 (key message : Bytes) : Bytes :=
  let block := blockKey key
  let inner := Sha256.digest (block.map (· ^^^ 0x36) ++ message)
  Sha256.digest (block.map (· ^^^ 0x5c) ++ inner)

end SelfCert.Hmac
