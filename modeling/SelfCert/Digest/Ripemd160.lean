import SelfCert.Digest.Sha256

/-!
# RIPEMD-160

Two lines of eighty steps run side by side over each block of 64 bytes, on little-endian 32-bit
words; their results are added crosswise into the state. The digest of a key, the twenty bytes a
Base58Check address is made of, is that of its SHA-256 digest (`Digest.hash160`).
-/

namespace SelfCert.Ripemd160

/-- The five words between steps. -/
structure State where
  a : UInt32
  b : UInt32
  c : UInt32
  d : UInt32
  e : UInt32

/-- The state before the first block. -/
def start : State :=
  ⟨0x67452301, 0xefcdab89, 0x98badcfe, 0x10325476, 0xc3d2e1f0⟩

/-- What a line does in its eighty steps: the index of the message word and the rotation. -/
structure Line where
  /-- For each group of sixteen steps its bitwise function and its constant. -/
  groups : List ((UInt32 → UInt32 → UInt32 → UInt32) × UInt32)
  /-- For each step the index of the message word. -/
  order : List Nat
  /-- For each step the number of bits to rotate by. -/
  shifts : List UInt32

/-- The five bitwise functions, in the order of the left line. -/
def functions : List (UInt32 → UInt32 → UInt32 → UInt32) :=
  [fun x y z => x ^^^ y ^^^ z,
    fun x y z => (x &&& y) ||| (~~~x &&& z),
    fun x y z => (x ||| ~~~y) ^^^ z,
    fun x y z => (x &&& z) ||| (y &&& ~~~z),
    fun x y z => x ^^^ (y ||| ~~~z)]

/-- The left line. -/
def left : Line where
  groups := functions.zip [0x00000000, 0x5a827999, 0x6ed9eba1, 0x8f1bbcdc, 0xa953fd4e]
  order :=
    [0, 1, 2, 3, 4, 5, 6, 7, 8, 9, 10, 11, 12, 13, 14, 15,
      7, 4, 13, 1, 10, 6, 15, 3, 12, 0, 9, 5, 2, 14, 11, 8,
      3, 10, 14, 4, 9, 15, 8, 1, 2, 7, 0, 6, 13, 11, 5, 12,
      1, 9, 11, 10, 0, 8, 12, 4, 13, 3, 7, 15, 14, 5, 6, 2,
      4, 0, 5, 9, 7, 12, 2, 10, 14, 1, 3, 8, 11, 6, 15, 13]
  shifts :=
    [11, 14, 15, 12, 5, 8, 7, 9, 11, 13, 14, 15, 6, 7, 9, 8,
      7, 6, 8, 13, 11, 9, 7, 15, 7, 12, 15, 9, 11, 7, 13, 12,
      11, 13, 6, 7, 14, 9, 13, 15, 14, 8, 13, 6, 5, 12, 7, 5,
      11, 12, 14, 15, 14, 15, 9, 8, 9, 14, 5, 6, 8, 6, 5, 12,
      9, 15, 5, 11, 6, 8, 13, 12, 5, 12, 13, 14, 11, 8, 5, 6]

/-- The right line; it takes the functions in reverse. -/
def right : Line where
  groups := functions.reverse.zip [0x50a28be6, 0x5c4dd124, 0x6d703ef3, 0x7a6d76e9, 0x00000000]
  order :=
    [5, 14, 7, 0, 9, 2, 11, 4, 13, 6, 15, 8, 1, 10, 3, 12,
      6, 11, 3, 7, 0, 13, 5, 10, 14, 15, 8, 12, 4, 9, 1, 2,
      15, 5, 1, 3, 7, 14, 6, 9, 11, 8, 12, 2, 10, 0, 4, 13,
      8, 6, 4, 1, 3, 11, 15, 0, 5, 12, 2, 13, 9, 7, 10, 14,
      12, 15, 10, 4, 1, 5, 8, 7, 6, 2, 13, 14, 0, 3, 9, 11]
  shifts :=
    [8, 9, 9, 11, 13, 15, 15, 5, 7, 7, 8, 11, 14, 14, 12, 6,
      9, 13, 15, 7, 12, 8, 9, 11, 7, 7, 12, 7, 6, 15, 13, 11,
      9, 7, 15, 11, 8, 6, 6, 14, 12, 13, 5, 14, 13, 13, 7, 5,
      15, 5, 8, 11, 14, 14, 6, 14, 6, 9, 12, 9, 12, 5, 15, 8,
      8, 5, 12, 9, 12, 5, 14, 6, 8, 13, 6, 5, 15, 13, 11, 11]

/-- Rotates a word to the left; `n` is between 1 and 31. -/
def rotl (x : UInt32) (n : UInt32) : UInt32 :=
  (x <<< n) ||| (x >>> (32 - n))

/-- One step of a line. -/
def step (function : UInt32 → UInt32 → UInt32 → UInt32) (constant word shift : UInt32)
    (s : State) : State :=
  let t := rotl (s.a + function s.b s.c s.d + word + constant) shift + s.e
  ⟨s.e, t, s.b, rotl s.c 10, s.d⟩

/-- The eighty steps of a line over the words of a block. -/
def Line.run (line : Line) (words : List UInt32) (s : State) : State :=
  let each := line.groups.flatMap (List.replicate 16)
  (each.zip (line.order.zip line.shifts)).foldl
    (fun s step => Ripemd160.step step.1.1 step.1.2 (words.getD step.2.1 0) step.2.2 s) s

/-- The words of a block, four bytes each, least significant byte first. -/
def words : Bytes → List UInt32
  | a :: b :: c :: d :: rest =>
    (a.toUInt32 ||| (b.toUInt32 <<< 8) ||| (c.toUInt32 <<< 16) ||| (d.toUInt32 <<< 24)) ::
      words rest
  | _ => []

/-- Takes one block into the state. -/
def compress (s : State) (block : Bytes) : State :=
  let l := left.run (words block) s
  let r := right.run (words block) s
  ⟨s.b + l.c + r.d, s.c + l.d + r.e, s.d + l.e + r.a, s.e + l.a + r.b, s.a + l.b + r.c⟩

/-- The four bytes of a word, least significant first. -/
def wordBytes (w : UInt32) : Bytes :=
  [w.toUInt8, (w >>> 8).toUInt8, (w >>> 16).toUInt8, (w >>> 24).toUInt8]

/-- The twenty bytes of a state. -/
def State.toBytes (s : State) : Bytes :=
  [s.a, s.b, s.c, s.d, s.e].flatMap wordBytes

/-- The RIPEMD-160 digest of a message. -/
def digest (message : Bytes) : Bytes :=
  ((Bytes.blocks 64 (Digest.padded 64 (Bytes.ofNatLittle 8) message)).foldl compress
    start).toBytes

/-- Every digest has twenty bytes. -/
@[simp] theorem length_digest (message : Bytes) : (digest message).length = 20 := by
  simp [digest, State.toBytes, wordBytes]

end SelfCert.Ripemd160

/-! ### The digest of a key -/

namespace SelfCert.Digest

/-- The RIPEMD-160 digest of the SHA-256 digest. -/
def hash160 (data : Bytes) : Bytes :=
  Ripemd160.digest (Sha256.digest data)

@[simp] theorem length_hash160 (data : Bytes) : (hash160 data).length = 20 :=
  Ripemd160.length_digest _

end SelfCert.Digest
