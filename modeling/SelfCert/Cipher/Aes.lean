import SelfCert.Bytes

/-!
# The block cipher AES with keys of 256 bits

A block is four columns of four bytes. Encryption adds a round key, and then fourteen times
substitutes the bytes, shifts the rows, mixes the columns (but for the last time) and adds the next
round key; decryption undoes the steps in reverse.
-/

namespace SelfCert.Aes

/-- A column of four bytes. -/
structure Column where
  a : UInt8
  b : UInt8
  c : UInt8
  d : UInt8
  deriving DecidableEq, Repr

/-- A block of four columns. -/
structure Block where
  c0 : Column
  c1 : Column
  c2 : Column
  c3 : Column
  deriving DecidableEq, Repr

/-! ### Bytes -/

/-- What each byte is substituted with. -/
def substitution : Array UInt8 :=
  #[0x63, 0x7c, 0x77, 0x7b, 0xf2, 0x6b, 0x6f, 0xc5, 0x30, 0x01, 0x67, 0x2b, 0xfe, 0xd7, 0xab, 0x76,
    0xca, 0x82, 0xc9, 0x7d, 0xfa, 0x59, 0x47, 0xf0, 0xad, 0xd4, 0xa2, 0xaf, 0x9c, 0xa4, 0x72, 0xc0,
    0xb7, 0xfd, 0x93, 0x26, 0x36, 0x3f, 0xf7, 0xcc, 0x34, 0xa5, 0xe5, 0xf1, 0x71, 0xd8, 0x31, 0x15,
    0x04, 0xc7, 0x23, 0xc3, 0x18, 0x96, 0x05, 0x9a, 0x07, 0x12, 0x80, 0xe2, 0xeb, 0x27, 0xb2, 0x75,
    0x09, 0x83, 0x2c, 0x1a, 0x1b, 0x6e, 0x5a, 0xa0, 0x52, 0x3b, 0xd6, 0xb3, 0x29, 0xe3, 0x2f, 0x84,
    0x53, 0xd1, 0x00, 0xed, 0x20, 0xfc, 0xb1, 0x5b, 0x6a, 0xcb, 0xbe, 0x39, 0x4a, 0x4c, 0x58, 0xcf,
    0xd0, 0xef, 0xaa, 0xfb, 0x43, 0x4d, 0x33, 0x85, 0x45, 0xf9, 0x02, 0x7f, 0x50, 0x3c, 0x9f, 0xa8,
    0x51, 0xa3, 0x40, 0x8f, 0x92, 0x9d, 0x38, 0xf5, 0xbc, 0xb6, 0xda, 0x21, 0x10, 0xff, 0xf3, 0xd2,
    0xcd, 0x0c, 0x13, 0xec, 0x5f, 0x97, 0x44, 0x17, 0xc4, 0xa7, 0x7e, 0x3d, 0x64, 0x5d, 0x19, 0x73,
    0x60, 0x81, 0x4f, 0xdc, 0x22, 0x2a, 0x90, 0x88, 0x46, 0xee, 0xb8, 0x14, 0xde, 0x5e, 0x0b, 0xdb,
    0xe0, 0x32, 0x3a, 0x0a, 0x49, 0x06, 0x24, 0x5c, 0xc2, 0xd3, 0xac, 0x62, 0x91, 0x95, 0xe4, 0x79,
    0xe7, 0xc8, 0x37, 0x6d, 0x8d, 0xd5, 0x4e, 0xa9, 0x6c, 0x56, 0xf4, 0xea, 0x65, 0x7a, 0xae, 0x08,
    0xba, 0x78, 0x25, 0x2e, 0x1c, 0xa6, 0xb4, 0xc6, 0xe8, 0xdd, 0x74, 0x1f, 0x4b, 0xbd, 0x8b, 0x8a,
    0x70, 0x3e, 0xb5, 0x66, 0x48, 0x03, 0xf6, 0x0e, 0x61, 0x35, 0x57, 0xb9, 0x86, 0xc1, 0x1d, 0x9e,
    0xe1, 0xf8, 0x98, 0x11, 0x69, 0xd9, 0x8e, 0x94, 0x9b, 0x1e, 0x87, 0xe9, 0xce, 0x55, 0x28, 0xdf,
    0x8c, 0xa1, 0x89, 0x0d, 0xbf, 0xe6, 0x42, 0x68, 0x41, 0x99, 0x2d, 0x0f, 0xb0, 0x54, 0xbb, 0x16]

/-- The substitution undone. -/
def inverseSubstitution : Array UInt8 :=
  #[0x52, 0x09, 0x6a, 0xd5, 0x30, 0x36, 0xa5, 0x38, 0xbf, 0x40, 0xa3, 0x9e, 0x81, 0xf3, 0xd7, 0xfb,
    0x7c, 0xe3, 0x39, 0x82, 0x9b, 0x2f, 0xff, 0x87, 0x34, 0x8e, 0x43, 0x44, 0xc4, 0xde, 0xe9, 0xcb,
    0x54, 0x7b, 0x94, 0x32, 0xa6, 0xc2, 0x23, 0x3d, 0xee, 0x4c, 0x95, 0x0b, 0x42, 0xfa, 0xc3, 0x4e,
    0x08, 0x2e, 0xa1, 0x66, 0x28, 0xd9, 0x24, 0xb2, 0x76, 0x5b, 0xa2, 0x49, 0x6d, 0x8b, 0xd1, 0x25,
    0x72, 0xf8, 0xf6, 0x64, 0x86, 0x68, 0x98, 0x16, 0xd4, 0xa4, 0x5c, 0xcc, 0x5d, 0x65, 0xb6, 0x92,
    0x6c, 0x70, 0x48, 0x50, 0xfd, 0xed, 0xb9, 0xda, 0x5e, 0x15, 0x46, 0x57, 0xa7, 0x8d, 0x9d, 0x84,
    0x90, 0xd8, 0xab, 0x00, 0x8c, 0xbc, 0xd3, 0x0a, 0xf7, 0xe4, 0x58, 0x05, 0xb8, 0xb3, 0x45, 0x06,
    0xd0, 0x2c, 0x1e, 0x8f, 0xca, 0x3f, 0x0f, 0x02, 0xc1, 0xaf, 0xbd, 0x03, 0x01, 0x13, 0x8a, 0x6b,
    0x3a, 0x91, 0x11, 0x41, 0x4f, 0x67, 0xdc, 0xea, 0x97, 0xf2, 0xcf, 0xce, 0xf0, 0xb4, 0xe6, 0x73,
    0x96, 0xac, 0x74, 0x22, 0xe7, 0xad, 0x35, 0x85, 0xe2, 0xf9, 0x37, 0xe8, 0x1c, 0x75, 0xdf, 0x6e,
    0x47, 0xf1, 0x1a, 0x71, 0x1d, 0x29, 0xc5, 0x89, 0x6f, 0xb7, 0x62, 0x0e, 0xaa, 0x18, 0xbe, 0x1b,
    0xfc, 0x56, 0x3e, 0x4b, 0xc6, 0xd2, 0x79, 0x20, 0x9a, 0xdb, 0xc0, 0xfe, 0x78, 0xcd, 0x5a, 0xf4,
    0x1f, 0xdd, 0xa8, 0x33, 0x88, 0x07, 0xc7, 0x31, 0xb1, 0x12, 0x10, 0x59, 0x27, 0x80, 0xec, 0x5f,
    0x60, 0x51, 0x7f, 0xa9, 0x19, 0xb5, 0x4a, 0x0d, 0x2d, 0xe5, 0x7a, 0x9f, 0x93, 0xc9, 0x9c, 0xef,
    0xa0, 0xe0, 0x3b, 0x4d, 0xae, 0x2a, 0xf5, 0xb0, 0xc8, 0xeb, 0xbb, 0x3c, 0x83, 0x53, 0x99, 0x61,
    0x17, 0x2b, 0x04, 0x7e, 0xba, 0x77, 0xd6, 0x26, 0xe1, 0x69, 0x14, 0x63, 0x55, 0x21, 0x0c, 0x7d]

/-- Substitutes a byte. -/
def sub (b : UInt8) : UInt8 := substitution.getD b.toNat 0

/-- Undoes the substitution of a byte. -/
def unsub (b : UInt8) : UInt8 := inverseSubstitution.getD b.toNat 0

/-- Twice a byte, in the field of 256 elements. -/
def double (b : UInt8) : UInt8 :=
  if b < 0x80 then b <<< 1 else (b <<< 1) ^^^ 0x1b

/-! ### Columns -/

/-- Applies a function to each byte. -/
def Column.map (f : UInt8 → UInt8) (w : Column) : Column :=
  ⟨f w.a, f w.b, f w.c, f w.d⟩

/-- Adds two columns. -/
def Column.add (v w : Column) : Column :=
  ⟨v.a ^^^ w.a, v.b ^^^ w.b, v.c ^^^ w.c, v.d ^^^ w.d⟩

/-- Mixes a column: each byte becomes twice itself, thrice the next and once the other two. -/
def Column.mix (w : Column) : Column :=
  let all := w.a ^^^ w.b ^^^ w.c ^^^ w.d
  ⟨w.a ^^^ all ^^^ double (w.a ^^^ w.b), w.b ^^^ all ^^^ double (w.b ^^^ w.c),
    w.c ^^^ all ^^^ double (w.c ^^^ w.d), w.d ^^^ all ^^^ double (w.d ^^^ w.a)⟩

/-- Undoes the mixing: four times the sum of every other byte added in, mixing leads back. -/
def Column.unmix (w : Column) : Column :=
  let u := double (double (w.a ^^^ w.c))
  let v := double (double (w.b ^^^ w.d))
  Column.mix ⟨w.a ^^^ u, w.b ^^^ v, w.c ^^^ u, w.d ^^^ v⟩

/-- Moves each byte one place up. -/
def Column.rotate (w : Column) : Column :=
  ⟨w.b, w.c, w.d, w.a⟩

/-! ### Blocks -/

/-- Applies a function to each column. -/
def Block.map (f : Column → Column) (s : Block) : Block :=
  ⟨f s.c0, f s.c1, f s.c2, f s.c3⟩

/-- Adds two blocks. -/
def Block.add (s t : Block) : Block :=
  ⟨s.c0.add t.c0, s.c1.add t.c1, s.c2.add t.c2, s.c3.add t.c3⟩

/-- Shifts each row to the left by its number. -/
def Block.shift (s : Block) : Block :=
  ⟨⟨s.c0.a, s.c1.b, s.c2.c, s.c3.d⟩, ⟨s.c1.a, s.c2.b, s.c3.c, s.c0.d⟩,
    ⟨s.c2.a, s.c3.b, s.c0.c, s.c1.d⟩, ⟨s.c3.a, s.c0.b, s.c1.c, s.c2.d⟩⟩

/-- Shifts each row to the right by its number. -/
def Block.unshift (s : Block) : Block :=
  ⟨⟨s.c0.a, s.c3.b, s.c2.c, s.c1.d⟩, ⟨s.c1.a, s.c0.b, s.c3.c, s.c2.d⟩,
    ⟨s.c2.a, s.c1.b, s.c0.c, s.c3.d⟩, ⟨s.c3.a, s.c2.b, s.c1.c, s.c0.d⟩⟩

/-- The sixteen bytes of a block. -/
def Block.toBytes (s : Block) : Bytes :=
  [s.c0.a, s.c0.b, s.c0.c, s.c0.d, s.c1.a, s.c1.b, s.c1.c, s.c1.d,
    s.c2.a, s.c2.b, s.c2.c, s.c2.d, s.c3.a, s.c3.b, s.c3.c, s.c3.d]

/-- The columns that bytes make up, four bytes each. -/
def columns : Bytes → List Column
  | a :: b :: c :: d :: rest => ⟨a, b, c, d⟩ :: columns rest
  | _ => []

/-- The block of sixteen bytes; missing bytes count as zeros. -/
def Block.ofBytes (bytes : Bytes) : Block :=
  match columns (bytes ++ List.replicate (16 - bytes.length) 0) with
  | c0 :: c1 :: c2 :: c3 :: _ => ⟨c0, c1, c2, c3⟩
  | _ => ⟨⟨0, 0, 0, 0⟩, ⟨0, 0, 0, 0⟩, ⟨0, 0, 0, 0⟩, ⟨0, 0, 0, 0⟩⟩

/-! ### Round keys -/

/-- Two round keys, the unit in which the key is expanded. -/
structure KeyPair where
  first : Block
  second : Block

/-- The pair of round keys after a pair. -/
def KeyPair.next (constant : UInt8) (k : KeyPair) : KeyPair :=
  let turned := (k.second.c3.rotate.map sub).add ⟨constant, 0, 0, 0⟩
  let w0 := k.first.c0.add turned
  let w1 := k.first.c1.add w0
  let w2 := k.first.c2.add w1
  let w3 := k.first.c3.add w2
  let w4 := k.second.c0.add (w3.map sub)
  let w5 := k.second.c1.add w4
  let w6 := k.second.c2.add w5
  let w7 := k.second.c3.add w6
  ⟨⟨w0, w1, w2, w3⟩, ⟨w4, w5, w6, w7⟩⟩

/-- The pairs of round keys after a pair, one for each constant. -/
def KeyPair.expand : List UInt8 → KeyPair → List Block
  | [], _ => []
  | constant :: more, k =>
    let next := k.next constant
    next.first :: next.second :: expand more next

/-- The fifteen round keys of a key of 32 bytes. -/
def roundKeys (key : Bytes) : List Block :=
  let k : KeyPair := ⟨.ofBytes (key.take 16), .ofBytes (key.drop 16)⟩
  (k.first :: k.second :: k.expand [0x01, 0x02, 0x04, 0x08, 0x10, 0x20, 0x40]).take 15

/-! ### The cipher -/

/-- The rounds after the first key: the last one leaves out the mixing. -/
def rounds : List Block → Block → Block
  | [], s => s
  | [key], s => ((s.map (·.map sub)).shift).add key
  | key :: more, s => rounds more ((((s.map (·.map sub)).shift).map Column.mix).add key)

/-- The rounds undone, the last one first. -/
def unrounds : List Block → Block → Block
  | [], s => s
  | [key], s => ((s.add key).unshift).map (·.map unsub)
  | key :: more, s => ((((unrounds more s).add key).map Column.unmix).unshift).map (·.map unsub)

/-- Encrypts a block under round keys. -/
def encryptBlock (keys : List Block) (s : Block) : Block :=
  match keys with
  | [] => s
  | first :: more => rounds more (s.add first)

/-- Decrypts a block under round keys. -/
def decryptBlock (keys : List Block) (s : Block) : Block :=
  match keys with
  | [] => s
  | first :: more => (unrounds more s).add first

/-- Encrypts sixteen bytes under round keys. -/
def encrypt (keys : List Block) (bytes : Bytes) : Bytes :=
  (encryptBlock keys (.ofBytes bytes)).toBytes

/-- Decrypts sixteen bytes under round keys. -/
def decrypt (keys : List Block) (bytes : Bytes) : Bytes :=
  (decryptBlock keys (.ofBytes bytes)).toBytes

@[simp] theorem length_encrypt (keys : List Block) (bytes : Bytes) :
    (encrypt keys bytes).length = 16 := rfl

end SelfCert.Aes
