import SelfCert.Number.Radix

/-!
# Byte strings

A byte string is a list of bytes. `Bytes.toNat` reads it as a big-endian number and
`Bytes.ofNat width` writes a number in a fixed number of bytes, so the two are inverse on numbers
that fit (`toNat_ofNat`).

A string is stored as its UTF-8 bytes, so encoding never fails; decoding refuses every byte string
that is not the encoding of a string (overlong forms, surrogates, truncated sequences).
-/

namespace SelfCert

/-- A byte string. -/
abbrev Bytes := List UInt8

namespace Bytes

/-- The number a byte string spells, most significant byte first. -/
def toNat (bytes : Bytes) : Nat :=
  bytes.foldl (fun n b => n * 256 + b.toNat) 0

/-- Writes the `width` low-order bytes of `n`, most significant first, in front of `tail`. -/
def ofNatOnto : Nat → Nat → Bytes → Bytes
  | 0, _, tail => tail
  | width + 1, n, tail => ofNatOnto width (n / 256) (UInt8.ofNat n :: tail)

/-- The `width` low-order bytes of `n`, most significant first. -/
def ofNat (width n : Nat) : Bytes :=
  ofNatOnto width n []

/-- The least number of bytes that hold `n`; none for zero. -/
def width (n : Nat) : Nat :=
  if n = 0 then 0 else n.log2 / 8 + 1

/-- The bytes of `n` without leading zeros; zero has none. -/
def ofNatMinimal (n : Nat) : Bytes :=
  ofNat (width n) n

/-- The number a byte string spells, least significant byte first. -/
def toNatLittle (bytes : Bytes) : Nat :=
  bytes.foldr (fun b n => n * 256 + b.toNat) 0

/-- The `width` low-order bytes of `n`, least significant first. -/
def ofNatLittle : Nat → Nat → Bytes
  | 0, _ => []
  | width + 1, n => UInt8.ofNat n :: ofNatLittle width (n / 256)

/-- Exclusive or, byte by byte, as long as both strings last. -/
def xor (a b : Bytes) : Bytes :=
  List.zipWith (· ^^^ ·) a b

/-- Cuts a byte string into blocks of `size` bytes; the last block may be shorter. The first
argument bounds the number of blocks. -/
def blocksUpTo (size : Nat) : Nat → Bytes → List Bytes
  | 0, _ => []
  | _ + 1, [] => []
  | count + 1, bytes => bytes.take size :: blocksUpTo size count (bytes.drop size)

/-- Cuts a byte string into blocks of `size` bytes; the last block may be shorter. -/
def blocks (size : Nat) (bytes : Bytes) : List Bytes :=
  blocksUpTo size bytes.length bytes

theorem length_ofNatOnto (width n : Nat) (tail : Bytes) :
    (ofNatOnto width n tail).length = width + tail.length := by
  induction width generalizing n tail with
  | zero => simp [ofNatOnto]
  | succ width ih => simp only [ofNatOnto, ih, List.length_cons]; omega

@[simp] theorem length_ofNat (width n : Nat) : (ofNat width n).length = width := by
  simp [ofNat, length_ofNatOnto]

@[simp] theorem length_ofNatLittle (width n : Nat) : (ofNatLittle width n).length = width := by
  induction width generalizing n with
  | zero => rfl
  | succ width ih => simp [ofNatLittle, ih]

theorem foldl_toNat (bytes : Bytes) (start : Nat) :
    bytes.foldl (fun n b => n * 256 + b.toNat) start =
      start * 256 ^ bytes.length + toNat bytes := by
  induction bytes generalizing start with
  | nil => simp [toNat]
  | cons b rest ih =>
    simp only [toNat, List.foldl_cons, List.length_cons, Nat.zero_mul, Nat.zero_add] at ih ⊢
    rw [ih, ih b.toNat]
    simp only [Nat.pow_succ, Nat.add_mul, Nat.mul_assoc, Nat.mul_comm 256, Nat.add_assoc]

theorem toNat_cons (b : UInt8) (rest : Bytes) :
    toNat (b :: rest) = b.toNat * 256 ^ rest.length + toNat rest := by
  simpa [toNat] using foldl_toNat rest b.toNat

theorem toNat_ofNatOnto (width n : Nat) (tail : Bytes) :
    toNat (ofNatOnto width n tail) = n % 256 ^ width * 256 ^ tail.length + toNat tail := by
  induction width generalizing n tail with
  | zero => simp [ofNatOnto, Nat.mod_one]
  | succ width ih =>
    rw [ofNatOnto, ih, toNat_cons, List.length_cons]
    have split : n % 256 ^ (width + 1) = n / 256 % 256 ^ width * 256 + n % 256 := by
      rw [Nat.pow_succ, Nat.mul_comm (256 ^ width) 256, Nat.mod_mul]
      omega
    have byte : (UInt8.ofNat n).toNat = n % 256 := UInt8.toNat_ofNat'
    rw [split, byte, Nat.add_mul, Nat.pow_succ, Nat.mul_comm (256 ^ tail.length) 256,
      ← Nat.mul_assoc, Nat.add_assoc]

/-- Writing a number and reading it back keeps the part that fits. -/
@[simp] theorem toNat_ofNat (width n : Nat) : toNat (ofNat width n) = n % 256 ^ width := by
  rw [ofNat, toNat_ofNatOnto]
  simp [toNat]

/-- The same with the least significant byte first. -/
@[simp] theorem toNatLittle_ofNatLittle (width n : Nat) :
    toNatLittle (ofNatLittle width n) = n % 256 ^ width := by
  induction width generalizing n with
  | zero => simp [ofNatLittle, toNatLittle, Nat.mod_one]
  | succ width ih =>
    have byte : (UInt8.ofNat n).toNat = n % 256 := UInt8.toNat_ofNat'
    simp only [toNatLittle] at ih
    rw [ofNatLittle, toNatLittle, List.foldr_cons, ih, byte, Nat.pow_succ,
      Nat.mul_comm (256 ^ width) 256, Nat.mod_mul]
    omega

theorem toNat_lt (bytes : Bytes) : toNat bytes < 256 ^ bytes.length := by
  induction bytes with
  | nil => simp [toNat]
  | cons b rest ih =>
    have small : b.toNat < 256 := b.toNat_lt
    rw [toNat_cons, List.length_cons, Nat.pow_succ]
    have : b.toNat * 256 ^ rest.length ≤ 255 * 256 ^ rest.length :=
      Nat.mul_le_mul_right _ (by omega)
    omega

end Bytes

namespace Utf8

/-- The UTF-8 bytes of a string. -/
def encode (text : String) : Bytes :=
  text.toUTF8.data.toList

/-- The string with these UTF-8 bytes, if there is one. -/
def decode? (bytes : Bytes) : Option String :=
  String.fromUTF8? ⟨bytes.toArray⟩

/-- The number of bytes a text takes in UTF-8. -/
def size (text : List Char) : Nat :=
  text.foldr (fun c n => c.utf8Size + n) 0

end Utf8

end SelfCert
