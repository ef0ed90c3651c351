import SelfCert.Bytes

/-!
# Keccak-256

The sponge over the permutation of 25 lanes of 64 bits, with a rate of 136 bytes, in the form that
precedes the standard: the padding begins with the byte `0x01`. The lane in column `x` and row `y`
stands at place `x + 5 * y` of the state.
-/

namespace SelfCert.Keccak256

/-- The constants of the twenty-four rounds. -/
def constants : List UInt64 :=
  [0x0000000000000001, 0x0000000000008082, 0x800000000000808a, 0x8000000080008000,
    0x000000000000808b, 0x0000000080000001, 0x8000000080008081, 0x8000000000008009,
    0x000000000000008a, 0x0000000000000088, 0x0000000080008009, 0x000000008000000a,
    0x000000008000808b, 0x800000000000008b, 0x8000000000008089, 0x8000000000008003,
    0x8000000000008002, 0x8000000000000080, 0x000000000000800a, 0x800000008000000a,
    0x8000000080008081, 0x8000000000008080, 0x0000000080000001, 0x8000000080008008]

/-- How far each lane is rotated, by place. -/
def rotations : List UInt64 :=
  [0, 1, 62, 28, 27, 36, 44, 6, 55, 20, 3, 10, 43, 25, 39, 41, 45, 15, 21, 8, 18, 2, 61, 56, 14]

/-- Rotates a lane to the left; `n` is below 64. -/
def rotl (x : UInt64) (n : UInt64) : UInt64 :=
  if n = 0 then x else (x <<< n) ||| (x >>> (64 - n))

/-- The lane in column `x` and row `y`, both taken modulo five. -/
def lane (s : List UInt64) (x y : Nat) : UInt64 :=
  s.getD (x % 5 + 5 * (y % 5)) 0

/-- A state given lane by lane. -/
def ofLanes (f : Nat → Nat → UInt64) : List UInt64 :=
  (List.range 25).map fun i => f (i % 5) (i / 5)

/-- Adds to each lane the parities of two columns beside it. -/
def mixColumns (s : List UInt64) : List UInt64 :=
  let parity := (List.range 5).map fun x =>
    lane s x 0 ^^^ lane s x 1 ^^^ lane s x 2 ^^^ lane s x 3 ^^^ lane s x 4
  let change := (List.range 5).map fun x =>
    parity.getD ((x + 4) % 5) 0 ^^^ rotl (parity.getD ((x + 1) % 5) 0) 1
  ofLanes fun x y => lane s x y ^^^ change.getD x 0

/-- Rotates the lanes and moves each to its new place. -/
def moveLanes (s : List UInt64) : List UInt64 :=
  let turned := List.zipWith rotl s rotations
  ofLanes fun x y => lane turned (x + 3 * y) x

/-- Combines each lane with its two neighbours in the row. -/
def mixRows (s : List UInt64) : List UInt64 :=
  ofLanes fun x y => lane s x y ^^^ (~~~(lane s (x + 1) y) &&& lane s (x + 2) y)

/-- Adds the constant of a round to the first lane. -/
def addConstant (constant : UInt64) : List UInt64 → List UInt64
  | [] => []
  | first :: rest => (first ^^^ constant) :: rest

/-- The permutation of the state. -/
def permute (s : List UInt64) : List UInt64 :=
  constants.foldl (fun s constant => addConstant constant (mixRows (moveLanes (mixColumns s)))) s

/-- The bytes taken in at a time. -/
def rate : Nat := 136

/-- A message with its padding: `0x01`, zeros, and the top bit of the last byte. -/
def padded (message : Bytes) : Bytes :=
  match rate - message.length % rate with
  | 0 => message
  | 1 => message ++ [0x81]
  | n + 2 => message ++ 0x01 :: List.replicate n 0 ++ [0x80]

/-- Takes one block into the state. -/
def absorb (s : List UInt64) (block : Bytes) : List UInt64 :=
  let lanes := (Bytes.blocks 8 block).map fun bytes => UInt64.ofNat bytes.toNatLittle
  permute (List.zipWith (· ^^^ ·) s (lanes ++ List.replicate (25 - lanes.length) 0))

/-- The Keccak-256 digest of a message. -/
def digest (message : Bytes) : Bytes :=
  let s := (Bytes.blocks rate (padded message)).foldl absorb (List.replicate 25 0)
  (List.range 4).flatMap fun i => Bytes.ofNatLittle 8 (s.getD i 0).toNat

/-- Every digest has thirty-two bytes. -/
@[simp] theorem length_digest (message : Bytes) : (digest message).length = 32 := by
  simp [digest, List.range_succ]

end SelfCert.Keccak256
