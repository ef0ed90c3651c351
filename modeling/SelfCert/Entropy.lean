import SelfCert.Digest.Sha256

/-!
# Entropy

A source of random bytes, stretched from a seed: block `n` is the digest of the seed and of `n`.
Whoever needs randomness takes a source and hands back the rest of it.
-/

namespace SelfCert

/-- A seed and the number of blocks taken from it. -/
structure Entropy where
  seed : Bytes
  taken : Nat

namespace Entropy

/-- The source for a seed. -/
def ofSeed (seed : Bytes) : Entropy := ⟨seed, 0⟩

/-- The next `count` blocks of a source. -/
def blocks : Nat → Entropy → Bytes × Entropy
  | 0, source => ([], source)
  | count + 1, source =>
    let block := Sha256.digest (source.seed ++ Bytes.ofNat 8 source.taken)
    let (more, rest) := blocks count { source with taken := source.taken + 1 }
    (block ++ more, rest)

/-- Takes `n` bytes. -/
def take (n : Nat) (source : Entropy) : Bytes × Entropy :=
  let (bytes, rest) := blocks (n / 32 + 1) source
  (bytes.take n, rest)

/-- Takes a number below `2 ^ bits`. -/
def takeBits (bits : Nat) (source : Entropy) : Nat × Entropy :=
  let (bytes, rest) := source.take (bits / 8 + 1)
  (Bytes.toNat bytes % 2 ^ bits, rest)

theorem length_blocks (count : Nat) (source : Entropy) :
    (blocks count source).1.length = 32 * count := by
  induction count generalizing source with
  | zero => rfl
  | succ count ih => simp only [blocks, List.length_append, Sha256.length_digest, ih]; omega

@[simp] theorem length_take (n : Nat) (source : Entropy) : (source.take n).1.length = n := by
  simp only [take, List.length_take, length_blocks]
  omega

end Entropy

end SelfCert
