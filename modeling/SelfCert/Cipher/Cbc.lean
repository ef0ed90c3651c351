import SelfCert.Cipher.Aes

/-!
# AES in cipher block chaining mode

A message is filled up to whole blocks with between 1 and 16 bytes that all hold their number, and
each block is added to the one before it in encrypted form, the first one to a given block.
-/

namespace SelfCert.Cbc

/-- A message filled up to whole blocks. -/
def pad (message : Bytes) : Bytes :=
  let n := 16 - message.length % 16
  message ++ List.replicate n (UInt8.ofNat n)

/-- A message without what it was filled up with, if that is well formed. -/
def unpad? (padded : Bytes) : Option Bytes :=
  match padded.getLast? with
  | none => none
  | some last =>
    let n := last.toNat
    if 0 < n ∧ n ≤ 16 ∧ padded.drop (padded.length - n) = List.replicate n last then
      some (padded.take (padded.length - n))
    else none

/-- Encrypts blocks in a chain. -/
def chain (keys : List Aes.Block) : Bytes → List Bytes → Bytes
  | _, [] => []
  | previous, block :: more =>
    let encrypted := Aes.encrypt keys (Bytes.xor block previous)
    encrypted ++ chain keys encrypted more

/-- Decrypts blocks in a chain. -/
def unchain (keys : List Aes.Block) : Bytes → List Bytes → Bytes
  | _, [] => []
  | previous, block :: more =>
    Bytes.xor (Aes.decrypt keys block) previous ++ unchain keys block more

/-- Encrypts a message under a key of 32 bytes and a first block. -/
def encrypt (key iv message : Bytes) : Bytes :=
  chain (Aes.roundKeys key) iv (Bytes.blocks 16 (pad message))

/-- Decrypts a message, if it has whole blocks and is filled up well. -/
def decrypt? (key iv encrypted : Bytes) : Option Bytes :=
  if encrypted.isEmpty ∨ encrypted.length % 16 ≠ 0 then none
  else unpad? (unchain (Aes.roundKeys key) iv (Bytes.blocks 16 encrypted))

end SelfCert.Cbc
