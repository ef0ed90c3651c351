import SelfCert.Cipher.Aes

/-!
# AES in Galois counter mode

A message is sealed under a key of 32 bytes and a nonce of 12 bytes: the blocks of the message are
masked with the encrypted counter, and a tag of 16 bytes is computed over the masked message. The
sealed form is nonce, masked message and tag.
-/

namespace SelfCert.Gcm

/-- The length of a nonce. -/
def nonceLength : Nat := 12

/-- The length of a tag. -/
def tagLength : Nat := 16

/-- The greatest length of a message that is sealed. Sealed messages are opened up to sixteen bytes
beyond it; as none of them is longer than this, `decrypt?` sets no bound. -/
def maxLength : Nat := 2 ^ 36

/-- `acc + x * v` in the field of `2 ^ 128` elements, whose bits are numbered from the highest one;
the first argument is the number of bits of `x` still to take. -/
def mulOnto : Nat → Nat → Nat → Nat → Nat
  | 0, _, _, acc => acc
  | bits + 1, x, v, acc =>
    let acc := if x.testBit bits then acc ^^^ v else acc
    let v := if v.testBit 0 then (v >>> 1) ^^^ (0xe1 <<< 120) else v >>> 1
    mulOnto bits x v acc

/-- The product in the field of `2 ^ 128` elements. -/
def mul (x y : Nat) : Nat :=
  mulOnto 128 x y 0

/-- A block as a field element; missing bytes count as zeros. -/
def blockNumber (bytes : Bytes) : Nat :=
  Bytes.toNat bytes <<< (8 * (16 - bytes.length))

/-- The hash of blocks under a key. -/
def hash (key : Nat) (blocks : List Bytes) : Nat :=
  blocks.foldl (fun acc block => mul (acc ^^^ blockNumber block) key) 0

/-- The block of a nonce and a counter. -/
def counterBlock (nonce : Bytes) (counter : Nat) : Bytes :=
  nonce ++ Bytes.ofNat 4 counter

/-- Masks blocks with the encrypted counters from a given one on. -/
def mask (keys : List Aes.Block) (nonce : Bytes) : Nat → List Bytes → Bytes
  | _, [] => []
  | counter, block :: more =>
    Bytes.xor block (Aes.encrypt keys (counterBlock nonce counter)) ++
      mask keys nonce (counter + 1) more

/-- The tag of a masked message. -/
def tag (keys : List Aes.Block) (nonce masked : Bytes) : Bytes :=
  let key := Bytes.toNat (Aes.encrypt keys (List.replicate 16 0))
  let lengths := Bytes.ofNat 16 (8 * masked.length)
  let sum := hash key (Bytes.blocks 16 masked ++ [lengths])
  Bytes.xor (Bytes.ofNat 16 sum) (Aes.encrypt keys (counterBlock nonce 1))

/-- Seals a message. Whether it is too long for that is for the caller to see. -/
def encrypt (key nonce message : Bytes) : Bytes :=
  let keys := Aes.roundKeys key
  let masked := mask keys nonce 2 (Bytes.blocks 16 message)
  nonce ++ masked ++ tag keys nonce masked

/-- Opens a sealed message, if its tag is right. -/
def decrypt? (key sealed : Bytes) : Option Bytes :=
  if sealed.length < nonceLength + tagLength then none
  else
    let keys := Aes.roundKeys key
    let nonce := sealed.take nonceLength
    let masked := (sealed.drop nonceLength).take (sealed.length - nonceLength - tagLength)
    if tag keys nonce masked = sealed.drop (sealed.length - tagLength) then
      some (mask keys nonce 2 (Bytes.blocks 16 masked))
    else none

end SelfCert.Gcm
