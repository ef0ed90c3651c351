import SelfCert.Cipher.Gcm
import SelfCert.Proofs.Bytes

/-!
# Galois counter mode undoes itself

Masking keeps the length and is undone by masking again with the same counters (`Gcm.mask_mask`), so
a sealed message is opened, whatever its nonce is (`Gcm.decrypt?_encrypt`). What has no room for a
nonce and a tag is refused (`Gcm.decrypt?_eq_none`).
-/

namespace SelfCert.Gcm

/-! ### Masks -/

variable (keys : List Aes.Block) {nonce : Bytes}

/-- A masked message has the length of the message. -/
theorem length_mask (nonce message : Bytes) (counter : Nat) :
    (mask keys nonce counter (Bytes.blocks 16 message)).length = message.length := by
  induction message using Bytes.block_induction (by decide : 0 < 16) generalizing counter with
  | nil => rfl
  | step message hne ih =>
    rw [Bytes.blocks_of_ne_nil (by decide) hne, mask, List.length_append, ih, Bytes.length_xor,
      Aes.length_encrypt, List.length_take, List.length_drop]
    omega

/-- **Masking twice leads back.** -/
theorem mask_mask (nonce message : Bytes) (counter : Nat) :
    mask keys nonce counter (Bytes.blocks 16 (mask keys nonce counter (Bytes.blocks 16 message))) =
      message := by
  -- On the message, for any counter: behind its first block, this is the next one.
  induction message using Bytes.block_induction (by decide : 0 < 16) generalizing counter with
  | nil => rfl
  | step message hne ih =>
    have hpos := List.length_pos_iff.mpr hne
    rw [Bytes.blocks_of_ne_nil (by decide) hne, mask]
    generalize hkey : Aes.encrypt keys (counterBlock nonce counter) = key
    have hfirst : (message.take 16).length ≤ key.length := by
      rw [← hkey, Aes.length_encrypt]
      exact List.length_take_le 16 message
    have hlength : (Bytes.xor (message.take 16) key).length = (message.take 16).length := by
      rw [Bytes.length_xor, Nat.min_eq_left hfirst]
    have hwhole : mask keys nonce (counter + 1) (Bytes.blocks 16 (message.drop 16)) ≠ [] →
        (Bytes.xor (message.take 16) key).length = 16 := by
      intro hrest
      have hdrop := List.length_pos_iff.mpr hrest
      rw [length_mask, List.length_drop] at hdrop
      rw [hlength, List.length_take]
      omega
    have hblock : Bytes.xor (message.take 16) key ≠ [] := by
      rw [← List.length_pos_iff, hlength, List.length_take]
      omega
    rw [Bytes.blocks_append (by decide) hblock (hlength ▸ List.length_take_le 16 message) hwhole,
      mask, hkey, Bytes.xor_xor_cancel hfirst, ih, List.take_append_drop]

/-- A tag has sixteen bytes. -/
theorem length_tag (nonce masked : Bytes) : (tag keys nonce masked).length = tagLength := by
  rw [tag, Bytes.length_xor, Bytes.length_ofNat, Aes.length_encrypt, tagLength, Nat.min_self]

/-! ### Messages -/

variable (key : Bytes)

/-- A sealed message is longer by its nonce and its tag. -/
theorem length_encrypt (hnonce : nonce.length = nonceLength) (message : Bytes) :
    (encrypt key nonce message).length = message.length + 28 := by
  rw [encrypt, List.length_append, List.length_append, length_mask, length_tag, hnonce,
    nonceLength, tagLength]
  omega

/-- **A sealed message is opened.** -/
theorem decrypt?_encrypt (hnonce : nonce.length = nonceLength) (message : Bytes) :
    decrypt? key (encrypt key nonce message) = some message := by
  have hlength := length_encrypt key hnonce message
  have hsize : ¬(encrypt key nonce message).length < nonceLength + tagLength := by
    rw [hlength, nonceLength, tagLength]
    omega
  let keys := Aes.roundKeys key
  let masked := mask keys nonce 2 (Bytes.blocks 16 message)
  have hmasked : masked.length = message.length := length_mask keys nonce message 2
  have hsealed : encrypt key nonce message = nonce ++ (masked ++ tag keys nonce masked) :=
    List.append_assoc _ _ _
  have hfront : (encrypt key nonce message).take nonceLength = nonce := by
    rw [hsealed, ← hnonce, List.take_left]
  have hmiddle : ((encrypt key nonce message).drop nonceLength).take
      ((encrypt key nonce message).length - nonceLength - tagLength) = masked := by
    have hcount : (encrypt key nonce message).length - nonceLength - tagLength =
        masked.length := by
      rw [hlength, hmasked, nonceLength, tagLength]
      omega
    rw [hcount, hsealed, ← hnonce, List.drop_left, List.take_left]
  have hend : (encrypt key nonce message).drop
      ((encrypt key nonce message).length - tagLength) = tag keys nonce masked := by
    have hcount : (encrypt key nonce message).length - tagLength =
        (nonce ++ masked).length := by
      rw [hlength, List.length_append, hnonce, hmasked, nonceLength, tagLength]
      omega
    rw [hcount, hsealed, ← List.append_assoc, List.drop_left]
  rw [decrypt?, if_neg hsize]
  simp only [hfront, hmiddle, hend]
  rw [if_pos rfl, mask_mask]

/-- What is too short for a nonce and a tag is refused. -/
theorem decrypt?_eq_none {sealedMessage : Bytes} (h : sealedMessage.length < 28) :
    decrypt? key sealedMessage = none := by
  have hsize : sealedMessage.length < nonceLength + tagLength := h
  rw [decrypt?, if_pos hsize]

end SelfCert.Gcm
