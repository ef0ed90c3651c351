import SelfCert.Cipher.Cbc
import SelfCert.Proofs.Bytes
import SelfCert.Proofs.Cipher.Aes

/-!
# Cipher block chaining undoes itself

A message that is filled up to whole blocks can be told from them (`Cbc.unpad?_pad`), and a chain of
whole blocks is undone block by block (`Cbc.unchain_chain`). So each message is decrypted
(`Cbc.decrypt?_encrypt`); what has no whole blocks is refused (`Cbc.decrypt?_eq_none`).
-/

namespace SelfCert.Cbc

/-! ### Filling up -/

/-- A message is filled up to the next multiple of 16 above its length. -/
theorem length_pad (message : Bytes) : (pad message).length = (message.length / 16 + 1) * 16 := by
  rw [pad, List.length_append, List.length_replicate]
  omega

/-- **What a message was filled up with can be told.** -/
theorem unpad?_pad (message : Bytes) : unpad? (pad message) = some message := by
  let n := 16 - message.length % 16
  have hpos : 0 < n := by omega
  have hle : n ≤ 16 := Nat.sub_le _ _
  have hn : (UInt8.ofNat n).toNat = n := by
    rw [UInt8.toNat_ofNat', Nat.mod_eq_of_lt (by omega)]
  have hpad : pad message = message ++ List.replicate n (UInt8.ofNat n) := rfl
  have hlast : (pad message).getLast? = some (UInt8.ofNat n) := by
    rw [hpad, List.getLast?_append, List.getLast?_replicate, if_neg (Nat.ne_of_gt hpos)]
    rfl
  have hlength : (pad message).length - n = message.length := by
    rw [hpad, List.length_append, List.length_replicate, Nat.add_sub_cancel]
  rw [unpad?, hlast]
  simp only [hn, hlength]
  rw [hpad, List.drop_left, List.take_left, if_pos ⟨hpos, hle, rfl⟩]

/-! ### Chains -/

/-- The first of whole blocks is a whole one, and the rest has whole blocks. -/
theorem whole_blocks {message : Bytes} (hwhole : 16 ∣ message.length) (hne : message ≠ []) :
    (message.take 16).length = 16 ∧ 16 ∣ (message.drop 16).length := by
  have hpos := List.length_pos_iff.mpr hne
  rw [List.length_take, List.length_drop]
  omega

/-- A chain of whole blocks has the length of the message. -/
theorem length_chain (keys : List Aes.Block) (previous : Bytes) {message : Bytes}
    (hwhole : 16 ∣ message.length) :
    (chain keys previous (Bytes.blocks 16 message)).length = message.length := by
  induction message using Bytes.block_induction (by decide : 0 < 16)
    generalizing previous with
  | nil => rfl
  | step message hne ih =>
    obtain ⟨hblock, hrest⟩ := whole_blocks hwhole hne
    rw [Bytes.blocks_of_ne_nil (by decide) hne, chain, List.length_append, Aes.length_encrypt,
      ih _ hrest, ← hblock, ← List.length_append, hblock, List.take_append_drop]

/-- **A chain of whole blocks is undone.** -/
theorem unchain_chain (keys : List Aes.Block) {previous message : Bytes}
    (hprevious : previous.length = 16) (hwhole : 16 ∣ message.length) :
    unchain keys previous (Bytes.blocks 16 (chain keys previous (Bytes.blocks 16 message))) =
      message := by
  -- On the message, for any block in front: behind its first block, this is the encrypted one.
  induction message using Bytes.block_induction (by decide : 0 < 16)
    generalizing previous with
  | nil => rfl
  | step message hne ih =>
    obtain ⟨hblock, hrest⟩ := whole_blocks hwhole hne
    rw [Bytes.blocks_of_ne_nil (by decide) hne, chain]
    generalize hencrypted : Aes.encrypt keys (Bytes.xor (message.take 16) previous) = encrypted
    have hlength : encrypted.length = 16 := by rw [← hencrypted, Aes.length_encrypt]
    have hxor : (Bytes.xor (message.take 16) previous).length = 16 := by
      rw [Bytes.length_xor, hblock, hprevious, Nat.min_self]
    have hfirst : Bytes.xor (Aes.decrypt keys encrypted) previous = message.take 16 := by
      rw [← hencrypted, Aes.decrypt_encrypt keys hxor,
        Bytes.xor_xor_cancel (Nat.le_of_eq (hblock.trans hprevious.symm))]
    have hne : encrypted ≠ [] := List.ne_nil_of_length_pos (by omega)
    rw [Bytes.blocks_append (by decide) hne (Nat.le_of_eq hlength) fun _ => hlength, unchain,
      hfirst, ih hlength hrest, List.take_append_drop]

/-! ### Messages -/

variable (key : Bytes)

/-- An encrypted message has the next multiple of 16 bytes above the length of the message. -/
theorem length_encrypt (iv message : Bytes) :
    (encrypt key iv message).length = (message.length / 16 + 1) * 16 := by
  have hpad := length_pad message
  rw [encrypt, length_chain _ _ (hpad ▸ Nat.dvd_mul_left 16 _), hpad]

/-- **An encrypted message is decrypted.** -/
theorem decrypt?_encrypt {iv : Bytes} (hiv : iv.length = 16) (message : Bytes) :
    decrypt? key iv (encrypt key iv message) = some message := by
  have hlength := length_encrypt key iv message
  have hwhole : 16 ∣ (pad message).length := length_pad message ▸ Nat.dvd_mul_left 16 _
  have hne : ¬((encrypt key iv message).isEmpty ∨ (encrypt key iv message).length % 16 ≠ 0) := by
    rw [List.isEmpty_iff_length_eq_zero]
    omega
  rw [decrypt?, if_neg hne, encrypt, unchain_chain _ hiv hwhole, unpad?_pad]

/-- What has no whole blocks, or no blocks at all, is refused. -/
theorem decrypt?_eq_none (iv : Bytes) {encrypted : Bytes}
    (h : ¬(0 < encrypted.length ∧ 16 ∣ encrypted.length)) : decrypt? key iv encrypted = none := by
  rw [decrypt?, if_pos]
  rw [List.isEmpty_iff_length_eq_zero]
  omega

end SelfCert.Cbc
