import SelfCert.Proofs.Cipher.Cbc
import SelfCert.Proofs.Cipher.Gcm
import SelfCert.Proofs.Codec.Base64
import SelfCert.Proofs.Key.Basic
import SelfCert.Proofs.Transparency

/-!
# Keys that seal messages open them, and travel as maps

The map of a key is read as the key, of the same kind and with the same bytes
(`SymmetricKey.read_toMap`): both kinds of AES have one tag, and only the map of a chaining key has
a first block. Each key opens what it sealed (`SymmetricKey.decrypt_sealWith`), whatever the nonce
was. Together, what one side seals is opened by another side that was sent the map of the key
(`sealed_messages_reopen`).
-/

namespace SelfCert

/-! ### Base64 in maps -/

namespace Base64

theorem decode?_encode (bytes : Bytes) : decode? (encode bytes) = some bytes := by
  rw [decode?, encode, String.toList_ofList, ofDigits?_digits]

/-- Only no bytes have an empty text. -/
theorem encode_ne_empty {bytes : Bytes} (h : bytes ≠ []) : encode bytes ≠ "" := by
  intro hempty
  have hread := decode?_encode bytes
  rw [hempty] at hread
  exact h (Option.some_injective _ hread).symm

end Base64

/-! ### AES -/

theorem AesKey.bytes_ne_nil (key : AesKey) : key.bytes ≠ [] := by
  rw [← List.length_pos_iff, key.length_bytes]
  decide

/-- What the map of a key of AES holds. -/
theorem AesKey.get?_toMap (key : AesKey) :
    Table.get? "algorithm" key.toMap = some (.string "AES") ∧
      Table.get? "data" key.toMap = some (.string (Base64.encode key.bytes)) ∧
      Table.get? "iv" key.toMap = none := by
  simp [toMap, CipherKind.algorithm, Table.ofList, Table.insertAll, Table.get?_insert_of_ne,
    Table.get?]

theorem AesKey.ofBytes_bytes (key : AesKey) : ofBytes key.bytes = .ok key := by
  rw [ofBytes, dif_pos key.length_bytes]

/-- The text of a key spells it. -/
theorem AesKey.ofBase64_encode (key : AesKey) : ofBase64 (Base64.encode key.bytes) = .ok key := by
  rw [ofBase64, Base64.decode?_encode]
  exact key.ofBytes_bytes

/-- What the map of a chaining key holds. -/
theorem AesCbcKey.get?_toMap (key : AesCbcKey) :
    Table.get? "algorithm" key.toMap = some (.string "AES") ∧
      Table.get? "data" key.toMap = some (.string (Base64.encode key.key.bytes)) ∧
      Table.get? "iv" key.toMap = some (.string (Base64.encode key.iv)) := by
  simp [toMap, CipherKind.algorithm, Table.ofList, Table.insertAll, Table.get?_insert_of_ne]

theorem AesCbcKey.iv_ne_nil (key : AesCbcKey) : key.iv ≠ [] := by
  rw [← List.length_pos_iff, key.length_iv]
  decide

/-- The first block is read from the map. -/
theorem AesCbcKey.ivOfMap_toMap (key : AesCbcKey) : ivOfMap key.toMap = .ok key.iv := by
  have hnonempty : (Base64.encode key.iv).isEmpty = false :=
    String.isEmpty_eq_false_iff.mpr (Base64.encode_ne_empty key.iv_ne_nil)
  rw [ivOfMap, KeyMap.string?_eq_some key.get?_toMap.2.2]
  simp only [hnonempty, Bool.false_eq_true, if_false, Base64.decode?_encode]

/-- **The map of a chaining key is read as the key**, with its first block. -/
theorem AesCbcKey.ofMap_toMap (key : AesCbcKey) : ofMap key.toMap = .ok key := by
  have hdata := KeyMap.required_eq_ok key.get?_toMap.2.1
    (Base64.encode_ne_empty key.key.bytes_ne_nil)
  have hofBytes : ofBytes key.key.bytes key.iv = .ok key := by
    rw [ofBytes, key.key.ofBytes_bytes]
    exact dif_pos key.length_iv
  rw [ofMap, hdata]
  simp only [bind, Except.bind, Base64.decode?_encode, key.ivOfMap_toMap, hofBytes]

/-! ### All kinds -/

namespace SymmetricKey

variable (key : SymmetricKey)

/-- **The map of a key is read as the key.** -/
theorem read_toMap (requests : List Request) :
    read (Context.after requests).symmetricKeys key.toMap = .ok key := by
  have hkinds : (Context.after requests).symmetricKeys = Context.loaded.symmetricKeys :=
    Context.apply_after requests (·.symmetricKeys) fun _ => rfl
  have htag : Table.get? "AES" Context.loaded.symmetricKeys = some .aes := rfl
  rw [hkinds]
  cases key with
  | aes key =>
    obtain ⟨halgorithm, hdata, hiv⟩ := key.get?_toMap
    have hcontains : ¬Table.contains "iv" key.toMap := by
      rw [Table.contains, hiv]
      exact Bool.false_ne_true
    rw [toMap, read, KeyMap.resolveKind_eq_ok halgorithm htag]
    simp only [bind, Except.bind]
    rw [ofMap, if_neg hcontains,
      KeyMap.required_eq_ok hdata (Base64.encode_ne_empty key.bytes_ne_nil)]
    simp only [bind, Except.bind, key.ofBase64_encode]
    rfl
  | aesCbc key =>
    obtain ⟨halgorithm, -, hiv⟩ := key.get?_toMap
    have hcontains : Table.contains "iv" key.toMap := Table.contains_of_get?_eq_some hiv
    -- The tag is that of the other kind, and the first block tells that it is this one.
    rw [toMap, read, KeyMap.resolveKind_eq_ok halgorithm htag]
    simp only [bind, Except.bind]
    rw [ofMap, if_pos hcontains, key.ofMap_toMap]
    rfl
  | plain => rfl

/-- Seals a message with a given nonce, for the keys that need one. -/
def sealWith (nonce message : Bytes) : Bytes :=
  match key with
  | aes key => Gcm.encrypt key.bytes nonce message
  | aesCbc key => Cbc.encrypt key.key.bytes key.iv message
  | plain => message

/-- The nonce of a sealed message is the next one of the source. -/
theorem encrypt_eq_sealWith (message : Bytes) (source : Entropy) :
    (key.encrypt message source).1 = key.sealWith (source.take Gcm.nonceLength).1 message := by
  cases key <;> rfl

/-- **A key opens what it sealed**, with each nonce. -/
theorem decrypt_sealWith {nonce : Bytes} (hnonce : nonce.length = 12) (message : Bytes) :
    key.decrypt (key.sealWith nonce message) = .ok message := by
  cases key with
  | aes key => rw [sealWith, decrypt, Gcm.decrypt?_encrypt key.bytes hnonce]
  | aesCbc key => rw [sealWith, decrypt, Cbc.decrypt?_encrypt key.key.bytes key.length_iv]
  | plain => rfl

/-- What is sealed is what the key makes of the message, unless the message is too long for Galois
counter mode. -/
theorem tryEncrypt_eq (message : Bytes) (source : Entropy) :
    (key.tryEncrypt message source).1 =
      if key.kind = .aes ∧ Gcm.maxLength < message.length then .error .encryptionFailed
      else .ok (key.encrypt message source).1 := by
  have hadmits : key.admits message ↔ ¬(key.kind = .aes ∧ Gcm.maxLength < message.length) := by
    simp [admits, imp_iff_not_or]
  by_cases h : key.kind = .aes ∧ Gcm.maxLength < message.length
  · rw [if_pos h]
    exact if_neg fun hshort => hadmits.mp hshort h
  · rw [if_neg h]
    exact if_pos (hadmits.mpr h)

end SymmetricKey

/-! ### Main result -/

/-- **What a key seals, its copy opens.** A standard context, whatever was requested before, reads
the map of a key as that key. The key opens what it seals, with every nonce of twelve bytes; only in
Galois counter mode does it refuse to seal messages, those of more than `2 ^ 36` bytes. In this
mode, a sealed message is longer by 28 bytes, and shorter ones are refused. In chaining mode, it has
the next multiple of 16 bytes above the length of the message, and what has no whole blocks is
refused. -/
theorem sealed_messages_reopen (requests : List Request) (key : SymmetricKey) :
    SymmetricKey.read (Context.after requests).symmetricKeys key.toMap = .ok key ∧
      (∀ nonce message, nonce.length = 12 →
        key.decrypt (key.sealWith nonce message) = .ok message) ∧
      (∀ message source,
        (key.encrypt message source).1 = key.sealWith (source.take Gcm.nonceLength).1 message ∧
        key.decrypt (key.encrypt message source).1 = .ok message ∧
        (key.tryEncrypt message source).1 =
          if key.kind = .aes ∧ 2 ^ 36 < message.length then .error .encryptionFailed
          else .ok (key.encrypt message source).1) ∧
      (key.kind = .aes →
        (∀ nonce message, nonce.length = 12 →
          (key.sealWith nonce message).length = message.length + 28) ∧
        ∀ sealedMessage, sealedMessage.length < 28 →
          key.decrypt sealedMessage = .error .decryptionFailed) ∧
      (key.kind = .aesCbc →
        (∀ nonce message, (key.sealWith nonce message).length = (message.length / 16 + 1) * 16) ∧
        ∀ sealedMessage, ¬(0 < sealedMessage.length ∧ 16 ∣ sealedMessage.length) →
          key.decrypt sealedMessage = .error .decryptionFailed) := by
  refine ⟨key.read_toMap requests, fun nonce message hnonce => key.decrypt_sealWith hnonce message,
    fun message source =>
      ⟨key.encrypt_eq_sealWith message source, ?_, key.tryEncrypt_eq message source⟩,
    fun hkind => ?_, fun hkind => ?_⟩
  · rw [key.encrypt_eq_sealWith message source]
    exact key.decrypt_sealWith (Entropy.length_take _ source) message
  · cases key with
    | aes key =>
      refine ⟨fun nonce message hnonce => Gcm.length_encrypt key.bytes hnonce message,
        fun sealedMessage hshort => ?_⟩
      rw [SymmetricKey.decrypt, Gcm.decrypt?_eq_none key.bytes hshort]
    | aesCbc key => cases hkind
    | plain => cases hkind
  · cases key with
    | aes key => cases hkind
    | aesCbc key =>
      refine ⟨fun nonce message => Cbc.length_encrypt key.key.bytes key.iv message,
        fun sealedMessage hwhole => ?_⟩
      rw [SymmetricKey.decrypt, Cbc.decrypt?_eq_none key.key.bytes key.iv hwhole]
    | plain => cases hkind

/-- A key of zeros opens the three bytes it sealed with a nonce of zeros; neither it nor a chaining
key with a first block of zeros opens fifteen bytes. -/
theorem sealed_messages_reopen_zeros :
    let key : AesKey := ⟨List.replicate 32 0, by decide⟩
    let chaining : AesCbcKey := ⟨key, List.replicate 16 0, by decide⟩
    (SymmetricKey.aes key).decrypt
        ((SymmetricKey.aes key).sealWith (List.replicate 12 0) [1, 2, 3]) = .ok [1, 2, 3] ∧
      (SymmetricKey.aes key).decrypt (List.replicate 15 0) = .error .decryptionFailed ∧
      (SymmetricKey.aesCbc chaining).decrypt (List.replicate 15 0) = .error .decryptionFailed := by
  intro key chaining
  obtain ⟨-, hopen, -, hshort, -⟩ := sealed_messages_reopen [] (.aes key)
  obtain ⟨-, -, -, -, hwhole⟩ := sealed_messages_reopen [] (.aesCbc chaining)
  exact ⟨hopen _ _ (by decide), (hshort rfl).2 _ (by decide), (hwhole rfl).2 _ (by decide)⟩

end SelfCert
