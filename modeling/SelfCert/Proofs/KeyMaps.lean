import SelfCert.Proofs.Key.Faithful
import SelfCert.Proofs.Key.RsaText
import SelfCert.Proofs.SignedDocument

/-!
# Keys that sign are read back from their maps

The map of a private key holds the digits of a number, the digits of a seed, or the two blocks of an
RSA key. Each of them is read as the key it was written for (`PrivateKey.read_toMap`), and so is the
map of its public key (`key_maps_read_back`). An RSA key is read back because each of its two blocks
is found by its own label in the text of both.
-/

namespace SelfCert

/-! ### Numbers and seeds -/

namespace EccPrivateKey

/-- A key is the one of its number. -/
theorem ofNat?_secret (key : EccPrivateKey) : ofNat? key.secret = some key := by
  obtain ⟨secret, point, isScalar, isMultiple, isOnCurve⟩ := key
  unfold ofNat?
  rw [dif_pos isScalar]
  split
  · next found hfound =>
    obtain rfl : found = point := Option.some_injective _ (hfound.symm.trans isMultiple)
    exact dif_pos isOnCurve
  · next hnone =>
    rw [isMultiple] at hnone
    cases hnone

/-- Its number fits into the bytes, which may begin with zeros. -/
theorem toNat_bytes (key : EccPrivateKey) : Bytes.toNat key.bytes = key.secret := by
  have hscalar := key.isScalar
  simp only [Ecdsa.isScalar, Bool.and_eq_true, decide_eq_true_eq] at hscalar
  have horder : Secp256k1.order < 256 ^ byteLength := by decide
  rw [bytes, Bytes.toNat_ofNat, Nat.mod_eq_of_lt (hscalar.2.trans horder)]

/-- **A key is read back from its map.** -/
theorem ofMap_toMap (key : EccPrivateKey) : ofMap key.toMap = .ok key := by
  have hlength : key.bytes.length = byteLength := Bytes.length_ofNat _ _
  have hne : key.bytes ≠ [] := List.ne_nil_of_length_eq_add_one hlength
  have hhex : ofHex (Hex.encode key.bytes) = .ok key := by
    rw [ofHex, Hex.decode?_encode]
    simp only [ofBytes, if_pos hlength, key.toNat_bytes, key.ofNat?_secret]
  have hrequired := KeyMap.required_data hne (EccPublicKey.get?_mapOf key.bytes).2
  exact Except.bind_eq_ok_iff.mpr ⟨_, hrequired, hhex⟩

end EccPrivateKey

namespace Ed25519PrivateKey

/-- A key is the one of its seed. -/
theorem ofSeed_seed (key : Ed25519PrivateKey) : ofSeed key.seed = .ok key := by
  obtain ⟨seed, ⟨data, isPoint⟩, length_seed, isPublic⟩ := key
  obtain rfl : data = Ed25519.publicOfSeed seed := isPublic
  rw [ofSeed, dif_pos length_seed, dif_pos isPoint]

/-- **A key is read back from its map.** -/
theorem ofMap_toMap (key : Ed25519PrivateKey) : ofMap key.toMap = .ok key := by
  have hne : key.seed ≠ [] := List.ne_nil_of_length_eq_add_one key.length_seed
  have hhex : ofHex (Hex.encode key.seed) = .ok key := by
    rw [ofHex, Hex.decode?_encode]
    exact key.ofSeed_seed
  have hrequired := KeyMap.required_data hne (Ed25519PublicKey.get?_mapOf key.seed).2
  exact Except.bind_eq_ok_iff.mpr ⟨_, hrequired, hhex⟩

end Ed25519PrivateKey

/-! ### Two blocks -/

namespace Rsa.PrivateKey

variable {key : PrivateKey}

theorem required_toMap (key : PrivateKey) : key.toMap.required "data" = .ok key.toText := by
  have hrequired := required_mapOf "PUBLIC KEY" key.publicKey.toDer ("\r\n" ++ key.toPem)
  rwa [← String.append_assoc] at hrequired

/-- **A whole key is read back from its map.** -/
theorem ofMap_toMap (h : key.IsWhole) (hwritable : key.isWritable) :
    ofMap key.toMap = .ok key :=
  Except.bind_eq_ok_iff.mpr ⟨_, key.required_toMap, ofText_toText h hwritable⟩

/-- The public key is read from the map of a private key. -/
theorem ofMap_public_toMap (h : key.publicKey.isAcceptable) :
    PublicKey.ofMap key.toMap = .ok key.publicKey :=
  Except.bind_eq_ok_iff.mpr ⟨_, key.required_toMap, ofText_public_toText h⟩

end Rsa.PrivateKey

/-! ### Accepted keys -/

namespace PrivateKey

variable {secret : PrivateKey}

/-- Whether a standard context reads a private key from a map, or makes it. -/
inductive IsAccepted (secret : PrivateKey) : Prop where
  | read {map : KeyMap} (h : read Context.loaded.privateKeys map = .ok secret)
  | create {tag : String} {source : Entropy}
    (h : (create Context.loaded.privateKeys tag source).1 = .ok secret)

theorem IsAccepted.isWhole {key : Rsa.PrivateKey} (h : (rsa key).IsAccepted) :
    key.IsWhole ∧ key.isWritable := by
  cases h with
  | read h => exact isWhole_of_read_eq_ok h
  | create h => exact isWhole_of_create_eq_ok h

/-- A map that names its kind is read as a key of that kind. -/
theorem read_eq_ofMap {map : KeyMap} (kind : KeyAlgorithm)
    (halgorithm : Table.get? "algorithm" map = some (.string kind.tag)) :
    read Context.loaded.privateKeys map = ofMap kind map := by
  have hkind : Table.get? kind.tag Context.loaded.privateKeys = some kind := by
    cases kind <;> rfl
  rw [read, KeyMap.resolveKind_eq_ok halgorithm hkind]
  rfl

/-- **An accepted key is read back from its map.** -/
theorem read_toMap (h : secret.IsAccepted) :
    read Context.loaded.privateKeys secret.toMap = .ok secret := by
  cases secret with
  | ecc key =>
    refine (read_eq_ofMap .ecc (EccPublicKey.get?_mapOf key.bytes).1).trans ?_
    exact Except.map_eq_ok_iff.mpr ⟨key, key.ofMap_toMap, rfl⟩
  | ed25519 key =>
    refine (read_eq_ofMap .ed25519 (Ed25519PublicKey.get?_mapOf key.seed).1).trans ?_
    exact Except.map_eq_ok_iff.mpr ⟨key, key.ofMap_toMap, rfl⟩
  | rsa key =>
    obtain ⟨hwhole, hwritable⟩ := h.isWhole
    refine (read_eq_ofMap .rsa (Rsa.get?_mapOf key.toText).1).trans ?_
    exact Except.map_eq_ok_iff.mpr ⟨key, Rsa.PrivateKey.ofMap_toMap hwhole hwritable, rfl⟩

/-- The public part of an accepted RSA key may be received, unless its modulus is too large. -/
theorem IsAccepted.isAcceptable {key : Rsa.PrivateKey} (h : (rsa key).IsAccepted)
    (hmodulus : key.publicKey.modulus < 2 ^ Rsa.maxModulusBits) : key.publicKey.isAcceptable := by
  rw [Rsa.PublicKey.isAcceptable, Bool.and_eq_true]
  exact ⟨h.isWhole.1.isSound, decide_eq_true hmodulus⟩

end PrivateKey

/-- The public half of an accepted key is read back from its map, unless it is an RSA key whose
modulus is too large. -/
theorem PrivateKey.IsAccepted.read_public_toMap {secret : PrivateKey} (h : secret.IsAccepted)
    (hmodulus : ∀ key, secret = .rsa key → key.publicKey.modulus < 2 ^ Rsa.maxModulusBits) :
    PublicKey.read Context.loaded.publicKeys secret.publicKey.toMap = .ok secret.publicKey := by
  cases secret with
  | ecc key => exact (PublicKey.isReadable_ecc key.publicKey).read_eq
  | ed25519 key => exact (PublicKey.isReadable_ed25519 key.publicKey).read_eq
  | rsa key => exact (PublicKey.isReadable_rsa (h.isAcceptable (hmodulus key rfl))).read_eq

/-! ### Main result -/

/-- **Keys that sign are read back from their maps.** A private key that a standard context reads or
makes is read from its own map as the same key, so with the same map, public key and signatures; if
it is not an RSA key with a modulus of more than 4096 bits, its public key is read from its map as
the same key too. The map of an RSA key holds a text in which the block of the public key and the
block of the private key are found, each exactly as it was written, and the public key is read from
this map as well. -/
theorem key_maps_read_back {secret : PrivateKey} (h : secret.IsAccepted) :
    PrivateKey.read Context.loaded.privateKeys secret.toMap = .ok secret ∧
    ((∀ key, secret = .rsa key → key.publicKey.modulus < 2 ^ Rsa.maxModulusBits) →
      PublicKey.read Context.loaded.publicKeys secret.publicKey.toMap = .ok secret.publicKey) ∧
    ∀ key, secret = .rsa key →
      (∃ text, Table.get? "data" secret.toMap = some (.string text) ∧
        (Pem.block? "PUBLIC KEY" text).map (· ++ "\n") = some key.publicKey.toPem ∧
        (Pem.block? "RSA PRIVATE KEY" text).map (· ++ "\n") = some key.toPem) ∧
      (key.publicKey.modulus < 2 ^ Rsa.maxModulusBits →
        PublicKey.read Context.loaded.publicKeys secret.toMap = .ok secret.publicKey) := by
  refine ⟨PrivateKey.read_toMap h, h.read_public_toMap, ?_⟩
  rintro key rfl
  refine ⟨⟨key.toText, (Rsa.get?_mapOf key.toText).2, ?_, ?_⟩, fun hmodulus => ?_⟩
  · exact Pem.map_block?_eq key.find?_public_toText
  · exact Pem.map_block?_eq key.find?_private_toText
  · have hacceptable := h.isAcceptable hmodulus
    exact PublicKey.read_eq_ok_of_rsa (Rsa.PrivateKey.ofMap_public_toMap hacceptable)

/-- The statement for a key that was read from its own block only: its map has both blocks. -/
theorem key_maps_read_back_small :
    smallKey.toMap.string? "data" ≠ smallKeyMap.string? "data" ∧
    PrivateKey.read Context.loaded.privateKeys smallKeyMap = .ok (.rsa smallKey) ∧
    PrivateKey.read Context.loaded.privateKeys smallKey.toMap = .ok (.rsa smallKey) ∧
    PublicKey.read Context.loaded.publicKeys smallKey.publicKey.toMap =
      .ok (.rsa smallKey.publicKey) ∧
    PublicKey.read Context.loaded.publicKeys smallKey.toMap = .ok (.rsa smallKey.publicKey) := by
  have hmodulus : smallKey.publicKey.modulus < 2 ^ Rsa.maxModulusBits := by decide +kernel
  obtain ⟨hsecret, hpublic, hrsa⟩ := key_maps_read_back (.read read_smallKeyMap)
  refine ⟨by decide +kernel, read_smallKeyMap, hsecret, hpublic ?_, (hrsa smallKey rfl).2 hmodulus⟩
  rintro key ⟨⟩
  exact hmodulus

end SelfCert
