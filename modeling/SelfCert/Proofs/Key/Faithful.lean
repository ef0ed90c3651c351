import Mathlib.NumberTheory.LucasLehmer
import SelfCert.Context
import SelfCert.Proofs.Codec.Hex
import SelfCert.Proofs.Key.Asymmetric
import SelfCert.Proofs.Key.Basic
import SelfCert.Proofs.Key.RsaText
import SelfCert.Proofs.Rsa
import SelfCert.Proofs.Text.Basic

/-!
# Readable and faithful keys

A public key is readable if a standard context reads a key of its kind and with its bytes from its
map; that key is then the same one (`PublicKey.IsReadable.read_eq`). Points are always readable,
since their map holds the digits of their bytes; RSA keys are if they may be received at all. A
private key is faithful if its public half is readable and verifies what it signs
(`PrivateKey.IsFaithful`). An RSA key with prime factors is faithful, and two Mersenne primes make
one.
-/

namespace SelfCert

/-! ### Readable public keys -/

/-- The bytes of a point have one of two lengths. -/
theorem Secp256k1.length_of_ofBytes?_eq_some {data : Bytes} {point : Point}
    (h : ofBytes? data = some point) : data.length = 33 ∨ data.length = 65 := by
  unfold ofBytes? at h
  split at h
  · cases h
  · next mark coordinates =>
    rw [List.length_cons]
    split_ifs at h with hshort _ _ hlong
    · omega
    · omega
    · omega

/-- The size of hexadecimal text. -/
theorem Hex.utf8ByteSize_encode (data : Bytes) :
    (encode data).utf8ByteSize = 2 * data.length := by
  have hascii : ∀ c ∈ (encode data).toList, c.utf8Size = 1 := fun c hc => by
    rw [encode, String.toList_ofList] at hc
    obtain ⟨n, hn⟩ := Option.isSome_iff_exists.mp (isWritten_of_mem_digits hc).isSome_digit?
    exact utf8Size_eq_one hn
  rw [Text.utf8ByteSize_eq_length hascii, encode, String.toList_ofList, length_digits]

/-- A map with digits of bytes holds the field that is required. -/
theorem KeyMap.required_data {map : KeyMap} {data : Bytes} (hne : data ≠ [])
    (hdata : Table.get? "data" map = some (.string (Hex.encode data))) :
    map.required "data" = .ok (Hex.encode data) := by
  refine KeyMap.required_eq_ok hdata fun h => ?_
  have hsize := Hex.utf8ByteSize_encode data
  have hlength : 0 < data.length := List.length_pos_iff.mpr hne
  rw [h, String.utf8ByteSize_empty] at hsize
  omega

namespace EccPublicKey

/-- A key is the one of its bytes. -/
theorem ofBytes_data (key : EccPublicKey) : ofBytes key.data = .ok key := by
  unfold ofBytes
  split
  · next point hpoint =>
    obtain rfl : key.point = point := Option.some_injective _ (key.reads.symm.trans hpoint)
    rfl
  · next hpoint =>
    rw [key.reads] at hpoint
    cases hpoint

theorem data_ne_nil (key : EccPublicKey) : key.data ≠ [] := by
  intro h
  have hreads := key.reads
  rw [h] at hreads
  cases hreads

/-- What the map of bytes holds. -/
theorem get?_mapOf (data : Bytes) :
    Table.get? "algorithm" (mapOf data) = some (.string KeyAlgorithm.ecc.tag) ∧
      Table.get? "data" (mapOf data) = some (.string (Hex.encode data)) := by
  simp [mapOf, Table.ofList, Table.insertAll, Table.get?_insert_of_ne]

/-- **A point is read back from its map**, in each form in which it is received. -/
theorem ofMap_toMap (key : EccPublicKey) : ofMap key.toMap = .ok key := by
  have hlength := Secp256k1.length_of_ofBytes?_eq_some key.reads
  have hhex : ofHex (Hex.encode key.data) = .ok key := by
    rw [ofHex, if_pos, Hex.decode?_encode]
    · exact key.ofBytes_data
    · rw [Hex.utf8ByteSize_encode, shortLength, longLength]
      omega
  have hrequired := KeyMap.required_data key.data_ne_nil (get?_mapOf key.data).2
  exact Except.bind_eq_ok_iff.mpr ⟨_, hrequired, hhex⟩

end EccPublicKey

namespace Ed25519PublicKey

theorem data_ne_nil (key : Ed25519PublicKey) : key.data ≠ [] := by
  intro h
  have hpoint := key.isPoint
  rw [h] at hpoint
  exact absurd hpoint (by decide)

/-- What the map of bytes holds. -/
theorem get?_mapOf (data : Bytes) :
    Table.get? "algorithm" (mapOf data) = some (.string KeyAlgorithm.ed25519.tag) ∧
      Table.get? "data" (mapOf data) = some (.string (Hex.encode data)) := by
  simp [mapOf, Table.ofList, Table.insertAll, Table.get?_insert_of_ne]

/-- **A point is read back from its map.** -/
theorem ofMap_toMap (key : Ed25519PublicKey) : ofMap key.toMap = .ok key := by
  have hhex : ofHex (Hex.encode key.data) = .ok key := by
    rw [ofHex, Hex.decode?_encode]
    exact dif_pos key.isPoint
  have hrequired := KeyMap.required_data key.data_ne_nil (get?_mapOf key.data).2
  exact Except.bind_eq_ok_iff.mpr ⟨_, hrequired, hhex⟩

end Ed25519PublicKey

namespace Rsa

/-- What the map of a text holds. -/
theorem get?_mapOf (data : String) :
    Table.get? "algorithm" (mapOf data) = some (.string KeyAlgorithm.rsa.tag) ∧
      Table.get? "data" (mapOf data) = some (.string data) := by
  simp [mapOf, Table.ofList, Table.insertAll, Table.get?_insert_of_ne]

/-- A text that begins with a block is found in its map. -/
theorem required_mapOf (label : String) (bytes : Bytes) (rest : String) :
    (mapOf (Pem.write label bytes ++ rest)).required "data" =
      .ok (Pem.write label bytes ++ rest) := by
  refine KeyMap.required_eq_ok (get?_mapOf _).2 fun h => ?_
  have hnil := congrArg String.toList h
  simp [Pem.write, Pem.opening] at hnil

/-- **A public key is read back from its map**, if it may be received. -/
theorem PublicKey.ofMap_toMap {key : PublicKey} (h : key.isAcceptable) :
    ofMap key.toMap = .ok key := by
  have hrequired := required_mapOf "PUBLIC KEY" key.toDer ""
  have hread := ofText_toPem_append h ""
  rw [String.append_empty] at hrequired hread
  exact Except.bind_eq_ok_iff.mpr ⟨_, hrequired, hread⟩

end Rsa

namespace PublicKey

/-- Every public key has bytes. -/
theorem data_ne_nil (key : PublicKey) : key.data ≠ [] := by
  cases key with
  | ecc key => exact key.data_ne_nil
  | ed25519 key => exact key.data_ne_nil
  | rsa key => exact List.cons_ne_nil _ _

theorem same_self (key : PublicKey) : key.same key := by
  simp [same]

/-- Whether a standard context reads a key of the same kind and with the same bytes from the map of
a key. -/
def IsReadable (key : PublicKey) : Prop :=
  ∃ found, read Context.loaded.publicKeys key.toMap = .ok found ∧ found.same key

/-- What is read from the map of a readable key is that key. -/
theorem IsReadable.read_eq {key : PublicKey} (h : key.IsReadable) :
    read Context.loaded.publicKeys key.toMap = .ok key := by
  obtain ⟨found, hread, hsame⟩ := h
  rw [hread, eq_of_same hread hsame]

theorem isReadable_iff {key : PublicKey} :
    key.IsReadable ↔ read Context.loaded.publicKeys key.toMap = .ok key :=
  ⟨IsReadable.read_eq, fun h => ⟨key, h, by simp [same]⟩⟩

/-- A map that names its kind is read as a key of that kind. -/
theorem read_eq_ofMap {map : KeyMap} (kind : KeyAlgorithm)
    (halgorithm : Table.get? "algorithm" map = some (.string kind.tag)) :
    read Context.loaded.publicKeys map = ofMap kind map := by
  have hkind : Table.get? kind.tag Context.loaded.publicKeys = some kind := by
    cases kind <;> rfl
  rw [read, KeyMap.resolveKind_eq_ok halgorithm hkind]
  rfl

/-- What is read from a map on its own is read by a standard context. -/
theorem read_eq_ok_of_rsa {text : String} {key : Rsa.PublicKey}
    (h : Rsa.PublicKey.ofMap (Rsa.mapOf text) = .ok key) :
    read Context.loaded.publicKeys (Rsa.mapOf text) = .ok (rsa key) :=
  (read_eq_ofMap .rsa (Rsa.get?_mapOf text).1).trans (Except.map_eq_ok_iff.mpr ⟨key, h, rfl⟩)

/-- **Points of secp256k1 are readable.** -/
theorem isReadable_ecc (key : EccPublicKey) : (ecc key).IsReadable := by
  refine ⟨ecc key, (read_eq_ofMap .ecc (EccPublicKey.get?_mapOf key.data).1).trans ?_, same_self _⟩
  exact Except.map_eq_ok_iff.mpr ⟨key, key.ofMap_toMap, rfl⟩

/-- **Points of the Edwards curve are readable.** -/
theorem isReadable_ed25519 (key : Ed25519PublicKey) : (ed25519 key).IsReadable := by
  refine ⟨ed25519 key,
    (read_eq_ofMap .ed25519 (Ed25519PublicKey.get?_mapOf key.data).1).trans ?_, same_self _⟩
  exact Except.map_eq_ok_iff.mpr ⟨key, key.ofMap_toMap, rfl⟩

/-- **RSA keys are readable**, if they may be received. -/
theorem isReadable_rsa {key : Rsa.PublicKey} (h : key.isAcceptable) : (rsa key).IsReadable :=
  ⟨rsa key, read_eq_ok_of_rsa (Rsa.PublicKey.ofMap_toMap h), same_self _⟩

end PublicKey

/-! ### Faithful private keys -/

/-- A private key whose public half verifies all its signatures and is read back from its map, by
kind and bytes. -/
structure PrivateKey.IsFaithful (secret : PrivateKey) : Prop where
  verifies : ∀ message, secret.publicKey.verify message (secret.sign message)
  reads : ∃ key, PublicKey.read Context.loaded.publicKeys secret.publicKey.toMap = .ok key ∧
    key.same secret.publicKey

theorem PrivateKey.IsFaithful.read_eq {secret : PrivateKey} (h : secret.IsFaithful) :
    PublicKey.read Context.loaded.publicKeys secret.publicKey.toMap = .ok secret.publicKey :=
  PublicKey.IsReadable.read_eq h.reads

/-- An RSA key with prime factors is faithful, if it is long enough to sign and its public half may
be received. -/
theorem Rsa.PrivateKey.isFaithful {key : Rsa.PrivateKey} (h : key.HasPrimeFactors)
    (hsize : 62 ≤ key.publicKey.size) (hacceptable : key.publicKey.isAcceptable) :
    (PrivateKey.rsa key).IsFaithful where
  verifies := Rsa.PrivateKey.verify_sign h hsize
  reads := PublicKey.isReadable_rsa hacceptable

/-! ### An example -/

namespace Mersenne

/-- The first factor, a Mersenne prime. -/
def first : Nat := mersenne 521

/-- The second factor, a Mersenne prime. -/
def second : Nat := mersenne 127

/-- The public half of a key of 648 bits. -/
def publicKey : Rsa.PublicKey := ⟨first * second, Rsa.newExponent⟩

/-- The private key with these factors. -/
def privateKey? : Option Rsa.PrivateKey :=
  (Modular.inverse? ((first - 1) * (second - 1)) Rsa.newExponent).bind fun secret =>
    Rsa.PrivateKey.ofNumbers? publicKey secret first second

theorem prime_first : first.Prime :=
  lucas_lehmer_sufficiency _ (by norm_num) (by norm_num)

theorem prime_second : second.Prime :=
  lucas_lehmer_sufficiency _ (by norm_num) (by norm_num)

/-- The numbers form a key, which is long enough to sign and whose public half may be received. -/
theorem isSome_privateKey? :
    privateKey?.isSome ∧ 62 ≤ publicKey.size ∧ publicKey.isAcceptable := by
  decide +kernel

/-- There is such a key, and it is faithful. -/
theorem exists_isFaithful : ∃ secret : PrivateKey, secret.IsFaithful := by
  obtain ⟨hsome, hsize, hacceptable⟩ := isSome_privateKey?
  obtain ⟨key, hkey⟩ := Option.isSome_iff_exists.mp hsome
  obtain ⟨secret, -, hnumbers⟩ := Option.bind_eq_some_iff.mp hkey
  obtain ⟨hpublic, hfactors⟩ :=
    Rsa.PrivateKey.hasPrimeFactors_of_ofNumbers?_eq_some hnumbers prime_first prime_second
  rw [← hpublic] at hsize hacceptable
  exact ⟨.rsa key, Rsa.PrivateKey.isFaithful hfactors hsize hacceptable⟩

end Mersenne

end SelfCert
