import SelfCert.Proofs.Lifecycle
import SelfCert.Proofs.MetaReading

/-!
# Two ways to make a meta of parts

A meta is made of its parts as they are (`Meta.new`), or with an empty seed counted as none
(`Meta.create`). The second way drops the seed only and keeps the fingerprint, so the two part at an
empty seed of the standard scheme: where there is no fingerprint only `create` answers, and where
the fingerprint signs the empty text only `new` does (`Meta.toOption_create_eq_iff`).

What `new` makes then is a valid meta with an empty seed. All other metas of built-in schemes are
made again of their parts both ways, and read from their values if their key and their fingerprint
are (`Context.parseMeta_toJson_iff`). A meta with an empty seed is read from no value
(`Context.parseMeta_toJson_ne_ok`), and since no name is empty there is no identifier for it
(`Meta.exists_identifier_iff`).
-/

namespace SelfCert

namespace Meta

variable {m : Meta} {scheme : Scheme} {key : PublicKey} {seed : Option String}
  {fingerprint : Option EncodedData}

/-! ### Both ways -/

theorem forall_ne_empty_iff : (∀ text ∈ seed, text ≠ "") ↔ seed ≠ some "" := by
  cases seed <;> simp

/-- With an empty seed counted as none there must be no fingerprint. -/
theorem exists_create_empty_iff :
    (∃ m, create .standard key (some "") fingerprint = .ok m) ↔ fingerprint = none := by
  have hcreate : create .standard key (some "") fingerprint =
      ofParts .standard key none fingerprint := rfl
  rw [hcreate, exists_ofParts_iff]
  cases fingerprint <;> simp [Scheme.admits, PublicKey.vouches]

/-- An empty seed that is kept asks for a signature of the empty text. -/
theorem exists_new_empty_iff :
    (∃ m, new .standard key (some "") fingerprint = .ok m) ↔
      ∃ encoded, fingerprint = some encoded ∧ key.verify [] encoded.data := by
  have hnew : new .standard key (some "") fingerprint =
      ofParts .standard key (some "") fingerprint := rfl
  have hempty : Utf8.encode "" = [] := rfl
  rw [hnew, exists_ofParts_iff]
  cases fingerprint <;> simp [Scheme.admits, PublicKey.vouches, hempty]

/-- Elsewhere than at an empty seed of the standard scheme the two ways agree, refusals included. -/
theorem create_eq_new_of_ne_empty (hscheme : scheme ∈ Scheme.builtIn)
    (h : scheme = .standard → seed ≠ some "") :
    create scheme key seed fingerprint = new scheme key seed fingerprint :=
  create_eq_new hscheme (fun hhas =>
    forall_ne_empty_iff.mpr (h (Scheme.eq_standard_of_hasSeed hscheme hhas))) key fingerprint

/-- **Where the two ways part**: at an empty seed of the standard scheme, unless both refuse. -/
theorem toOption_create_eq_iff (hscheme : scheme ∈ Scheme.builtIn) :
    (create scheme key seed fingerprint).toOption = (new scheme key seed fingerprint).toOption ↔
      (scheme = .standard → seed = some "" →
        ∃ encoded, fingerprint = some encoded ∧ key.verify [] encoded.data = false) := by
  by_cases hempty : scheme = .standard ∧ seed = some ""
  · obtain ⟨rfl, rfl⟩ := hempty
    simp only [forall_const]
    cases fingerprint with
    | none => exact iff_of_false nofun (by simp)
    | some encoded =>
      have hcreate : (create .standard key (some "") (some encoded)).toOption = none := rfl
      rw [hcreate, eq_comm, Except.toOption_eq_none_iff, exists_new_empty_iff]
      simp
  · rw [create_eq_new_of_ne_empty hscheme fun hstandard hseed => hempty ⟨hstandard, hseed⟩]
    exact iff_of_true rfl fun hstandard hseed => absurd ⟨hstandard, hseed⟩ hempty

/-- A meta is made of its parts with empty seeds left out exactly if its own seed is not empty. -/
theorem create_parts_iff (hscheme : m.scheme ∈ Scheme.builtIn) :
    create m.scheme m.key m.seed m.fingerprint = .ok m ↔ m.seed ≠ some "" := by
  rw [← forall_ne_empty_iff]
  refine ⟨fun hcreate text htext => ?_, create_parts hscheme⟩
  exact ((parts_of_create_eq_ok hcreate).2.2 text htext).2

/-! ### Identifiers -/

/-- A meta has an address in the networks that its scheme covers, and in no others. -/
theorem exists_address_iff {network : Entity} :
    (∃ address, m.address network = .ok address) ↔ m.scheme.covers network := by
  refine ⟨?_, exists_address⟩
  rintro ⟨address, haddress⟩
  obtain ⟨hscheme, hderivable, -⟩ | ⟨hscheme, rfl, -⟩ | ⟨hscheme, rfl, -⟩ :=
    Address.derive_cases haddress
  · rw [hscheme]
    exact hderivable
  · rw [hscheme]
    rfl
  · rw [hscheme]
    rfl

/-- **When a meta has an identifier**: its scheme covers the network, its seed can be a name, and
the terminal can be one. -/
theorem exists_identifier_iff {network : Entity} {terminal : Option String} :
    (∃ did, m.identifier network terminal = .ok did) ↔
      m.scheme.covers network ∧ (∀ text ∈ m.seed, isPartText text) ∧
        ∀ text ∈ terminal, isPartText text := by
  constructor
  · rintro ⟨did, hdid⟩
    obtain ⟨address, haddress, -⟩ := exists_address_of_identifier_eq_ok hdid
    obtain ⟨hname, -, hterminal⟩ := parts_of_identifier_eq_ok hdid
    rw [← hname, ← hterminal]
    exact ⟨exists_address_iff.mp ⟨address, haddress⟩, did.name_isPart, did.terminal_isPart⟩
  · rintro ⟨hnetwork, hseed, hterminal⟩
    exact exists_identifier hnetwork hseed hterminal

end Meta

/-! ### Values -/

namespace Meta

variable {m found : Meta} {encodings : Registry Encoding} {kinds : Registry KeyAlgorithm}

/-- A seed belongs to the standard scheme. -/
theorem eq_standard_of_seed_eq_some (hscheme : m.scheme ∈ Scheme.builtIn) {text : String}
    (hseed : m.seed = some text) : m.scheme = .standard := by
  refine Scheme.eq_standard_of_hasSeed hscheme (Bool.eq_true_of_not_eq_false fun hhas => ?_)
  rw [(eq_none_of_not_hasSeed hhas).1] at hseed
  cases hseed

/-- What is read from the map of a meta is made of its seed, and of what its key and its fingerprint
are read as. -/
theorem exists_create_of_ofFields_toMap_eq_ok
    (h : ofFields encodings kinds m.scheme m.toMap = .ok found) :
    ∃ fingerprint, PublicKey.read kinds m.key.toMap = .ok found.key ∧
      fingerprintOf encodings m.toMap = .ok fingerprint ∧
      m.seed.isSome = fingerprint.isSome ∧
      create m.scheme found.key m.seed fingerprint = .ok found := by
  obtain ⟨map, key, seed, fingerprint, hmap, hkey, hseed, hfingerprint, hboth, hcreate⟩ :=
    ofFields_eq_ok_iff.mp h
  obtain rfl : m.key.toMap = map := by simpa [m.get?_toMap.2.1] using hmap
  obtain rfl : m.seed = seed := Except.ok.inj (m.seedOf_toMap.symm.trans hseed)
  obtain ⟨-, rfl, -⟩ := parts_of_create_eq_ok hcreate
  exact ⟨fingerprint, hkey, hfingerprint, hboth, hcreate⟩

/-- A fingerprint that is read back in the map of a meta is read back by itself too. -/
theorem ofJson_of_fingerprintOf_toMap_eq_ok
    (h : fingerprintOf encodings m.toMap = .ok m.fingerprint) :
    ∀ encoded ∈ m.fingerprint, EncodedData.ofJson encodings encoded.toJson = .ok encoded := by
  intro encoded hencoded
  rw [fingerprintOf, Json.Object.present?, m.get?_toMap.2.2.2, hencoded] at h
  have hvalue : EncodedData.toJson encoded = .string encoded.toString := rfl
  simp only [Option.map_some, hvalue] at h ⊢
  split at h
  · next found hfound =>
    obtain rfl : found = encoded := Option.some.inj (Except.ok.inj h)
    exact hfound
  · cases h

end Meta

namespace Context

variable {m : Meta} (hscheme : m.scheme ∈ Scheme.builtIn) (requests : List Request)

include hscheme

/-- A meta with an empty seed has a value from which nothing is read. -/
theorem parseMeta_toJson_ne_ok (hempty : m.seed = some "") (found : Meta) :
    (after requests).parseMeta m.toJson ≠ .ok found := by
  intro h
  rw [parseMeta_toJson_eq_ofFields requests hscheme] at h
  obtain ⟨fingerprint, -, -, hboth, hcreate⟩ := Meta.exists_create_of_ofFields_toMap_eq_ok h
  have hsome : fingerprint.isSome := by rw [← hboth, hempty]; rfl
  obtain ⟨encoded, hencoded⟩ := Option.isSome_iff_exists.mp hsome
  have hsigned := ((Meta.exists_create_iff hscheme hboth).mp ⟨found, hcreate⟩).1
    (Meta.eq_standard_of_seed_eq_some hscheme hempty)
  exact (hsigned "" hempty encoded hencoded).1 rfl

/-- **Which metas are read from their values**: those without an empty seed whose key and whose
fingerprint, if any, are read back. -/
theorem parseMeta_toJson_iff :
    (after requests).parseMeta m.toJson = .ok m ↔
      m.seed ≠ some "" ∧ m.key.IsReadable ∧ ∀ encoded ∈ m.fingerprint, encoded.HasPlainType := by
  have hplain : (∀ encoded ∈ m.fingerprint, encoded.HasPlainType) ↔ ∀ encoded ∈ m.fingerprint,
      EncodedData.ofJson loaded.encodings encoded.toJson = .ok encoded :=
    forall₂_congr fun _ _ => (EncodedData.ofJson_toJson_iff standard_encodings).symm
  rw [PublicKey.isReadable_iff, hplain]
  constructor
  · intro h
    have hempty : m.seed ≠ some "" := fun hempty =>
      parseMeta_toJson_ne_ok hscheme requests hempty m h
    rw [parseMeta_toJson_eq_ofFields requests hscheme] at h
    obtain ⟨fingerprint, hkey, hfingerprint, hboth, hcreate⟩ :=
      Meta.exists_create_of_ofFields_toMap_eq_ok h
    refine ⟨hempty, hkey, fun encoded hencoded => ?_⟩
    -- A meta with a fingerprint has a seed, so that it is made under the standard scheme.
    have hsome : m.seed.isSome := by rw [m.isSome_seed_eq, hencoded]; rfl
    obtain ⟨text, hseed⟩ := Option.isSome_iff_exists.mp hsome
    rw [Meta.eq_standard_of_seed_eq_some hscheme hseed] at hcreate
    rw [← (Meta.parts_of_create_standard hboth hcreate).2] at hfingerprint
    exact Meta.ofJson_of_fingerprintOf_toMap_eq_ok hfingerprint encoded hencoded
  · rintro ⟨hempty, hkey, hread⟩
    exact parseMeta_toJson requests hscheme (Meta.forall_ne_empty_iff.mpr hempty) hkey hread

end Context

/-! ### Main result -/

/-- **The two ways to make a meta agree but for empty seeds.** Of the same parts of a built-in
scheme both make the same meta or refuse alike, unless the scheme is the standard one and the seed
is empty. Then the one makes a meta exactly if there is no fingerprint, and the other exactly if the
fingerprint signs the empty text. What either makes is made again of its own parts; it is read back
from its value exactly if its seed is not empty and its key and its fingerprint can be read, and it
has an identifier exactly in the networks that its scheme covers and if its seed and the terminal
can be names. -/
theorem metas_made_of_parts {scheme : Scheme} (hscheme : scheme ∈ Scheme.builtIn)
    (key : PublicKey) (seed : Option String) (fingerprint : Option EncodedData) :
    ((scheme = .standard → seed ≠ some "") →
      Meta.create scheme key seed fingerprint = Meta.new scheme key seed fingerprint) ∧
    ((Meta.create scheme key seed fingerprint).toOption =
        (Meta.new scheme key seed fingerprint).toOption ↔
      (scheme = .standard → seed = some "" →
        ∃ encoded, fingerprint = some encoded ∧ key.verify [] encoded.data = false)) ∧
    (scheme = .standard → seed = some "" →
      ((∃ m, Meta.create scheme key seed fingerprint = .ok m) ↔ fingerprint = none) ∧
      ((∃ m, Meta.new scheme key seed fingerprint = .ok m) ↔
        ∃ encoded, fingerprint = some encoded ∧ key.verify [] encoded.data)) ∧
    ∀ m, Meta.create scheme key seed fingerprint = .ok m ∨
        Meta.new scheme key seed fingerprint = .ok m →
      Meta.new m.scheme m.key m.seed m.fingerprint = .ok m ∧
      (Meta.create m.scheme m.key m.seed m.fingerprint = .ok m ↔ m.seed ≠ some "") ∧
      ∀ requests : List Request,
        ((Context.after requests).parseMeta m.toJson = .ok m ↔
          m.seed ≠ some "" ∧ m.key.IsReadable ∧
            ∀ encoded ∈ m.fingerprint, encoded.HasPlainType) ∧
        (m.seed = some "" → ∀ found, (Context.after requests).parseMeta m.toJson ≠ .ok found) ∧
        ∀ network terminal,
          (∃ did, ((Context.after requests).deriveIdentifier m network terminal).1 = .ok did) ↔
            m.scheme.covers network ∧ (∀ text ∈ m.seed, isPartText text) ∧
              ∀ text ∈ terminal, isPartText text := by
  refine ⟨?_, ?_, ?_, fun m hmade => ?_⟩
  · exact Meta.create_eq_new_of_ne_empty hscheme
  · exact Meta.toOption_create_eq_iff hscheme
  · rintro rfl rfl
    exact ⟨Meta.exists_create_empty_iff, Meta.exists_new_empty_iff⟩
  · have hsame : m.scheme = scheme :=
      hmade.elim (fun h => (Meta.parts_of_create_eq_ok h).1) fun h => (Meta.parts_of_new_eq_ok h).1
    rw [← hsame] at hscheme
    refine ⟨m.new_parts, Meta.create_parts_iff hscheme, fun requests => ⟨?_, ?_, ?_⟩⟩
    · exact Context.parseMeta_toJson_iff hscheme requests
    · exact Context.parseMeta_toJson_ne_ok hscheme requests
    · intro network terminal
      rw [Context.deriveIdentifier_after]
      exact Meta.exists_identifier_iff

/-- The statement for a key with two Mersenne primes: both ways make one meta of a seed that the key
signed, and this meta is read back and has an identifier. -/
theorem metas_made_of_parts_mersenne :
    ∃ (secret : PrivateKey) (m : Meta) (did : Identifier), m.seed = some "moky" ∧
      Meta.new .standard secret.publicKey (some "moky") m.fingerprint = .ok m ∧
      Meta.create .standard secret.publicKey (some "moky") m.fingerprint = .ok m ∧
      (Context.after [.parseAddress "anywhere"]).parseMeta m.toJson = .ok m ∧
      ((Context.after []).deriveIdentifier m .group none).1 = .ok did := by
  obtain ⟨secret, hsecret⟩ := Mersenne.exists_isFaithful
  let m : Meta := ⟨.standard, secret.publicKey, some "moky",
    some (.ofBytes .base64 (secret.sign (Utf8.encode "moky"))), hsecret.verifies _⟩
  obtain ⟨hagree, -, -, hmade⟩ := metas_made_of_parts (List.mem_cons_self : m.scheme ∈ _) m.key
    m.seed m.fingerprint
  have hnew : Meta.new .standard secret.publicKey (some "moky") m.fingerprint = .ok m :=
    m.new_parts
  have hcreate := (hagree fun _ => by simp [m]).trans hnew
  obtain ⟨-, -, hcontext⟩ := hmade m (.inr hnew)
  obtain ⟨did, hdid⟩ := ((hcontext []).2.2 .group none).mpr
    ⟨rfl, by rintro _ ⟨⟩; decide, nofun⟩
  have hplain : ∀ encoded ∈ m.fingerprint, encoded.HasPlainType := by
    rintro _ ⟨⟩ _ ⟨⟩
  exact ⟨secret, m, did, rfl, hnew, hcreate,
    (hcontext [.parseAddress "anywhere"]).1.mpr ⟨by simp [m], hsecret.reads, hplain⟩, hdid⟩

/-! ### A meta with an empty seed -/

/-- An Ed25519 key that signed the empty text. -/
def emptySigner : Bytes :=
  [0xd7, 0x5a, 0x98, 0x01, 0x82, 0xb1, 0x0a, 0xb7, 0xd5, 0x4b, 0xfe, 0xd3, 0xc9, 0x64, 0x07, 0x3a,
    0x0e, 0xe1, 0x72, 0xf3, 0xda, 0xa6, 0x23, 0x25, 0xaf, 0x02, 0x1a, 0x68, 0xf7, 0x07, 0x51, 0x1a]

/-- Its signature of the empty text. -/
def emptySignature : Bytes :=
  [0xe5, 0x56, 0x43, 0x00, 0xc3, 0x60, 0xac, 0x72, 0x90, 0x86, 0xe2, 0xcc, 0x80, 0x6e, 0x82, 0x8a,
    0x84, 0x87, 0x7f, 0x1e, 0xb8, 0xe5, 0xd9, 0x74, 0xd8, 0x73, 0xe0, 0x65, 0x22, 0x49, 0x01, 0x55,
    0x5f, 0xb8, 0x82, 0x15, 0x90, 0xa3, 0x3b, 0xac, 0xc6, 0x1e, 0x39, 0x70, 0x1c, 0xf9, 0xb4, 0x6b,
    0xd2, 0x5b, 0xf5, 0xf0, 0x59, 0x5b, 0xbe, 0x24, 0x65, 0x51, 0x41, 0x43, 0x8e, 0x7a, 0x10, 0x0b]

/-- **A signed empty seed**: one way makes a valid meta of it, whose value is not read back and
which has no identifier, and the other way refuses it. Without the signature it is the other way
round. -/
theorem empty_seed_parts_the_ways :
    ∃ (key : PublicKey) (m bare : Meta), key.data = emptySigner ∧
      let signed := some (EncodedData.ofBytes .base64 emptySignature)
      Meta.new .standard key (some "") signed = .ok m ∧ m.isValid ∧
      Meta.create .standard key (some "") signed = .error .oneSided ∧
      (Context.after []).parseMeta m.toJson = .error .oneSided ∧
      ((Context.after []).deriveIdentifier m .user none).1 = .error (.emptyPart .name) ∧
      Meta.new .standard key (some "") none = .error .oneSided ∧
      Meta.create .standard key (some "") none = .ok bare ∧ bare.seed = none := by
  let key : PublicKey := .ed25519 ⟨emptySigner, by decide +kernel⟩
  let signed := EncodedData.ofBytes .base64 emptySignature
  let m : Meta := ⟨.standard, key, some "", some signed, by decide +kernel⟩
  have hparse : (Context.after []).parseMeta m.toJson = .error .oneSided := by
    decide +kernel
  have hderive : ((Context.after []).deriveIdentifier m .user none).1 =
      .error (.emptyPart .name) := by
    rw [Context.deriveIdentifier_after]
    rfl
  exact ⟨key, m, ⟨.standard, key, none, none, rfl⟩, rfl, m.new_parts, m.isConsistent, rfl, hparse,
    hderive, rfl, rfl, rfl⟩

end SelfCert
