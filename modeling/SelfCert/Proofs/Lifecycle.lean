import SelfCert.Proofs.Key.Faithful
import SelfCert.Proofs.Matching
import SelfCert.Proofs.Signing

/-!
# Accounts across the wire

What one side makes of a key and of its signatures, another side reads: the meta, the identifier and
the documents (`account_lifecycle`). Who makes the signatures does not matter. The assumptions are
that the key verifies them and that it can be read from its map; so it is for faithful private keys
(`PrivateKey.IsFaithful`), of which RSA keys with prime factors are an example.
-/

namespace SelfCert

/-! ### Metas -/

/-- Of the built-in schemes only the standard one has seeds. -/
theorem Scheme.eq_standard_of_hasSeed {scheme : Scheme} (hscheme : scheme ∈ Scheme.builtIn)
    (h : scheme.hasSeed) : scheme = .standard := by
  rcases Scheme.mem_builtIn_iff.mp hscheme with rfl | rfl | rfl
  · rfl
  · cases h
  · cases h

namespace Meta

theorem mem_keptSeed_iff {scheme : Scheme} {seed : Option String} {text : String} :
    text ∈ keptSeed scheme seed ↔ text ∈ seed ∧ text ≠ "" ∧ scheme.hasSeed := by
  simp [keptSeed]

theorem keptSeed_eq_none {scheme : Scheme} (h : scheme.hasSeed = false) (seed : Option String) :
    keptSeed scheme seed = none := by
  simp [keptSeed, h]

section Generate

variable {scheme : Scheme} {key : PublicKey} {signer : Bytes → Bytes}
  (hscheme : scheme ∈ Scheme.builtIn) (hverifies : ∀ message, key.verify message (signer message))
  (halgorithm : scheme = .ethereum → key.algorithm = .ecc) (seed : Option String)

include hscheme hverifies halgorithm

/-- A scheme admits a key with the kept seed and the signature of it, if the key verifies that. -/
theorem admits_keptSeed :
    scheme.admits key (keptSeed scheme seed)
      ((keptSeed scheme seed).map fun text => signer (Utf8.encode text)) := by
  rcases Scheme.mem_builtIn_iff.mp hscheme with rfl | rfl | rfl
  · cases keptSeed .standard seed with
    | none => rfl
    | some text => exact hverifies _
  · have hdata : key.data.isEmpty = false := by
      simpa using key.data_ne_nil
    rw [keptSeed_eq_none rfl]
    simp [Scheme.admits, hdata]
  · rw [keptSeed_eq_none rfl]
    cases key with
    | ecc key =>
      have hreads := key.reads
      simp [Scheme.admits, PublicKey.algorithm, PublicKey.data, hreads]
    | ed25519 key => cases halgorithm rfl
    | rsa key => cases halgorithm rfl

/-- **There is a meta of a key under each built-in scheme**, if the key verifies its signatures;
under the one of Ethereum it has to be a point. The meta keeps the seed where there is one, with its
signature. -/
theorem exists_generateWith :
    ∃ m : Meta, generateWith scheme key signer seed = .ok m ∧ m.scheme = scheme ∧
      m.key = key ∧ m.seed = keptSeed scheme seed ∧
      m.fingerprint = m.seed.map fun text =>
        EncodedData.ofBytes .base64 (signer (Utf8.encode text)) := by
  let signed := (keptSeed scheme seed).map fun text =>
    EncodedData.ofBytes .base64 (signer (Utf8.encode text))
  have hadmits : scheme.admits key (keptSeed scheme seed) (signed.map (·.data)) := by
    rw [Option.map_map]
    exact admits_keptSeed hscheme hverifies halgorithm seed
  let m : Meta := ⟨scheme, key, keptSeed scheme seed, signed, hadmits⟩
  have hseed : ∀ text ∈ m.seed, text ≠ "" := fun text htext => (mem_keptSeed_iff.mp htext).2.1
  exact ⟨m, create_parts hscheme hseed, rfl, rfl, rfl, rfl⟩

end Generate

end Meta

/-! ### Identifiers -/

/-- The networks in which a scheme has addresses: the first eight, or that of users only. -/
def Scheme.covers (scheme : Scheme) (network : Entity) : Bool :=
  match scheme with
  | .standard => network.code ≤ 7
  | .bitcoin => network = .user
  | .ethereum => network = .user
  | .custom _ => false

namespace Meta

/-- A meta has an address in each network that its scheme covers. -/
theorem exists_address {m : Meta} {network : Entity} (hnetwork : m.scheme.covers network) :
    ∃ address, m.address network = .ok address := by
  have hconsistent := m.isConsistent
  unfold Scheme.covers at hnetwork
  unfold address Address.derive
  cases hscheme : m.scheme with
  | standard =>
    rw [hscheme] at hnetwork
    exact ⟨_, if_pos hnetwork⟩
  | bitcoin =>
    rw [hscheme] at hnetwork
    exact ⟨_, if_pos (of_decide_eq_true hnetwork)⟩
  | ethereum =>
    rw [hscheme] at hnetwork hconsistent
    simp only [Scheme.admits, Bool.and_eq_true] at hconsistent
    obtain ⟨point, hpoint⟩ := Option.isSome_iff_exists.mp hconsistent.2
    simp only
    rw [if_pos (of_decide_eq_true hnetwork), Address.ofPointBytes, hpoint]
    exact ⟨_, rfl⟩
  | custom tag =>
    rw [hscheme] at hnetwork
    cases hnetwork

/-- A meta whose seed can be a name has an identifier in each network that its scheme covers. -/
theorem exists_identifier {m : Meta} {network : Entity} {terminal : Option String}
    (hnetwork : m.scheme.covers network) (hseed : ∀ text ∈ m.seed, isPartText text)
    (hterminal : ∀ text ∈ terminal, isPartText text) :
    ∃ id, m.identifier network terminal = .ok id := by
  obtain ⟨address, haddress⟩ := exists_address hnetwork
  rw [identifier_eq_new haddress]
  let id : Identifier := ⟨m.seed, address, terminal, hseed, hterminal⟩
  exact ⟨id, id.new_parts⟩

end Meta

/-! ### Documents -/

namespace Draft

variable (draft : Draft)

/-- **A signed document is read by any standard context**, with the identifier it is about and with
properties that verify under a key that verifies the signatures of the signer. -/
theorem exists_received {key : PublicKey} {signer : Bytes → Bytes}
    (hverifies : ∀ message, key.verify message (signer message))
    (issued : draft.did.address.Issued) (h : Json.IsPlain Json.maxDepth (.object draft.properties))
    (now : Int64) (there : List Request) :
    ∃ document received, draft.signWith signer now = .ok document ∧
      document.properties = (draft.stamped now).properties ∧
      ((Context.after there).parseDocument document.toJson).1 = .ok received ∧
      received.did = draft.did ∧
      received.verifiedProperties key = some document.properties := by
  obtain ⟨content, hsign, -, hproperties, hsignature⟩ := Draft.exists_signWith h signer now
  let document : Document := ⟨draft.did, draft.kind, some content⟩
  have hread : ∀ encoded ∈ document.signature,
      EncodedData.ofJson Context.loaded.encodings encoded.toJson = .ok encoded := by
    intro encoded hencoded
    obtain rfl : content.signature = encoded := Option.some_injective _ hencoded
    rw [hsignature]
    exact EncodedData.ofJson_bare rfl _
  have hparse := Document.parse_toJson issued hread
  -- What arrives is the text that was signed, not a text that is written anew.
  have hverified : key.verify (Utf8.encode content.text) content.signature.data := by
    rw [hsignature]
    exact hverifies _
  rw [← Context.parseDocument_after there] at hparse
  exact ⟨document, _, hsign, hproperties, hparse, rfl, if_pos hverified⟩

end Draft

/-! ### The whole way -/

/-- **Accounts get across the wire.** Take a readable key and whatever makes signatures that it
verifies, such as a private key and its public half, and the tag of a scheme that covers a network.
There is a valid meta of the key, which keeps the seed with its signature, unless the seed is empty
or the scheme has none; and there is an identifier of the meta in that network, with the seed as its
name and with the terminal. Any other standard context reads both of them back and finds that they
belong together. It also reads each document with plain properties that is signed about the
identifier: exactly the signed properties verify under the key of the meta. -/
theorem account_lifecycle {key : PublicKey} {signer : Bytes → Bytes}
    (hverifies : ∀ message, key.verify message (signer message)) (hreads : key.IsReadable)
    {tag : String} {scheme : Scheme} (htag : Table.get? tag Context.loaded.metas = some scheme)
    (halgorithm : scheme = .ethereum → key.algorithm = .ecc) {seed : Option String}
    (hseed : ∀ text ∈ seed, scheme = .standard → isUnmarked text) {network : Entity}
    (hnetwork : scheme.covers network) {terminal : Option String}
    (hterminal : ∀ text ∈ terminal, isPartText text) (here : List Request) :
    ∃ m id, (Context.after here).generateMetaWith tag key signer seed = .ok m ∧ m.isValid ∧
      m.scheme = scheme ∧ m.key = key ∧ m.seed = Meta.keptSeed scheme seed ∧
      m.fingerprint =
        m.seed.map (fun text => EncodedData.ofBytes .base64 (signer (Utf8.encode text))) ∧
      ((Context.after here).deriveIdentifier m network terminal).1 = .ok id ∧
      id.name = m.seed ∧ id.network = network ∧ id.terminal = terminal ∧
      ∀ there : List Request, (Context.after there).parseMeta m.toJson = .ok m ∧
        ((Context.after there).parseIdentifier id.text).1 = .ok id ∧
        ((Context.after there).matchesIdentifier m id).1 = true ∧
        ∀ kind properties now, Json.IsPlain Json.maxDepth (.object properties) →
          ∃ document received,
            Draft.signWith ⟨id, kind, properties⟩ signer now = .ok document ∧
            document.properties = ((⟨id, kind, properties⟩ : Draft).stamped now).properties ∧
            ((Context.after there).parseDocument document.toJson).1 = .ok received ∧
            received.did = id ∧
            received.verifiedProperties m.key = some document.properties := by
  have hscheme := Context.mem_builtIn_of_get?_metas htag
  obtain ⟨m, hgenerate, hmScheme, hmKey, hmSeed, hmFingerprint⟩ :=
    Meta.exists_generateWith hscheme hverifies halgorithm seed
  -- A seed that is kept belongs to the standard scheme, so it is free of marks and can be a name.
  have hpart : ∀ text ∈ m.seed, isPartText text := fun text htext => by
    rw [hmSeed, Meta.mem_keptSeed_iff] at htext
    obtain ⟨htext, hne, hhas⟩ := htext
    have hstandard : scheme = .standard := Scheme.eq_standard_of_hasSeed hscheme hhas
    rw [isPartText, hseed text htext hstandard, Bool.and_true]
    simpa using hne
  obtain ⟨id, hid⟩ := Meta.exists_identifier (hmScheme ▸ hnetwork) hpart hterminal
  obtain ⟨hname, hidNetwork, hidTerminal⟩ := Meta.parts_of_identifier_eq_ok hid
  have issued : id.address.Issued := Meta.issued_of_identifier_eq_ok hid
  refine ⟨m, id, ?_, m.isConsistent, hmScheme, hmKey, hmSeed, hmFingerprint, ?_, hname, hidNetwork,
    hidTerminal, fun there => ⟨?_, ?_, ?_, ?_⟩⟩
  · have hresolve : Context.loaded.scheme tag = .ok scheme := by
      rw [Context.scheme, Registry.resolve_of_get?_eq_some htag]
    rw [Context.generateMetaWith_after, Context.generateMetaWith, hresolve]
    exact hgenerate
  · rw [Context.deriveIdentifier_after, hid]
  · refine Context.parseMeta_toJson there (hmScheme ▸ hscheme)
      (fun text htext => (isPartText_iff.mp (hpart text htext)).1) ?_ fun encoded hencoded => ?_
    · rw [hmKey, hreads.read_eq]
    · rw [hmFingerprint] at hencoded
      obtain ⟨text, -, rfl⟩ := Option.map_eq_some_iff.mp hencoded
      exact EncodedData.ofJson_bare rfl _
  · rw [Context.parseIdentifier_after, Identifier.parse_text issued]
  · rw [Context.matchesIdentifier_after]
    exact Meta.belongsTo_of_identifier_eq_ok hid
  · intro kind properties now hplain
    rw [hmKey]
    exact Draft.exists_received ⟨id, kind, properties⟩ hverifies issued hplain now there

/-- The statement for a private key with two Mersenne primes, a seed, a terminal and a document that
shows a name. -/
theorem account_lifecycle_mersenne :
    ∃ (secret : PrivateKey) (m : Meta) (id : Identifier) (document received : Document),
      secret.IsFaithful ∧
      (Context.after []).generateMeta "mkm" secret (some "moky") = .ok m ∧
      m.seed = some "moky" ∧
      m.fingerprint = some (.ofBytes .base64 (secret.sign (Utf8.encode "moky"))) ∧
      ((Context.after []).deriveIdentifier m .user (some "phone")).1 = .ok id ∧
      id.name = some "moky" ∧ id.terminal = some "phone" ∧
      (Context.after [.parseAddress "anywhere"]).parseMeta m.toJson = .ok m ∧
      ((Context.after [.parseAddress "anywhere"]).matchesIdentifier m id).1 = true ∧
      Draft.sign ⟨id, .visa, [("name", .string "Moky")]⟩ secret 0 = .ok document ∧
      ((Context.after [.parseAddress "anywhere"]).parseDocument document.toJson).1 =
        .ok received ∧
      received.verifiedProperties m.key =
        some [("name", .string "Moky"), ("time", .ofInt64 0)] := by
  obtain ⟨secret, hsecret⟩ := Mersenne.exists_isFaithful
  have hplain : Json.IsPlain Json.maxDepth (.object [("name", .string "Moky")]) := by
    refine .object (by decide) fun field hfield => ?_
    rw [List.mem_singleton.mp hfield]
    exact .string _ _
  obtain ⟨m, id, hgenerate, -, -, -, hseed, hfingerprint, hderive, hname, -, hterminal, hthere⟩ :=
    account_lifecycle hsecret.verifies hsecret.reads
      (rfl : Table.get? "mkm" _ = some .standard) nofun
      (by decide : ∀ text ∈ some "moky", Scheme.standard = .standard → isUnmarked text)
      (by decide : Scheme.standard.covers .user)
      (by decide : ∀ text ∈ some "phone", isPartText text) []
  have hkept : m.seed = some "moky" := hseed
  rw [hkept] at hfingerprint hname
  obtain ⟨hmeta, -, hmatches, hdocuments⟩ := hthere [.parseAddress "anywhere"]
  obtain ⟨document, received, hsign, hproperties, hparse, -, hverified⟩ :=
    hdocuments .visa [("name", .string "Moky")] 0 hplain
  refine ⟨secret, m, id, document, received, hsecret, hgenerate, hkept, hfingerprint, hderive,
    hname, hterminal, hmeta, hmatches, hsign, hparse, ?_⟩
  rw [hverified, hproperties]
  rfl

end SelfCert
