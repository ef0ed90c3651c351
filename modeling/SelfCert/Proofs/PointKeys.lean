import SelfCert.Proofs.Curve.PointBytes
import SelfCert.Proofs.Key.Faithful
import SelfCert.Proofs.Matching
import SelfCert.Proofs.MetaWire

/-!
# Points that are received in different forms

A point can be received in a short form and in the long one. The key keeps the form it was received
in, and whatever is made of its bytes differs with it; but an Ethereum address is made of the long
form, which is the same for all of them (`ethereum_addresses_are_of_points`).
-/

namespace SelfCert

namespace EccPublicKey

variable {data : Bytes} {key : EccPublicKey}

/-- Each key is the one of its own bytes, and of no others. -/
theorem ofBytes_eq_ok_iff : ofBytes data = .ok key ↔ key.data = data := by
  constructor
  · intro h
    unfold ofBytes at h
    split at h
    · cases h
      rfl
    · cases h
  · rintro rfl
    exact key.ofBytes_data

theorem isOnCurve_point (key : EccPublicKey) : key.point.isOnCurve :=
  (Secp256k1.ofBytes?_eq_some_iff.mp key.reads).1

/-- Each form of a point is received as the point. -/
theorem exists_ofBytes_eq_ok {q : Secp256k1.Point} (hcurve : q.isOnCurve) (h : q.IsForm data) :
    ∃ key, ofBytes data = .ok key ∧ key.point = q :=
  ⟨⟨data, q, h.ofBytes?_eq hcurve⟩, ofBytes_eq_ok_iff.mpr rfl, rfl⟩

/-- **The long form is the long form of itself.** -/
theorem uncompressedPoint_uncompressed (key : EccPublicKey) :
    uncompressedPoint key.uncompressed = .ok key.uncompressed := by
  obtain ⟨long, hread, hpoint⟩ := exists_ofBytes_eq_ok key.isOnCurve_point (.uncompressed key.point)
  rw [uncompressedPoint, uncompressed, hread, Except.map, uncompressed, hpoint]

end EccPublicKey

/-! ### Addresses -/

/-- The address of the bytes of a key is the address of its point. -/
theorem Address.ofPointBytes_data (key : EccPublicKey) :
    ofPointBytes key.data = .ok (ofPoint key.point) := by
  rw [ofPointBytes, key.reads]

namespace Meta

variable {m m' : Meta} {key key' : EccPublicKey}

/-- A meta of the Ethereum scheme has no seed. -/
theorem seed_eq_none (h : m.scheme = .ethereum) : m.seed = none := by
  have hadmits := m.isConsistent
  rw [h] at hadmits
  simp only [Scheme.admits, Bool.and_eq_true, Option.isNone_iff_eq_none] at hadmits
  exact hadmits.1.1.1

/-- Its address is that of the point, in the one network there is. -/
theorem address_eq_of_ethereum (h : m.scheme = .ethereum) (hkey : m.key = .ecc key)
    (network : Entity) :
    m.address network =
      if network = .user then .ok (Address.ofPoint key.point)
      else .error (.unsupportedNetwork .ethereum network) := by
  have hdata : m.key.data = key.data := by rw [hkey]; rfl
  rw [address, h, hdata, Address.derive, Address.ofPointBytes_data]

/-- **Metas of the Ethereum scheme with one point have the same identifiers**, and the same
identifiers belong to them. -/
theorem identifier_eq_of_point_eq (h : m.scheme = .ethereum) (h' : m'.scheme = .ethereum)
    (hkey : m.key = .ecc key) (hkey' : m'.key = .ecc key') (hpoint : key'.point = key.point) :
    (∀ network terminal, m'.identifier network terminal = m.identifier network terminal) ∧
      ∀ did, m'.belongsTo did = m.belongsTo did := by
  have haddress : ∀ network, m'.address network = m.address network := fun network => by
    rw [address_eq_of_ethereum h hkey, address_eq_of_ethereum h' hkey', hpoint]
  refine ⟨fun network terminal => ?_, fun did => ?_⟩
  · rw [identifier, identifier, haddress, seed_eq_none h, seed_eq_none h']
  · have hvalid : m.isValid := m.isConsistent
    have hvalid' : m'.isValid := m'.isConsistent
    rw [belongsTo, belongsTo, haddress, seed_eq_none h, seed_eq_none h', hvalid, hvalid']

/-- There is a meta of the Ethereum scheme for each key that is a point. -/
theorem exists_createMeta_eq_ok (requests : List Request) (key : EccPublicKey) :
    ∃ m, (Context.after requests).createMeta "ETH" (.ecc key) none none = .ok m ∧
      m.scheme = .ethereum ∧ m.key = .ecc key := by
  have hadmits : Scheme.ethereum.admits (.ecc key) none none := by
    have hreads : Secp256k1.ofBytes? (PublicKey.ecc key).data = some key.point := key.reads
    rw [Scheme.admits, hreads]
    rfl
  have hscheme : Context.loaded.scheme "ETH" = .ok .ethereum := by decide
  refine ⟨⟨.ethereum, .ecc key, none, none, hadmits⟩, ?_, rfl, rfl⟩
  rw [Context.createMeta_after, Context.createMeta, hscheme]
  exact dif_pos hadmits

end Meta

/-! ### Main result -/

/-- **Ethereum addresses are of points, whatever form they are received in.** For each byte string
that is received as a key:
the long form of its point has 65 bytes, begins with a 4, is received too and is its own long form;
the short and the long form of the point are received as the same point;
there is a meta of the Ethereum scheme for the key;
every byte string that is received as the same point has the same Ethereum address, and metas of the
Ethereum scheme with the one and with the other key have the same identifiers, each of which belongs
to both;
and the key keeps its bytes, its map holds their digits and is read back as the key, and the Base58
addresses of a meta are made of these bytes. -/
theorem ethereum_addresses_are_of_points {data : Bytes} {key : EccPublicKey}
    (h : EccPublicKey.ofBytes data = .ok key) :
    (EccPublicKey.uncompressedPoint data = .ok key.uncompressed ∧
      key.uncompressed.length = 65 ∧ key.uncompressed.head? = some 4 ∧
      EccPublicKey.uncompressedPoint key.uncompressed = .ok key.uncompressed) ∧
    (∃ short long, EccPublicKey.ofBytes key.point.compressed = .ok short ∧
      EccPublicKey.ofBytes key.uncompressed = .ok long ∧
      short.point = key.point ∧ long.point = key.point) ∧
    (∀ requests, ∃ m, (Context.after requests).createMeta "ETH" (.ecc key) none none = .ok m ∧
      m.scheme = .ethereum ∧ m.key = .ecc key) ∧
    (∀ (other : Bytes) (twin : EccPublicKey), EccPublicKey.ofBytes other = .ok twin →
      twin.point = key.point →
      (∃ address, Address.ofPointBytes data = .ok address ∧
        Address.ofPointBytes other = .ok address) ∧
      ∀ m m' : Meta, m.scheme = .ethereum → m.key = .ecc key →
        m'.scheme = .ethereum → m'.key = .ecc twin → ∀ here there : List Request,
        (∀ network terminal, ((Context.after there).deriveIdentifier m' network terminal).1 =
          ((Context.after here).deriveIdentifier m network terminal).1) ∧
        ∀ network terminal did,
          ((Context.after here).deriveIdentifier m network terminal).1 = .ok did →
          ((Context.after there).matchesIdentifier m' did).1 = true) ∧
    key.data = data ∧
    Table.get? "data" (PublicKey.ecc key).toMap = some (.string (Hex.encode data)) ∧
    PublicKey.read Context.loaded.publicKeys (PublicKey.ecc key).toMap = .ok (.ecc key) ∧
    ∀ m : Meta, m.key = .ecc key → ∀ (requests : List Request) (network : Entity),
      (m.scheme = .standard → network.isDerivable →
        ((Context.after requests).deriveAddress m network).1 = .ok (Address.ofKey data network)) ∧
      (m.scheme = .bitcoin →
        ((Context.after requests).deriveAddress m .user).1 = .ok (Address.ofKey data .user)) := by
  obtain rfl := EccPublicKey.ofBytes_eq_ok_iff.mp h
  refine ⟨⟨?_, key.point.length_uncompressed, rfl, key.uncompressedPoint_uncompressed⟩, ?_,
    fun requests => Meta.exists_createMeta_eq_ok requests key, ?_, rfl,
    (EccPublicKey.get?_mapOf key.data).2, (PublicKey.isReadable_ecc key).read_eq, ?_⟩
  · rw [EccPublicKey.uncompressedPoint, h]
    rfl
  · obtain ⟨short, hshort, hsame⟩ :=
      EccPublicKey.exists_ofBytes_eq_ok key.isOnCurve_point (.compressed key.point)
    obtain ⟨long, hlong, hsame'⟩ :=
      EccPublicKey.exists_ofBytes_eq_ok key.isOnCurve_point (.uncompressed key.point)
    exact ⟨short, long, hshort, hlong, hsame, hsame'⟩
  · intro other twin hother hpoint
    obtain rfl := EccPublicKey.ofBytes_eq_ok_iff.mp hother
    refine ⟨⟨_, Address.ofPointBytes_data key, ?_⟩, ?_⟩
    · rw [Address.ofPointBytes_data, hpoint]
    · intro m m' hscheme hkey hscheme' hkey' here there
      obtain ⟨hidentifier, hbelongs⟩ :=
        Meta.identifier_eq_of_point_eq hscheme hscheme' hkey hkey' hpoint
      simp only [Context.deriveIdentifier_after, Context.matchesIdentifier_after, hbelongs]
      exact ⟨hidentifier, fun _ _ _ hderive => Meta.belongsTo_of_identifier_eq_ok hderive⟩
  · intro m hkey requests network
    have hdata : m.key.data = key.data := by rw [hkey]; rfl
    simp only [Context.deriveAddress_after, Meta.address, hdata]
    refine ⟨fun hscheme hderivable => ?_, fun hscheme => ?_⟩
    · rw [hscheme]
      exact if_pos hderivable
    · rw [hscheme]
      rfl

/-- The statement for the base point: an identifier that is derived from its short form belongs to
the meta with its long form. -/
theorem ethereum_addresses_are_of_points_generator :
    ∃ (short long : EccPublicKey) (m m' : Meta) (did : Identifier),
      EccPublicKey.ofBytes Secp256k1.generator.compressed = .ok short ∧
      EccPublicKey.ofBytes short.uncompressed = .ok long ∧ short.data ≠ long.data ∧
      m.key = .ecc short ∧ m'.key = .ecc long ∧
      ((Context.after []).deriveIdentifier m .user none).1 = .ok did ∧
      ((Context.after [.parseAddress "anywhere"]).matchesIdentifier m' did).1 = true := by
  obtain ⟨short, hshort, hpoint⟩ :=
    EccPublicKey.exists_ofBytes_eq_ok Secp256k1.isOnCurve_generator (.compressed _)
  obtain ⟨-, ⟨-, long, -, hlong, -, htwin⟩, hmeta, hother, hdata, -⟩ :=
    ethereum_addresses_are_of_points hshort
  obtain ⟨m, -, hscheme, hkey⟩ := hmeta []
  obtain ⟨m', -, hscheme', hkey'⟩ := Meta.exists_createMeta_eq_ok [] long
  let did : Identifier := ⟨none, .ofPoint short.point, none, by simp, by simp⟩
  have haddress : m.address .user = .ok (.ofPoint short.point) := by
    rw [Meta.address_eq_of_ethereum hscheme hkey, if_pos rfl]
  have hderive : ((Context.after []).deriveIdentifier m .user none).1 = .ok did := by
    rw [Context.deriveIdentifier_after, Meta.identifier_eq_new haddress, Meta.seed_eq_none hscheme]
    exact did.new_parts
  have hlongData : long.data = short.uncompressed := EccPublicKey.ofBytes_eq_ok_iff.mp hlong
  have hne : short.data ≠ long.data := by
    rw [hdata, hlongData, EccPublicKey.uncompressed, hpoint]
    decide
  exact ⟨short, long, m, m', did, hshort, hlong, hne, hkey, hkey', hderive,
    ((hother _ long hlong htwin).2 m m' hscheme hkey hscheme' hkey' [] [.parseAddress "anywhere"]).2
      .user none did hderive⟩

end SelfCert
