import SelfCert.Proofs.DataWire

/-!
# Which maps are metas

A map describes a meta if its fields can be read and fit together (`Meta.IsDescribed`): it names a
registered scheme and a key, it has both a seed and a fingerprint or neither of them, and under the
standard scheme the key signed the seed. A standard context reads exactly these maps
(`described_metas_are_read`). Under the other schemes a seed and a fingerprint have to be readable,
but nobody looks at them, and the meta has neither.
-/

namespace SelfCert

/-! ### Fields that may be missing -/

namespace Json.Object

variable {α : Type} {fields : Json.Object} {key : String}

/-- Whether a field that may be missing has a value: it is missing or `null` where there is none,
and what it holds is read as the value otherwise. -/
def Holds (fields : Json.Object) (key : String) (reads : Json → α → Prop) : Option α → Prop
  | none => Table.get? key fields = none ∨ Table.get? key fields = some .null
  | some value => ∃ field, Table.get? key fields = some field ∧ reads field value

/-- A field counts as missing exactly if it is missing or `null`. -/
theorem present?_eq_none_iff :
    fields.present? key = none ↔
      Table.get? key fields = none ∨ Table.get? key fields = some .null := by
  unfold present?
  split
  · next hnull => exact iff_of_true rfl (.inr hnull)
  · next hother => exact ⟨.inl, fun h => h.resolve_right hother⟩

/-- Every other field is there. -/
theorem present?_eq_some_iff {field : Json} :
    fields.present? key = some field ↔ Table.get? key fields = some field ∧ field ≠ .null := by
  unfold present?
  split
  · next hnull =>
    rw [hnull]
    refine iff_of_false nofun ?_
    rintro ⟨⟨⟩, hne⟩
    exact hne rfl
  · next hother =>
    refine ⟨fun h => ⟨h, ?_⟩, And.left⟩
    rintro rfl
    exact hother h

variable {reads : Json → α → Prop} {value : α}

theorem holds_none_iff : fields.Holds key reads none ↔ fields.present? key = none :=
  present?_eq_none_iff.symm

/-- What is read from a field that is there, if nothing is read from `null`. -/
theorem holds_some_iff (hnull : ¬reads .null value) :
    fields.Holds key reads (some value) ↔
      ∃ field, fields.present? key = some field ∧ reads field value := by
  constructor
  · rintro ⟨field, hget, hreads⟩
    refine ⟨field, present?_eq_some_iff.mpr ⟨hget, ?_⟩, hreads⟩
    rintro rfl
    exact hnull hreads
  · rintro ⟨field, hpresent, hreads⟩
    exact ⟨field, (present?_eq_some_iff.mp hpresent).1, hreads⟩

end Json.Object

namespace Meta

variable {scheme : Scheme} {key : PublicKey} {seed : Option String}
  {fingerprint : Option EncodedData} {fields : Json.Object} {m : Meta}

/-- Whether the fields of a map describe a meta with a given scheme and key, and hold a given seed
and fingerprint. -/
structure IsDescribed (fields : Json.Object) (scheme : Scheme) (key : PublicKey)
    (seed : Option String) (fingerprint : Option EncodedData) : Prop where
  /-- The type is a registered tag, or a number with such a text. -/
  hasType : ∃ kind tag, Table.get? "type" fields = some kind ∧
    (kind = .string tag ∨ ∃ n, kind = .number n ∧ kind.compact = tag) ∧
    Table.get? tag Context.loaded.metas = some scheme
  hasKey : ∃ map, Table.get? "key" fields = some (.object map) ∧
    PublicKey.read Context.loaded.publicKeys map = .ok key
  hasSeed : fields.Holds "seed" (fun field text => field = .string text) seed
  hasFingerprint : fields.Holds "fingerprint"
    (fun field encoded => Context.loaded.parseData field = .ok encoded) fingerprint
  isSome_eq : seed.isSome = fingerprint.isSome
  /-- Under the standard scheme the key signed the seed, which is not empty. -/
  isSigned : scheme = .standard → ∀ text ∈ seed, ∀ encoded ∈ fingerprint,
    text ≠ "" ∧ key.verify (Utf8.encode text) encoded.data
  /-- Under the scheme of Ethereum the key is a point of its curve. -/
  isPoint : scheme = .ethereum → key.algorithm = .ecc

/-! ### Reading the fields -/

theorem seedOf_eq_ok_iff :
    seedOf fields = .ok seed ↔
      fields.Holds "seed" (fun field text => field = .string text) seed := by
  unfold seedOf
  cases seed with
  | none =>
    rw [Json.Object.holds_none_iff]
    split <;> simp_all
  | some text =>
    rw [Json.Object.holds_some_iff nofun]
    split <;> simp_all

theorem fingerprintOf_eq_ok_iff :
    fingerprintOf Context.loaded.encodings fields = .ok fingerprint ↔
      fields.Holds "fingerprint"
        (fun field encoded => Context.loaded.parseData field = .ok encoded) fingerprint := by
  unfold fingerprintOf
  cases fingerprint with
  | none =>
    rw [Json.Object.holds_none_iff]
    split
    · next hnone => simp [hnone]
    · next value hvalue => cases EncodedData.ofJson Context.loaded.encodings value <;> simp [hvalue]
  | some encoded =>
    rw [Json.Object.holds_some_iff nofun]
    split
    · next hnone => simp [hnone]
    · next value hvalue =>
      rw [hvalue]
      cases hread : EncodedData.ofJson Context.loaded.encodings value <;>
        simp [Context.parseData, hread]

/-- The tag of a type is the text of a string, or that of a number. -/
theorem tag?_eq_some_iff {kind : Json} {tag : String} (hne : tag ≠ "") :
    kind.tag? = some tag ↔ kind = .string tag ∨ ∃ n, kind = .number n ∧ kind.compact = tag := by
  cases kind with
  | string text =>
    rw [Json.tag?]
    split_ifs with hempty
    · rw [String.isEmpty_iff] at hempty
      simp [hempty, hne.symm]
    · simp
  | number n => simp [Json.tag?, Json.compact, Json.text, Json.Number.toString]
  | null => simp [Json.tag?]
  | bool b => simp [Json.tag?]
  | array items => simp [Json.tag?]
  | object fields => simp [Json.tag?]

/-! ### Parts that fit together -/

/-- Parts that a scheme admits make a meta. -/
theorem exists_ofParts_iff :
    (∃ m, ofParts scheme key seed fingerprint = .ok m) ↔
      scheme.admits key seed (fingerprint.map (·.data)) := by
  constructor
  · rintro ⟨m, hparts⟩
    obtain ⟨rfl, rfl, rfl, rfl⟩ := parts_of_ofParts_eq_ok hparts
    exact m.isConsistent
  · intro hadmits
    exact ⟨_, ofParts_parts ⟨scheme, key, seed, fingerprint, hadmits⟩⟩

/-- Under the standard scheme a meta is made of a seed that is not empty and was signed, or of
neither seed nor fingerprint. -/
theorem exists_create_standard_iff (hboth : seed.isSome = fingerprint.isSome) :
    (∃ m, create .standard key seed fingerprint = .ok m) ↔
      ∀ text ∈ seed, ∀ encoded ∈ fingerprint,
        text ≠ "" ∧ key.verify (Utf8.encode text) encoded.data := by
  have hcreate : create .standard key seed fingerprint =
      ofParts .standard key (seed.filter fun text => !text.isEmpty) fingerprint := rfl
  rw [hcreate, exists_ofParts_iff]
  cases seed with
  | none =>
    obtain rfl : fingerprint = none := by simpa using hboth.symm
    simp [Scheme.admits, PublicKey.vouches]
  | some text =>
    obtain ⟨encoded, rfl⟩ := Option.isSome_iff_exists.mp hboth.symm
    by_cases hempty : text = ""
    · simp [hempty, Scheme.admits, PublicKey.vouches]
    · simp [hempty, Option.filter_some, Scheme.admits, PublicKey.vouches]

theorem exists_create_bitcoin (key : PublicKey) (seed : Option String)
    (fingerprint : Option EncodedData) : ∃ m, create .bitcoin key seed fingerprint = .ok m := by
  have hcreate : create .bitcoin key seed fingerprint = ofParts .bitcoin key none none := rfl
  rw [hcreate, exists_ofParts_iff]
  simp [Scheme.admits, key.data_ne_nil]

/-- Under the scheme of Ethereum a meta is made of every point. -/
theorem exists_create_ethereum_iff :
    (∃ m, create .ethereum key seed fingerprint = .ok m) ↔ key.algorithm = .ecc := by
  have hcreate : create .ethereum key seed fingerprint = ofParts .ethereum key none none := rfl
  rw [hcreate, exists_ofParts_iff]
  cases key with
  | ecc point => simp [Scheme.admits, PublicKey.algorithm, PublicKey.data, point.reads]
  | ed25519 key => simp [Scheme.admits, PublicKey.algorithm]
  | rsa key => simp [Scheme.admits, PublicKey.algorithm]

/-- **When parts make a meta of a built-in scheme.** -/
theorem exists_create_iff (hscheme : scheme ∈ Scheme.builtIn)
    (hboth : seed.isSome = fingerprint.isSome) :
    (∃ m, create scheme key seed fingerprint = .ok m) ↔
      (scheme = .standard → ∀ text ∈ seed, ∀ encoded ∈ fingerprint,
        text ≠ "" ∧ key.verify (Utf8.encode text) encoded.data) ∧
      (scheme = .ethereum → key.algorithm = .ecc) := by
  obtain rfl | rfl | rfl := Scheme.mem_builtIn_iff.mp hscheme
  · simp [exists_create_standard_iff hboth]
  · simp [exists_create_bitcoin]
  · simp [exists_create_ethereum_iff]

/-- A meta of the standard scheme has the seed and the fingerprint that it was made of. -/
theorem parts_of_create_standard (hboth : seed.isSome = fingerprint.isSome)
    (h : create .standard key seed fingerprint = .ok m) :
    m.seed = seed ∧ m.fingerprint = fingerprint := by
  obtain ⟨-, -, hseed, hfingerprint⟩ := parts_of_ofParts_eq_ok h
  refine ⟨?_, hfingerprint⟩
  have hsome : m.seed.isSome = seed.isSome := by
    rw [m.isSome_seed_eq, hfingerprint, hboth]
  cases seed with
  | none => rwa [Option.filter_none] at hseed
  | some text =>
    rw [hseed] at hsome ⊢
    exact Option.filter_eq_some_iff.mpr ⟨rfl, by simpa using hsome⟩

end Meta

namespace Context

variable {fields : Json.Object} {m : Meta}

/-- The schemes are found under the registered tags. -/
theorem scheme_loaded_eq_ok_iff {tag : String} {scheme : Scheme} :
    loaded.scheme tag = .ok scheme ↔ Table.get? tag loaded.metas = some scheme := by
  have hwildcard : Table.get? Registry.wildcard loaded.metas = none := by decide
  rw [Context.scheme, Registry.resolve, hwildcard, Option.or_none]
  split <;> simp_all

/-- No scheme is registered under the empty tag. -/
theorem ne_empty_of_get?_metas {tag : String} {scheme : Scheme}
    (h : Table.get? tag loaded.metas = some scheme) : tag ≠ "" := by
  have hempty : Table.get? "" loaded.metas = none := by decide
  rintro rfl
  rw [hempty] at h
  cases h

/-- A map is read under the scheme that its type is registered for. -/
theorem parseMeta_object_eq_ok_iff :
    loaded.parseMeta (.object fields) = .ok m ↔
      ∃ kind tag scheme, Table.get? "type" fields = some kind ∧
        (kind = .string tag ∨ ∃ n, kind = .number n ∧ kind.compact = tag) ∧
        Table.get? tag loaded.metas = some scheme ∧
        Meta.ofFields loaded.encodings loaded.publicKeys scheme fields = .ok m := by
  rw [parseMeta, Json.mapOf?]
  constructor
  · intro h
    simp only at h
    split at h
    · cases h
    · next tag htag =>
      obtain ⟨scheme, hscheme, hread⟩ := Except.bind_eq_ok_iff.mp h
      obtain ⟨kind, hkind, hnames⟩ := Option.bind_eq_some_iff.mp htag
      rw [scheme_loaded_eq_ok_iff] at hscheme
      exact ⟨kind, tag, scheme, hkind,
        (Meta.tag?_eq_some_iff (ne_empty_of_get?_metas hscheme)).mp hnames, hscheme, hread⟩
  · rintro ⟨kind, tag, scheme, hkind, hnames, hscheme, hread⟩
    rw [← Meta.tag?_eq_some_iff (ne_empty_of_get?_metas hscheme)] at hnames
    simp only [hkind, Option.bind_some, hnames, scheme_loaded_eq_ok_iff.mpr hscheme]
    exact hread

end Context

namespace Meta

variable {scheme : Scheme} {key : PublicKey} {seed : Option String}
  {fingerprint : Option EncodedData} {fields : Json.Object} {m : Meta}

/-- A map that describes a meta is read as one that is made of the parts it describes. -/
theorem IsDescribed.exists_create (h : IsDescribed fields scheme key seed fingerprint) :
    ∃ m, create scheme key seed fingerprint = .ok m ∧
      Context.loaded.parseMeta (.object fields) = .ok m := by
  obtain ⟨kind, tag, hkind, hnames, hscheme⟩ := h.hasType
  obtain ⟨map, hmap, hkey⟩ := h.hasKey
  obtain ⟨m, hcreate⟩ :=
    (exists_create_iff (Context.mem_builtIn_of_get?_metas hscheme) h.isSome_eq).mpr
      ⟨h.isSigned, h.isPoint⟩
  refine ⟨m, hcreate, Context.parseMeta_object_eq_ok_iff.mpr
    ⟨kind, tag, scheme, hkind, hnames, hscheme, ofFields_eq_ok_iff.mpr ?_⟩⟩
  exact ⟨map, key, seed, fingerprint, hmap, hkey, seedOf_eq_ok_iff.mpr h.hasSeed,
    fingerprintOf_eq_ok_iff.mpr h.hasFingerprint, h.isSome_eq, hcreate⟩

/-- A map that is read as a meta describes one. -/
theorem exists_isDescribed (h : Context.loaded.parseMeta (.object fields) = .ok m) :
    ∃ scheme key seed fingerprint, IsDescribed fields scheme key seed fingerprint := by
  obtain ⟨kind, tag, scheme, hkind, hnames, hscheme, hread⟩ :=
    Context.parseMeta_object_eq_ok_iff.mp h
  obtain ⟨map, key, seed, fingerprint, hmap, hkey, hseed, hfingerprint, hboth, hcreate⟩ :=
    ofFields_eq_ok_iff.mp hread
  obtain ⟨hsigned, hpoint⟩ :=
    (exists_create_iff (Context.mem_builtIn_of_get?_metas hscheme) hboth).mp ⟨m, hcreate⟩
  exact ⟨scheme, key, seed, fingerprint, ⟨kind, tag, hkind, hnames, hscheme⟩, ⟨map, hmap, hkey⟩,
    seedOf_eq_ok_iff.mp hseed, fingerprintOf_eq_ok_iff.mp hfingerprint, hboth, hsigned, hpoint⟩

end Meta

/-- **Metas are read from the maps that describe them**, and from no others. The meta has the scheme
and the key that the map describes. Under the standard scheme it has the seed and the fingerprint of
the map too, and under the other two it has neither, whatever the map holds. -/
theorem described_metas_are_read (requests : List Request) (fields : Json.Object) :
    ((∃ m, (Context.after requests).parseMeta (.object fields) = .ok m) ↔
        ∃ scheme key seed fingerprint,
          Meta.IsDescribed fields scheme key seed fingerprint) ∧
      ∀ m scheme key seed fingerprint,
        (Context.after requests).parseMeta (.object fields) = .ok m →
        Meta.IsDescribed fields scheme key seed fingerprint →
        m.scheme = scheme ∧ m.key = key ∧
          (scheme = .standard → m.seed = seed ∧ m.fingerprint = fingerprint) ∧
          (scheme = .bitcoin ∨ scheme = .ethereum → m.seed = none ∧ m.fingerprint = none) := by
  rw [Context.parseMeta_after]
  refine ⟨⟨?_, ?_⟩, ?_⟩
  · rintro ⟨m, hparse⟩
    exact Meta.exists_isDescribed hparse
  · rintro ⟨scheme, key, seed, fingerprint, hdescribed⟩
    obtain ⟨m, -, hparse⟩ := hdescribed.exists_create
    exact ⟨m, hparse⟩
  · intro m scheme key seed fingerprint hparse hdescribed
    obtain ⟨found, hcreate, hfound⟩ := hdescribed.exists_create
    obtain rfl : m = found := Except.ok.inj (hparse.symm.trans hfound)
    obtain ⟨hscheme, hkey, -⟩ := Meta.parts_of_create_eq_ok hcreate
    refine ⟨hscheme, hkey, ?_, ?_⟩
    · rintro rfl
      exact Meta.parts_of_create_standard hdescribed.isSome_eq hcreate
    · intro hother
      apply m.eq_none_of_not_hasSeed
      obtain rfl | rfl := hother
      · rw [hscheme]
        rfl
      · rw [hscheme]
        rfl

/-- A map that holds a signed seed is read with the seed if its type is `mkm`. With the number 2 as
its type, it is read without the seed, even if there is no signature in the fingerprint. -/
theorem described_metas_are_read_mersenne :
    ∃ (secret : PrivateKey) (m bare : Meta),
      let fields (kind : Json) (fingerprint : String) : Json.Object :=
        Table.ofList [("type", kind), ("key", .object secret.publicKey.toMap),
          ("seed", .string "moky"), ("fingerprint", .string fingerprint)]
      let encoded := EncodedData.ofBytes .base64 (secret.sign (Utf8.encode "moky"))
      let two : Json := .number (.integer ⟨2, by decide, by decide⟩)
      Meta.IsDescribed (fields (.string "mkm") encoded.toString) .standard secret.publicKey
          (some "moky") (some encoded) ∧
        (Context.after []).parseMeta (.object (fields (.string "mkm") encoded.toString)) = .ok m ∧
        m.seed = some "moky" ∧ m.fingerprint = some encoded ∧
        (Context.after []).parseMeta (.object (fields two "")) = .ok bare ∧
        bare.scheme = .bitcoin ∧ bare.seed = none ∧ bare.fingerprint = none := by
  obtain ⟨secret, hsecret⟩ := Mersenne.exists_isFaithful
  let fields (kind : Json) (fingerprint : String) : Json.Object :=
    Table.ofList [("type", kind), ("key", .object secret.publicKey.toMap),
      ("seed", .string "moky"), ("fingerprint", .string fingerprint)]
  have hfields (kind : Json) (fingerprint : String) :
      Table.get? "type" (fields kind fingerprint) = some kind ∧
        Table.get? "key" (fields kind fingerprint) = some (.object secret.publicKey.toMap) ∧
        Table.get? "seed" (fields kind fingerprint) = some (.string "moky") ∧
        Table.get? "fingerprint" (fields kind fingerprint) = some (.string fingerprint) := by
    simp [fields, Table.ofList, Table.insertAll, Table.get?_insert_of_ne]
  let encoded := EncodedData.ofBytes .base64 (secret.sign (Utf8.encode "moky"))
  let two : Json := .number (.integer ⟨2, by decide, by decide⟩)
  have hencoded : Context.loaded.parseData (.string encoded.toString) = .ok encoded :=
    EncodedData.ofJson_toJson Context.standard_encodings (by rintro _ ⟨⟩)
  have hsigned : Meta.IsDescribed (fields (.string "mkm") encoded.toString) .standard
      secret.publicKey (some "moky") (some encoded) := by
    obtain ⟨htype, hkey, hseed, hfingerprint⟩ := hfields (.string "mkm") encoded.toString
    refine ⟨⟨_, "mkm", htype, .inl rfl, by decide⟩, ⟨_, hkey, hsecret.read_eq⟩, ⟨_, hseed, rfl⟩,
      ⟨_, hfingerprint, hencoded⟩, rfl, ?_, ?_⟩
    · rintro - _ ⟨⟩ _ ⟨⟩
      exact ⟨by decide, hsecret.verifies _⟩
    · rintro ⟨⟩
  have hbare : Meta.IsDescribed (fields two "") .bitcoin secret.publicKey (some "moky")
      (some (.ofBytes .base64 [])) := by
    obtain ⟨htype, hkey, hseed, hfingerprint⟩ := hfields two ""
    refine ⟨⟨_, "2", htype, .inr ⟨_, rfl, by decide⟩, by decide⟩, ⟨_, hkey, hsecret.read_eq⟩,
      ⟨_, hseed, rfl⟩, ⟨_, hfingerprint, rfl⟩, rfl, ?_, ?_⟩
    · rintro ⟨⟩
    · rintro ⟨⟩
  obtain ⟨haccepts, hparts⟩ :=
    described_metas_are_read [] (fields (.string "mkm") encoded.toString)
  obtain ⟨hacceptsBare, hpartsBare⟩ := described_metas_are_read [] (fields two "")
  obtain ⟨m, hm⟩ := haccepts.mpr ⟨_, _, _, _, hsigned⟩
  obtain ⟨bare, hbareParse⟩ := hacceptsBare.mpr ⟨_, _, _, _, hbare⟩
  obtain ⟨-, -, hkept, -⟩ := hparts m _ _ _ _ hm hsigned
  obtain ⟨hscheme, -, -, hdropped⟩ := hpartsBare bare _ _ _ _ hbareParse hbare
  exact ⟨secret, m, bare, hsigned, hm, (hkept rfl).1, (hkept rfl).2, hbareParse, hscheme,
    (hdropped (.inl rfl)).1, (hdropped (.inl rfl)).2⟩

end SelfCert
