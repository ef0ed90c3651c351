import SelfCert.Proofs.MetaWire

/-!
# Tags of schemes under all options

What a context is loaded with decides which aliases of the schemes it knows
(`Context.LoadOptions.Enables`). For a tag that it knows, it has the scheme that the tag stands for,
and for any other tag it has none (`Context.scheme_loadedWith`), so that metas are made and read as
under that scheme or not at all. Metas are written with the canonical tag, which every loaded
context knows; hence contexts that were loaded with different options read them alike
(`scheme_tags_are_dispatched`).
-/

namespace SelfCert

namespace Context

/-- A new context with the built-in things of given options. -/
def loadedWith (options : LoadOptions) : Context := (empty.load options).2

/-- Whether options make a tag known: it is canonical, or an alias in lower or upper case that they
ask for. -/
def LoadOptions.Enables (options : LoadOptions) (tag : String) : Prop :=
  tag ∈ Scheme.builtIn.map Scheme.tag ∨
    (options.lowercaseAliases ∧ tag ∈ Scheme.lowercaseAliases.map Prod.fst) ∨
    (options.uppercaseAliases ∧ tag ∈ Scheme.uppercaseAliases.map Prod.fst)

instance (options : LoadOptions) (tag : String) : Decidable (options.Enables tag) :=
  inferInstanceAs (Decidable (_ ∨ _ ∨ _))

variable {options : LoadOptions} {tag : String}

/-! ### Registered schemes -/

/-- A canonical tag is known under all options. -/
theorem LoadOptions.enables_tag {scheme : Scheme} (h : scheme ∈ Scheme.builtIn) :
    options.Enables scheme.tag :=
  .inl (List.mem_map_of_mem h)

/-- Every known tag is canonical or one of the aliases. -/
theorem LoadOptions.Enables.mem_tags (h : options.Enables tag) :
    tag ∈ Scheme.tags.map Prod.fst := by
  rw [Scheme.tags, List.map_append, List.map_append, List.mem_append, List.mem_append, or_assoc,
    List.map_map]
  exact h.imp_right (Or.imp And.right And.right)

/-- A tag that is known stands for a built-in scheme. -/
theorem LoadOptions.Enables.ofTag_mem_builtIn (h : options.Enables tag) :
    Scheme.ofTag tag ∈ Scheme.builtIn := by
  have hall : ∀ tag ∈ Scheme.tags.map Prod.fst, Scheme.ofTag tag ∈ Scheme.builtIn := by decide
  exact hall tag h.mem_tags

/-- What is registered stands under known tags, and under each of them the scheme it stands for. -/
theorem metas_loadedWith (options : LoadOptions) :
    (∀ entry ∈ (loadedWith options).metas,
      options.Enables entry.1 ∧ entry.2 = Scheme.ofTag entry.1) ∧
    ∀ tag ∈ Scheme.tags.map Prod.fst,
      options.Enables tag → (Table.get? tag (loadedWith options).metas).isSome := by
  obtain ⟨lowercase, uppercase, wildcard⟩ := options
  cases lowercase <;> cases uppercase <;> cases wildcard <;> decide

theorem get?_metas_loadedWith (options : LoadOptions) (tag : String) :
    Table.get? tag (loadedWith options).metas =
      if options.Enables tag then some (.ofTag tag) else none := by
  obtain ⟨hentries, htags⟩ := metas_loadedWith options
  cases hget : Table.get? tag (loadedWith options).metas with
  | some scheme =>
    obtain ⟨henables, hscheme⟩ := hentries _ (Table.mem_of_get?_eq_some hget)
    rw [if_pos henables]
    exact congrArg some hscheme
  | none =>
    rw [if_neg]
    intro henables
    have hsome := htags tag henables.mem_tags henables
    rw [hget] at hsome
    cases hsome

/-- **A loaded context has the schemes of the known tags, and no others.** -/
theorem scheme_loadedWith (options : LoadOptions) (tag : String) :
    (loadedWith options).scheme tag =
      if options.Enables tag then .ok (.ofTag tag) else .error (.unknownScheme tag) := by
  have hwildcard : ¬options.Enables Registry.wildcard := fun h => absurd h.mem_tags (by decide)
  rw [scheme, Registry.resolve, get?_metas_loadedWith, get?_metas_loadedWith, if_neg hwildcard,
    Option.or_none]
  split_ifs <;> rfl

/-! ### Metas -/

/-- The options have no part in how keys and encoded data are read. -/
theorem registries_loadedWith (options : LoadOptions) :
    (loadedWith options).encodings = loaded.encodings ∧
      (loadedWith options).publicKeys = loaded.publicKeys := ⟨rfl, rfl⟩

/-- Whether a value of a type names a tag: it is the text of the tag, or an integer with this
decimal text. -/
def NamesTag (tag : String) (kind : Json) : Prop :=
  kind = .string tag ∨ ∃ n : Json.Integer, kind = .number (.integer n) ∧ kind.compact = tag

theorem NamesTag.tag?_eq {kind : Json} (h : NamesTag tag kind) (hne : tag ≠ "") :
    kind.tag? = some tag := by
  obtain rfl | ⟨n, rfl, rfl⟩ := h
  · rw [Json.tag?, if_neg (by rwa [String.isEmpty_iff])]
  · rfl

theorem createMeta_loadedWith (options : LoadOptions) (tag : String) (key : PublicKey)
    (seed : Option String) (fingerprint : Option EncodedData) :
    (loadedWith options).createMeta tag key seed fingerprint =
      if options.Enables tag then Meta.create (.ofTag tag) key seed fingerprint
      else .error (.unknownScheme tag) := by
  rw [createMeta, scheme_loadedWith]
  split_ifs <;> rfl

theorem generateMeta_loadedWith (options : LoadOptions) (tag : String) (secret : PrivateKey)
    (seed : Option String) :
    (loadedWith options).generateMeta tag secret seed =
      if options.Enables tag then Meta.generate (.ofTag tag) secret seed
      else .error (.unknownScheme tag) := by
  rw [generateMeta, generateMetaWith, scheme_loadedWith]
  split_ifs <;> rfl

/-- **A meta is read under the scheme that its type stands for**, or refused if it is unknown. -/
theorem parseMeta_loadedWith (options : LoadOptions) {value kind : Json} {fields : Json.Object}
    (hfields : value.mapOf? = some fields) (hkind : Table.get? "type" fields = some kind)
    (htag : kind.tag? = some tag) :
    (loadedWith options).parseMeta value =
      if options.Enables tag then
        Meta.ofFields loaded.encodings loaded.publicKeys (.ofTag tag) fields
      else .error (.unknownScheme tag) := by
  obtain ⟨hencodings, hkeys⟩ := registries_loadedWith options
  rw [parseMeta, hfields]
  simp only [hkind, Option.bind_some, htag, scheme_loadedWith, hencodings, hkeys]
  split_ifs <;> rfl

end Context

/-! ### Canonical tags -/

namespace Meta

/-- The metas of a tag that a context with given options makes or reads. -/
inductive IssuedAs (options : Context.LoadOptions) (tag : String) : Meta → Prop where
  | create {key : PublicKey} {seed : Option String} {fingerprint : Option EncodedData} {m : Meta} :
    (Context.loadedWith options).createMeta tag key seed fingerprint = .ok m →
    IssuedAs options tag m
  | generate {secret : PrivateKey} {seed : Option String} {m : Meta} :
    (Context.loadedWith options).generateMeta tag secret seed = .ok m → IssuedAs options tag m
  | parse {value kind : Json} {fields : Json.Object} {m : Meta} :
    value.mapOf? = some fields → Table.get? "type" fields = some kind → kind.tag? = some tag →
    (Context.loadedWith options).parseMeta value = .ok m → IssuedAs options tag m

variable {m : Meta} {options : Context.LoadOptions} {tag : String}

/-- The tag of such a meta is known, and its scheme is the one the tag stands for. -/
theorem IssuedAs.scheme_eq (h : m.IssuedAs options tag) :
    options.Enables tag ∧ m.scheme = Scheme.ofTag tag := by
  cases h with
  | create h =>
    rw [Context.createMeta_loadedWith] at h
    split_ifs at h with henables
    exact ⟨henables, (parts_of_create_eq_ok h).1⟩
  | generate h =>
    rw [Context.generateMeta_loadedWith] at h
    split_ifs at h with henables
    exact ⟨henables, (parts_of_create_eq_ok h).1⟩
  | parse hfields hkind htag h =>
    rw [Context.parseMeta_loadedWith options hfields hkind htag] at h
    split_ifs at h with henables
    obtain ⟨key, seed, fingerprint, hcreate⟩ := exists_create_of_ofFields_eq_ok h
    exact ⟨henables, (parts_of_create_eq_ok hcreate).1⟩

/-- Making a meta of a built-in scheme does not fail for want of a scheme. -/
theorem create_ne_unknownScheme {scheme : Scheme} (hscheme : scheme ∈ Scheme.builtIn)
    (key : PublicKey) (seed : Option String) (fingerprint : Option EncodedData) (unknown : String) :
    create scheme key seed fingerprint ≠ .error (.unknownScheme unknown) := by
  have hparts (seed : Option String) (fingerprint : Option EncodedData) :
      ofParts scheme key seed fingerprint ≠ .error (.unknownScheme unknown) := by
    unfold ofParts
    split_ifs <;> simp
  unfold create
  split
  · exact absurd hscheme (by simp [Scheme.mem_builtIn_iff])
  · unfold new
    split_ifs
    · exact hparts _ _
    · exact hparts _ _

/-- Neither does reading one. -/
theorem ofFields_ne_unknownScheme {scheme : Scheme} (hscheme : scheme ∈ Scheme.builtIn)
    (encodings : Registry Encoding) (kinds : Registry KeyAlgorithm) (fields : Json.Object)
    (unknown : String) :
    ofFields encodings kinds scheme fields ≠ .error (.unknownScheme unknown) := by
  have hseedOf : seedOf fields ≠ .error (.unknownScheme unknown) := by
    unfold seedOf
    split <;> simp
  have hfingerprintOf : fingerprintOf encodings fields ≠ .error (.unknownScheme unknown) := by
    unfold fingerprintOf
    split
    · simp
    · split <;> simp
  intro h
  unfold ofFields at h
  split at h
  · next keyMap hkeyMap =>
    obtain hseed | ⟨seed, -, h⟩ := Except.bind_eq_error_iff.mp h
    · exact hseedOf hseed
    obtain hfingerprint | ⟨fingerprint, -, h⟩ := Except.bind_eq_error_iff.mp h
    · exact hfingerprintOf hfingerprint
    split_ifs at h
    · cases h
    · obtain hkey | ⟨key, -, h⟩ := Except.bind_eq_error_iff.mp h
      · cases hread : PublicKey.read kinds keyMap <;> rw [hread] at hkey <;> cases hkey
      · exact create_ne_unknownScheme hscheme _ _ _ _ h
  · cases h

/-- **The canonical tag is known to every loaded context**, so a meta of a built-in scheme is read
under that scheme. -/
theorem parseMeta_toJson_loadedWith (hscheme : m.scheme ∈ Scheme.builtIn)
    (other : Context.LoadOptions) :
    (Context.loadedWith other).parseMeta m.toJson =
      ofFields Context.loaded.encodings Context.loaded.publicKeys m.scheme m.toMap := by
  have hne : ∀ scheme ∈ Scheme.builtIn, scheme.tag ≠ "" := by decide
  have htag : (Json.string m.scheme.tag).tag? = some m.scheme.tag :=
    Context.NamesTag.tag?_eq (.inl rfl) (hne _ hscheme)
  have hmap : m.toJson.mapOf? = some m.toMap := rfl
  rw [Context.parseMeta_loadedWith other hmap m.get?_toMap.1 htag,
    if_pos (Context.LoadOptions.enables_tag hscheme), Scheme.ofTag_tag hscheme]

end Meta

/-! ### Main result -/

/-- **Schemes are found by their tags, under all options.** A context that was loaded with given
options makes, generates and reads metas under a known tag just as the scheme that the tag stands
for does, and refuses every other tag as an unknown one. It writes each meta with the canonical tag
of its scheme; so a context that was loaded with other options reads the meta exactly as it does
itself, and never fails for an unknown scheme. -/
theorem scheme_tags_are_dispatched (options : Context.LoadOptions) {tag : String} (hne : tag ≠ "") :
    (∀ key seed fingerprint,
      (Context.loadedWith options).createMeta tag key seed fingerprint =
        if options.Enables tag then Meta.create (.ofTag tag) key seed fingerprint
        else .error (.unknownScheme tag)) ∧
    (∀ secret seed,
      (Context.loadedWith options).generateMeta tag secret seed =
        if options.Enables tag then Meta.generate (.ofTag tag) secret seed
        else .error (.unknownScheme tag)) ∧
    (∀ value fields kind, value.mapOf? = some fields → Table.get? "type" fields = some kind →
      Context.NamesTag tag kind →
      (Context.loadedWith options).parseMeta value =
        if options.Enables tag then
          Meta.ofFields Context.loaded.encodings Context.loaded.publicKeys (.ofTag tag) fields
        else .error (.unknownScheme tag)) ∧
    ∀ m : Meta, m.IssuedAs options tag →
      Table.get? "type" m.toMap = some (.string (Scheme.ofTag tag).tag) ∧
      (Scheme.ofTag tag).tag ∈ ["1", "2", "4"] ∧
      ∀ other : Context.LoadOptions,
        (Context.loadedWith other).parseMeta m.toJson =
          (Context.loadedWith options).parseMeta m.toJson ∧
        ∀ unknown, (Context.loadedWith other).parseMeta m.toJson ≠
          .error (.unknownScheme unknown) := by
  refine ⟨Context.createMeta_loadedWith options tag, Context.generateMeta_loadedWith options tag,
    fun value fields kind hfields hkind hnames =>
      Context.parseMeta_loadedWith options hfields hkind (hnames.tag?_eq hne), fun m issued => ?_⟩
  obtain ⟨henables, hscheme⟩ := issued.scheme_eq
  have hbuiltIn : m.scheme ∈ Scheme.builtIn := hscheme ▸ henables.ofTag_mem_builtIn
  rw [← hscheme]
  refine ⟨m.get?_toMap.1, List.mem_map_of_mem hbuiltIn, fun other => ⟨?_, fun unknown => ?_⟩⟩
  · rw [Meta.parseMeta_toJson_loadedWith hbuiltIn, Meta.parseMeta_toJson_loadedWith hbuiltIn]
  · rw [Meta.parseMeta_toJson_loadedWith hbuiltIn]
    exact Meta.ofFields_ne_unknownScheme hbuiltIn _ _ _ unknown

/-- Without the aliases in lower case, a meta of an RSA key for Bitcoin is made under `BTC` and not
under `btc`; it says `2`, and is read alike without any aliases. -/
theorem scheme_tags_are_dispatched_bitcoin :
    let options : Context.LoadOptions := ⟨false, true, true⟩
    let bare : Context.LoadOptions := ⟨false, false, false⟩
    (∃ m : Meta, m.IssuedAs options "BTC" ∧ Table.get? "type" m.toMap = some (.string "2") ∧
      (Context.loadedWith bare).parseMeta m.toJson =
        (Context.loadedWith options).parseMeta m.toJson) ∧
    ∀ key seed fingerprint, (Context.loadedWith options).createMeta "btc" key seed fingerprint =
      .error (.unknownScheme "btc") := by
  intro options bare
  constructor
  · obtain ⟨secret, -⟩ := Mersenne.exists_isFaithful
    have hadmits : Scheme.bitcoin.admits secret.publicKey none none := by
      simp [Scheme.admits, secret.publicKey.data_ne_nil]
    let m : Meta := ⟨.bitcoin, secret.publicKey, none, none, hadmits⟩
    obtain ⟨hcreate, -, -, hissued⟩ := scheme_tags_are_dispatched options (by decide : "BTC" ≠ "")
    have hscheme : m.scheme ∈ Scheme.builtIn := List.mem_cons_of_mem _ List.mem_cons_self
    have hseed : ∀ text ∈ m.seed, text ≠ "" := by rintro _ ⟨⟩
    have issued : m.IssuedAs options "BTC" := by
      refine .create ((hcreate m.key m.seed m.fingerprint).trans ?_)
      rw [if_pos (by decide)]
      exact Meta.create_parts hscheme hseed
    obtain ⟨htype, -, hother⟩ := hissued m issued
    exact ⟨m, issued, htype, (hother bare).1⟩
  · intro key seed fingerprint
    rw [(scheme_tags_are_dispatched options (by decide : "btc" ≠ "")).1, if_neg (by decide)]

end SelfCert
