import SelfCert.Context
import SelfCert.Proofs.EncodedData
import SelfCert.Proofs.Key.Faithful
import SelfCert.Proofs.Transparency

/-!
# Metas are read back

A meta of a built-in scheme is what is made of its own parts (`Meta.create_parts`). Its map holds
these parts, so a standard context reads the meta back from it, as long as its key and its
fingerprint are read back from theirs (`Context.parseMeta_toJson`). The metas that a standard
context gives out (`Meta.Issued`) are of this kind: whatever way they were made, their schemes are
built in and their seeds are not empty.
-/

namespace SelfCert

/-! ### Parts -/

section Parts

variable {key : PublicKey} {scheme : Scheme} {seed : Option String} {fingerprint : Option Bytes}

/-- A key vouches for a seed with a fingerprint or for neither of them. -/
theorem PublicKey.isSome_eq_of_vouches (h : key.vouches seed fingerprint) :
    seed.isSome = fingerprint.isSome := by
  unfold vouches at h
  split at h
  · rfl
  · rfl
  · cases h

/-- A scheme without seeds admits neither seed nor fingerprint. -/
theorem Scheme.eq_none_of_admits (h : scheme.admits key seed fingerprint)
    (hhas : scheme.hasSeed = false) : seed = none ∧ fingerprint = none := by
  cases scheme with
  | standard => cases hhas
  | bitcoin =>
    simp only [admits, Bool.and_eq_true, Option.isNone_iff_eq_none] at h
    exact h.1
  | ethereum =>
    simp only [admits, Bool.and_eq_true, Option.isNone_iff_eq_none] at h
    exact h.1.1
  | custom tag => cases hhas

/-- A scheme admits a seed with a fingerprint or neither of them. -/
theorem Scheme.isSome_eq_of_admits (h : scheme.admits key seed fingerprint) :
    seed.isSome = fingerprint.isSome := by
  by_cases hhas : scheme.hasSeed
  · cases scheme with
    | standard => exact PublicKey.isSome_eq_of_vouches h
    | bitcoin => cases hhas
    | ethereum => cases hhas
    | custom tag => exact PublicKey.isSome_eq_of_vouches h
  · obtain ⟨rfl, rfl⟩ := eq_none_of_admits h (Bool.eq_false_of_not_eq_true hhas)
    rfl

end Parts

namespace Meta

variable {m : Meta}

/-- There is a seed exactly if there is a fingerprint. -/
theorem isSome_seed_eq (m : Meta) : m.seed.isSome = m.fingerprint.isSome := by
  rw [Scheme.isSome_eq_of_admits m.isConsistent, Option.isSome_map]

/-- Metas of schemes without seeds have neither seed nor fingerprint. -/
theorem eq_none_of_not_hasSeed (h : m.scheme.hasSeed = false) :
    m.seed = none ∧ m.fingerprint = none := by
  obtain ⟨hseed, hfingerprint⟩ := Scheme.eq_none_of_admits m.isConsistent h
  exact ⟨hseed, Option.map_eq_none_iff.mp hfingerprint⟩

/-- What is made of parts has them. -/
theorem parts_of_ofParts_eq_ok {scheme : Scheme} {key : PublicKey} {seed : Option String}
    {fingerprint : Option EncodedData} (h : ofParts scheme key seed fingerprint = .ok m) :
    m.scheme = scheme ∧ m.key = key ∧ m.seed = seed ∧ m.fingerprint = fingerprint := by
  unfold ofParts at h
  split_ifs at h
  cases h
  exact ⟨rfl, rfl, rfl, rfl⟩

/-- What is made under a scheme is of that scheme, and its seed, if any, is the given one. -/
theorem parts_of_new_eq_ok {scheme : Scheme} {key : PublicKey} {seed : Option String}
    {fingerprint : Option EncodedData} (h : new scheme key seed fingerprint = .ok m) :
    m.scheme = scheme ∧ m.key = key ∧ ∀ text ∈ m.seed, text ∈ seed := by
  unfold new at h
  split_ifs at h
  · obtain ⟨hscheme, hkey, rfl, -⟩ := parts_of_ofParts_eq_ok h
    exact ⟨hscheme, hkey, fun _ htext => htext⟩
  · obtain ⟨hscheme, hkey, hseed, -⟩ := parts_of_ofParts_eq_ok h
    rw [hseed]
    exact ⟨hscheme, hkey, nofun⟩

/-- With empty seeds counted as none, its seed is not empty. -/
theorem parts_of_create_eq_ok {scheme : Scheme} {key : PublicKey} {seed : Option String}
    {fingerprint : Option EncodedData} (h : create scheme key seed fingerprint = .ok m) :
    m.scheme = scheme ∧ m.key = key ∧ ∀ text ∈ m.seed, text ∈ seed ∧ text ≠ "" := by
  unfold create at h
  split at h
  · cases h
  · obtain ⟨hscheme, hkey, hseed⟩ := parts_of_new_eq_ok h
    refine ⟨hscheme, hkey, fun text htext => ?_⟩
    obtain ⟨hgiven, hne⟩ := Option.filter_eq_some_iff.mp (hseed text htext)
    exact ⟨hgiven, by simpa using hne⟩

/-- Parts that fit together make the meta that has them. -/
theorem ofParts_parts (m : Meta) : ofParts m.scheme m.key m.seed m.fingerprint = .ok m := by
  rw [ofParts, if_neg (not_not.mpr m.isSome_seed_eq), dif_pos m.isConsistent]

/-- So do seed and fingerprint where the scheme leaves them out, for then there are none. -/
theorem new_parts (m : Meta) : new m.scheme m.key m.seed m.fingerprint = .ok m := by
  unfold new
  split_ifs with hhas
  · exact m.ofParts_parts
  · obtain ⟨hnoSeed, hnoFingerprint⟩ := eq_none_of_not_hasSeed (Bool.eq_false_of_not_eq_true hhas)
    have hparts := m.ofParts_parts
    rwa [hnoSeed, hnoFingerprint] at hparts

/-- A seed counts unless it is empty. -/
theorem filter_eq_self {seed : Option String} (h : ∀ text ∈ seed, text ≠ "") :
    seed.filter (fun text => !text.isEmpty) = seed := by
  cases seed with
  | none => rfl
  | some text =>
    have hne : text ≠ "" := h text rfl
    simp [Option.filter_some, hne]

/-- **Both ways to make a meta of parts agree** under a built-in scheme, unless the scheme has seeds
and this one is empty. -/
theorem create_eq_new {scheme : Scheme} (hscheme : scheme ∈ Scheme.builtIn) {seed : Option String}
    (hseed : scheme.hasSeed → ∀ text ∈ seed, text ≠ "") (key : PublicKey)
    (fingerprint : Option EncodedData) :
    create scheme key seed fingerprint = new scheme key seed fingerprint := by
  unfold create
  split
  · simp [Scheme.mem_builtIn_iff] at hscheme
  · unfold new
    split_ifs with hhas
    · rw [filter_eq_self (hseed hhas)]
    · rfl

/-- **A meta of a built-in scheme is what is made of its parts**, unless its seed is empty. -/
theorem create_parts (hscheme : m.scheme ∈ Scheme.builtIn) (hseed : ∀ text ∈ m.seed, text ≠ "") :
    create m.scheme m.key m.seed m.fingerprint = .ok m := by
  rw [create_eq_new hscheme fun _ => hseed, new_parts]

/-! ### Fields -/

/-- What the map of a meta holds. -/
theorem get?_toMap (m : Meta) :
    Table.get? "type" m.toMap = some (.string m.scheme.tag) ∧
      Table.get? "key" m.toMap = some (.object m.key.toMap) ∧
      Table.get? "seed" m.toMap = m.seed.map .string ∧
      Table.get? "fingerprint" m.toMap = m.fingerprint.map (·.toJson) := by
  cases hseed : m.seed <;> cases hfingerprint : m.fingerprint <;>
    simp [toMap, hseed, hfingerprint, Table.ofList, Table.insertAll, Table.get?_insert_of_ne]

theorem seedOf_toMap (m : Meta) : seedOf m.toMap = .ok m.seed := by
  rw [seedOf, Json.Object.present?, m.get?_toMap.2.2.1]
  cases m.seed <;> rfl

variable {encodings : Registry Encoding} {kinds : Registry KeyAlgorithm}

theorem fingerprintOf_toMap
    (hread : ∀ encoded ∈ m.fingerprint, EncodedData.ofJson encodings encoded.toJson = .ok encoded) :
    fingerprintOf encodings m.toMap = .ok m.fingerprint := by
  rw [fingerprintOf, Json.Object.present?, m.get?_toMap.2.2.2]
  cases hcase : m.fingerprint with
  | none => rfl
  | some encoded =>
    have hencoded : EncodedData.ofJson encodings (.string encoded.toString) = .ok encoded :=
      hread encoded hcase
    simp only [Option.map_some, EncodedData.toJson, hencoded]

/-- **What is read from a map** is made of the key, the seed and the fingerprint that the map holds,
where there is a seed exactly if there is a fingerprint. -/
theorem ofFields_eq_ok_iff {scheme : Scheme} {fields : Json.Object} :
    ofFields encodings kinds scheme fields = .ok m ↔
      ∃ map key seed fingerprint, Table.get? "key" fields = some (.object map) ∧
        PublicKey.read kinds map = .ok key ∧ seedOf fields = .ok seed ∧
        fingerprintOf encodings fields = .ok fingerprint ∧ seed.isSome = fingerprint.isSome ∧
        create scheme key seed fingerprint = .ok m := by
  unfold ofFields
  constructor
  · intro h
    split at h
    · next map hmap =>
      obtain ⟨seed, hseed, h⟩ := Except.bind_eq_ok_iff.mp h
      obtain ⟨fingerprint, hfingerprint, h⟩ := Except.bind_eq_ok_iff.mp h
      split_ifs at h with hboth
      obtain ⟨key, hkey, h⟩ := Except.bind_eq_ok_iff.mp h
      exact ⟨map, key, seed, fingerprint, hmap, Except.mapError_eq_ok_iff.mp hkey, hseed,
        hfingerprint, not_not.mp hboth, h⟩
    · cases h
  · rintro ⟨map, key, seed, fingerprint, hmap, hkey, hseed, hfingerprint, hboth, hcreate⟩
    simp only [hmap, hseed, hfingerprint, bind, Except.bind]
    rw [if_neg (not_not.mpr hboth), hkey]
    exact hcreate

/-- The map of a meta is read as the meta, if its key and its fingerprint are. -/
theorem ofFields_toMap (hscheme : m.scheme ∈ Scheme.builtIn) (hseed : ∀ text ∈ m.seed, text ≠ "")
    (hkey : PublicKey.read kinds m.key.toMap = .ok m.key)
    (hread : ∀ encoded ∈ m.fingerprint, EncodedData.ofJson encodings encoded.toJson = .ok encoded) :
    ofFields encodings kinds m.scheme m.toMap = .ok m :=
  ofFields_eq_ok_iff.mpr ⟨m.key.toMap, m.key, m.seed, m.fingerprint, m.get?_toMap.2.1, hkey,
    m.seedOf_toMap, fingerprintOf_toMap hread, m.isSome_seed_eq, create_parts hscheme hseed⟩

/-- What is read from a map is made of a key, a seed and a fingerprint. -/
theorem exists_create_of_ofFields_eq_ok {scheme : Scheme} {fields : Json.Object}
    (h : ofFields encodings kinds scheme fields = .ok m) :
    ∃ key seed fingerprint, create scheme key seed fingerprint = .ok m := by
  obtain ⟨-, key, seed, fingerprint, -, -, -, -, -, hcreate⟩ := ofFields_eq_ok_iff.mp h
  exact ⟨key, seed, fingerprint, hcreate⟩

end Meta

namespace Context

variable (requests : List Request)

theorem generateMetaWith_after (tag : String) (key : PublicKey) (signer : Bytes → Bytes)
    (seed : Option String) :
    (after requests).generateMetaWith tag key signer seed =
      loaded.generateMetaWith tag key signer seed :=
  apply_after requests (fun context => context.generateMetaWith tag key signer seed) fun _ => rfl

theorem createMeta_after (tag : String) (key : PublicKey) (seed : Option String)
    (fingerprint : Option EncodedData) :
    (after requests).createMeta tag key seed fingerprint =
      loaded.createMeta tag key seed fingerprint :=
  apply_after requests (fun context => context.createMeta tag key seed fingerprint) fun _ => rfl

theorem parseMeta_after (value : Json) :
    (after requests).parseMeta value = loaded.parseMeta value :=
  apply_after requests (fun context => context.parseMeta value) fun _ => rfl

/-- The tag of a built-in scheme is registered for it. -/
theorem scheme_loaded_tag {scheme : Scheme} (h : scheme ∈ Scheme.builtIn) :
    loaded.scheme scheme.tag = .ok scheme := by
  rcases Scheme.mem_builtIn_iff.mp h with rfl | rfl | rfl <;> decide

/-- Only built-in schemes are registered. -/
theorem mem_builtIn_of_get?_metas {tag : String} {scheme : Scheme}
    (h : Table.get? tag loaded.metas = some scheme) : scheme ∈ Scheme.builtIn := by
  have hall : ∀ entry ∈ loaded.metas, entry.2 ∈ Scheme.builtIn := by decide
  exact hall _ (Table.mem_of_get?_eq_some h)

/-- Whatever tag is asked for, the scheme is built in. -/
theorem mem_builtIn_of_scheme_eq_ok {tag : String} {scheme : Scheme}
    (h : loaded.scheme tag = .ok scheme) : scheme ∈ Scheme.builtIn := by
  unfold Context.scheme at h
  split at h
  · next found hfound =>
    cases h
    rcases Option.or_eq_some_iff.mp hfound with hget | ⟨-, hget⟩
    · exact mem_builtIn_of_get?_metas hget
    · exact mem_builtIn_of_get?_metas hget
  · cases h

theorem standard_encodings : EncodedData.IsStandard loaded.encodings where
  get?_tag encoding := by cases encoding <;> rfl
  get?_wildcard := rfl

/-- The value of a meta is read under the scheme of the meta. -/
theorem parseMeta_toJson_eq_ofFields {m : Meta} (hscheme : m.scheme ∈ Scheme.builtIn) :
    (after requests).parseMeta m.toJson =
      Meta.ofFields loaded.encodings loaded.publicKeys m.scheme m.toMap := by
  have htag : (Json.string m.scheme.tag).tag? = some m.scheme.tag := by
    have hne : ∀ scheme ∈ Scheme.builtIn, scheme.tag.isEmpty = false := by decide
    rw [Json.tag?, hne m.scheme hscheme]
    rfl
  rw [parseMeta_after, parseMeta, Meta.toJson, Json.mapOf?]
  simp only
  rw [m.get?_toMap.1, Option.bind_some, htag]
  simp only [scheme_loaded_tag hscheme, bind, Except.bind]

/-- **A standard context reads a meta back from its value.** -/
theorem parseMeta_toJson {m : Meta} (hscheme : m.scheme ∈ Scheme.builtIn)
    (hseed : ∀ text ∈ m.seed, text ≠ "")
    (hkey : PublicKey.read loaded.publicKeys m.key.toMap = .ok m.key)
    (hread : ∀ encoded ∈ m.fingerprint,
      EncodedData.ofJson loaded.encodings encoded.toJson = .ok encoded) :
    (after requests).parseMeta m.toJson = .ok m := by
  rw [parseMeta_toJson_eq_ofFields requests hscheme]
  exact Meta.ofFields_toMap hscheme hseed hkey hread

end Context

/-! ### What a standard context gives out -/

/-- The metas that a standard context gives out: of keys with whatever makes signatures for them,
such as private keys, of parts, and from values. -/
inductive Meta.Issued : Meta → Prop where
  | generate {requests : List Request} {tag : String} {key : PublicKey} {signer : Bytes → Bytes}
    {seed : Option String} {m : Meta} :
    (Context.after requests).generateMetaWith tag key signer seed = .ok m → Issued m
  | create {requests : List Request} {tag : String} {key : PublicKey} {seed : Option String}
    {fingerprint : Option EncodedData} {m : Meta} :
    (Context.after requests).createMeta tag key seed fingerprint = .ok m → Issued m
  | parse {requests : List Request} {value : Json} {m : Meta} :
    (Context.after requests).parseMeta value = .ok m → Issued m

/-- All ways to a meta lead through making it of parts under a scheme that is built in. -/
theorem Meta.Issued.exists_create {m : Meta} (h : m.Issued) :
    ∃ scheme key seed fingerprint, scheme ∈ Scheme.builtIn ∧
      Meta.create scheme key seed fingerprint = .ok m := by
  cases h with
  | generate h =>
    rw [Context.generateMetaWith_after] at h
    obtain ⟨scheme, hscheme, hmake⟩ := Except.bind_eq_ok_iff.mp h
    exact ⟨scheme, _, _, _, Context.mem_builtIn_of_scheme_eq_ok hscheme, hmake⟩
  | create h =>
    rw [Context.createMeta_after] at h
    obtain ⟨scheme, hscheme, hmake⟩ := Except.bind_eq_ok_iff.mp h
    exact ⟨scheme, _, _, _, Context.mem_builtIn_of_scheme_eq_ok hscheme, hmake⟩
  | parse h =>
    rw [Context.parseMeta_after] at h
    unfold Context.parseMeta at h
    split at h
    · cases h
    · split at h
      · cases h
      · obtain ⟨scheme, hscheme, hread⟩ := Except.bind_eq_ok_iff.mp h
        obtain ⟨key, seed, fingerprint, hmake⟩ := Meta.exists_create_of_ofFields_eq_ok hread
        exact ⟨scheme, key, seed, fingerprint, Context.mem_builtIn_of_scheme_eq_ok hscheme, hmake⟩

/-- **Metas get across the wire.** Every meta that a standard context gives out is read from its
value by every standard context, as an equal meta that is valid and has the same addresses, or the
same refusals, in all networks. Points are readable as keys, an RSA key has to be, and the type of a
fingerprint has to be plain. -/
theorem issued_meta_reads_back {m : Meta} (issued : m.Issued)
    (hkey : ∀ key, m.key = .rsa key → m.key.IsReadable)
    (hplain : ∀ encoded ∈ m.fingerprint, encoded.HasPlainType) (here there : List Request) :
    ∃ read, (Context.after there).parseMeta m.toJson = .ok read ∧ read = m ∧ read.same m ∧
      read.identity = m.identity ∧ read.isValid ∧
      ∀ network, ((Context.after there).deriveAddress read network).1 =
        ((Context.after here).deriveAddress m network).1 := by
  obtain ⟨scheme, key, seed, fingerprint, hscheme, hcreate⟩ := issued.exists_create
  obtain ⟨hsame, -, hseed⟩ := Meta.parts_of_create_eq_ok hcreate
  have hreadable : m.key.IsReadable := by
    cases hcase : m.key with
    | ecc point => exact PublicKey.isReadable_ecc point
    | ed25519 point => exact PublicKey.isReadable_ed25519 point
    | rsa modulus =>
      rw [← hcase]
      exact hkey modulus hcase
  have hfingerprint : ∀ encoded ∈ m.fingerprint,
      EncodedData.ofJson Context.loaded.encodings encoded.toJson = .ok encoded :=
    fun encoded hencoded =>
      (EncodedData.ofJson_toJson_iff Context.standard_encodings).mpr (hplain encoded hencoded)
  have hparse : (Context.after there).parseMeta m.toJson = .ok m :=
    Context.parseMeta_toJson there (hsame ▸ hscheme) (fun text htext => (hseed text htext).2)
      hreadable.read_eq hfingerprint
  refine ⟨m, hparse, rfl, beq_self_eq_true _, rfl, m.isConsistent, fun network => ?_⟩
  rw [Context.deriveAddress_after, Context.deriveAddress_after]

/-- The statement for an RSA key that signs a seed, with a fingerprint in hexadecimal digits and
with a type. -/
theorem issued_meta_reads_back_mersenne :
    ∃ (m read : Meta) (fingerprint : EncodedData), m.Issued ∧ m.seed = some "moky" ∧
      m.fingerprint = some fingerprint ∧ fingerprint.encoding = .hex ∧
      fingerprint.mimeType = some "text/plain" ∧ fingerprint.HasPlainType ∧
      (Context.after [.parseAddress "anywhere"]).parseMeta m.toJson = .ok read ∧
      read.same m = true ∧ read.isValid = true := by
  obtain ⟨secret, hsecret⟩ := Mersenne.exists_isFaithful
  let fingerprint : EncodedData := ⟨.hex, some "text/plain", secret.sign (Utf8.encode "moky")⟩
  let m : Meta := ⟨.standard, secret.publicKey, some "moky", some fingerprint, hsecret.verifies _⟩
  have hscheme : m.scheme ∈ Scheme.builtIn := List.mem_cons_self
  have hseed : ∀ text ∈ m.seed, text ≠ "" := by
    rintro _ ⟨⟩
    decide
  have hcreate : (Context.after []).createMeta "mkm" m.key m.seed m.fingerprint = .ok m :=
    Meta.create_parts hscheme hseed
  have hplain : fingerprint.HasPlainType := by
    rintro _ ⟨⟩
    decide
  obtain ⟨read, hparse, -, hsame, -, hvalid, -⟩ :=
    issued_meta_reads_back (.create hcreate) (fun _ _ => hsecret.reads)
      (by rintro _ ⟨⟩; exact hplain) [] [.parseAddress "anywhere"]
  exact ⟨m, read, fingerprint, .create hcreate, rfl, rfl, rfl, rfl, hplain, hparse, hsame, hvalid⟩

end SelfCert
