import SelfCert.Proofs.Signing

/-!
# Trusted properties come from signed bytes

A document is made of parts, read from a value, or signed as a draft, and a draft may start from
another document, so that documents have histories (`Document.Making`). Each step is handed a text
and a signature (`Document.Making.given`) and ends in `Document.new`, which takes both or none of
them and reads the properties off the text (`Document.Making.new_of_run_eq_ok`). Hence the
properties that a key vouches for are those that the signed bytes spell, whatever the history was
(`trusted_properties_are_signed`).
-/

namespace SelfCert

/-- Text is what its bytes are read as. -/
theorem Utf8.decode?_encode (text : String) : decode? (encode text) = some text := by
  have hbytes : (⟨(encode text).toArray⟩ : ByteArray) = text.toByteArray := by
    rw [encode, String.toUTF8_eq_toByteArray]
  rw [decode?, hbytes, String.fromUTF8?, dif_pos text.isValidUTF8]
  rfl

/-- Reading an identifier changes nothing but a memory. -/
theorem Context.encodings_parseIdentifier (context : Context) (text : String) :
    (context.parseIdentifier text).2.encodings = context.encodings := by
  unfold parseIdentifier withIdentifiers
  split <;> rfl

/-! ### Histories -/

mutual

/-- The ways to a document. Every step may take place in a context of its own. -/
inductive Document.Making where
  /-- It is made of parts. -/
  | create (context : Context) (tag : Option String) (did : Identifier) (data : Option String)
    (signature : Option EncodedData)
  /-- It is read. -/
  | parse (context : Context) (value : Json)
  /-- A draft is signed. -/
  | sign (draft : Draft.Making) (signer : Bytes → Bytes) (now : Int64)

/-- The ways to a draft. -/
inductive Draft.Making where
  /-- It begins without properties. -/
  | new (did : Identifier) (kind : DocumentKind)
  /-- It begins with those of a document. -/
  | ofDocument (document : Document.Making)
  /-- A property is set. -/
  | set (draft : Draft.Making) (name : String) (value : Json)
  /-- Several properties are set. -/
  | setAll (draft : Draft.Making) (properties : Json.Object)

end

mutual

/-- The document at the end of a way, unless a step is refused. -/
def Document.Making.run : Document.Making → Except DocumentError Document
  | .create context tag did data signature => context.createDocument tag did data signature
  | .parse context value => (context.parseDocument value).1
  | .sign draft signer now => do (← draft.run).signWith signer now

/-- The draft at the end of a way, unless a step is refused. -/
def Draft.Making.run : Draft.Making → Except DocumentError Draft
  | .new did kind => .ok (.new did kind)
  | .ofDocument document => return .ofDocument (← document.run)
  | .set draft name value => return (← draft.run).set name value
  | .setAll draft properties => return (← draft.run).setAll properties

end

/-- The text and the signature that the last step is handed: as they are, as they stand in the map,
or as the draft makes them. -/
def Document.Making.given :
    Document.Making → Except DocumentError (Option String × Option EncodedData)
  | .create _ _ _ data signature => .ok (data, signature)
  | .parse context value =>
    match value.mapOf? with
    | none => .error .notMap
    | some fields => return (← dataOf fields, ← signatureOf context.encodings fields)
  | .sign draft signer now => do
    let text := ((← draft.run).stamped now).text
    return (some text, some (.ofBytes .base64 (signer (Utf8.encode text))))

namespace Document

variable {document : Document} {did : Identifier} {kind : DocumentKind} {data : Option String}
  {signature : Option EncodedData} {key : PublicKey} {properties : Json.Object}

/-! ### What a document is made of -/

/-- The text of a document is the one it was made of; the empty text is none. -/
theorem data_of_new_eq_ok (h : new did kind data signature = .ok document) :
    document.data = data.filter fun text => !text.isEmpty := by
  unfold new at h
  split at h
  · next hdata =>
    cases h
    exact hdata.symm
  · next text _ hdata =>
    split at h
    · cases h
      exact hdata.symm
    · cases h
  · cases h
  · cases h

/-- A document has a text if and only if it has a signature. -/
theorem isSome_data (document : Document) : document.data.isSome = document.signature.isSome := by
  rw [data, signature, Option.isSome_map, Option.isSome_map]

/-- No document is made of one side only. -/
theorem new_ne_ok_of_oneSided
    (hsided : (data.filter fun text => !text.isEmpty).isSome ≠ signature.isSome) :
    new did kind data signature ≠ .ok document := by
  intro h
  apply hsided
  rw [← data_of_new_eq_ok h, ← (parts_of_new_eq_ok h).2.2]
  exact document.isSome_data

/-- **A document is empty, or its properties are what its text reads as**, and there is a
signature. -/
theorem empty_or_signed (document : Document) :
    (document.data = none ∧ document.signature = none ∧ document.properties = []) ∨
      ∃ text signature, text ≠ "" ∧ document.data = some text ∧
        document.signature = some signature ∧
        Json.parseObject? text = some document.properties := by
  obtain ⟨did, kind, content⟩ := document
  cases content with
  | none => exact .inl ⟨rfl, rfl, rfl⟩
  | some content =>
    have hne := ne_empty_of_parseObject?_eq_some content.reads
    exact .inr ⟨content.text, content.signature, hne, rfl, rfl, content.reads⟩

/-- A key verifies a document exactly if it verifies the signature of the bytes of the text. -/
theorem verify_iff :
    document.verify key ↔ ∃ text signature, document.data = some text ∧
      document.signature = some signature ∧ key.verify (Utf8.encode text) signature.data := by
  obtain ⟨did, kind, content⟩ := document
  cases content with
  | none => simp [verify, data]
  | some content => simp [verify, data, signature]

/-- **The properties that a key vouches for are those that the bytes it verifies spell.** -/
theorem verifiedProperties_eq_some_iff :
    document.verifiedProperties key = some properties ↔
      ∃ text signature, document.data = some text ∧ document.signature = some signature ∧
        key.verify (Utf8.encode text) signature.data ∧
        (Utf8.decode? (Utf8.encode text)).bind Json.parseObject? = some properties := by
  have hverified : document.verifiedProperties key = some properties ↔
      document.verify key ∧ document.properties = properties := by
    rw [verifiedProperties]
    split_ifs with hverify
    · rw [Option.some_inj, and_iff_right hverify]
    · exact iff_of_false nofun fun h => hverify h.1
  rw [hverified, verify_iff]
  constructor
  · rintro ⟨⟨text, signature, hdata, hsignature, hverify⟩, rfl⟩
    refine ⟨text, signature, hdata, hsignature, hverify, ?_⟩
    rw [Utf8.decode?_encode, Option.bind_some]
    obtain ⟨hnone, -⟩ | ⟨_, _, -, hsome, -, hreads⟩ := document.empty_or_signed
    · rw [hnone] at hdata
      cases hdata
    · rw [hsome, Option.some_inj] at hdata
      rw [← hdata, hreads]
  · rintro ⟨text, signature, hdata, hsignature, hverify, hreads⟩
    refine ⟨⟨text, signature, hdata, hsignature, hverify⟩, ?_⟩
    rw [Utf8.decode?_encode, Option.bind_some] at hreads
    obtain ⟨hnone, -⟩ | ⟨_, _, -, hsome, -, hproperties⟩ := document.empty_or_signed
    · rw [hnone] at hdata
      cases hdata
    · rw [hsome, Option.some_inj] at hdata
      rw [hdata, hreads, Option.some_inj] at hproperties
      exact hproperties.symm

/-! ### Steps -/

/-- A document that is read is made of what stands in the map. -/
theorem new_of_parseDocument_eq_ok {context : Context} {value : Json}
    (h : (context.parseDocument value).1 = .ok document) :
    ∃ fields data signature, value.mapOf? = some fields ∧ dataOf fields = .ok data ∧
      signatureOf context.encodings fields = .ok signature ∧
      new document.did document.kind data signature = .ok document := by
  unfold Context.parseDocument at h
  split at h
  · cases h
  · next fields hfields =>
    have hmap : value.mapOf? = some fields := by
      unfold Context.documentFields at hfields
      split at hfields
      · cases hfields
      · next found hfound =>
        obtain ⟨-, -, hok⟩ := Except.bind_eq_ok_iff.mp hfields
        rw [hfound, Except.ok.inj hok]
    split at h
    · cases h
    · split at h
      · cases h
      · next did later hdid =>
        have hlater : later.encodings = context.encodings := by
          rw [← context.encodings_parseIdentifier, hdid]
        rw [hlater] at h
        obtain ⟨data, hdata, h⟩ := Except.bind_eq_ok_iff.mp h
        obtain ⟨signature, hsignature, h⟩ := Except.bind_eq_ok_iff.mp h
        split_ifs at h
        obtain ⟨hdid, hkind, -⟩ := parts_of_new_eq_ok h
        refine ⟨fields, data, signature, hmap, hdata, hsignature, ?_⟩
        rw [hdid, hkind]
        exact h

/-- **The last step makes the document of what it is handed.** -/
theorem Making.new_of_run_eq_ok {making : Making} (h : making.run = .ok document) :
    ∃ data signature, making.given = .ok (data, signature) ∧
      new document.did document.kind data signature = .ok document := by
  cases making with
  | create context tag did data signature =>
    refine ⟨data, signature, rfl, ?_⟩
    rw [Making.run] at h
    simp only [Context.createDocument] at h
    split at h
    · cases h
    · obtain ⟨hdid, hkind, -⟩ := parts_of_new_eq_ok h
      rw [hdid, hkind, h]
  | parse context value =>
    rw [Making.run] at h
    obtain ⟨fields, data, signature, hfields, hdata, hsignature, hnew⟩ :=
      new_of_parseDocument_eq_ok h
    refine ⟨data, signature, ?_, hnew⟩
    simp only [given, hfields, hdata, hsignature]
    rfl
  | sign draft signer now =>
    rw [Making.run] at h
    obtain ⟨found, hfound, hsign⟩ := Except.bind_eq_ok_iff.mp h
    obtain ⟨hdid, hkind, -⟩ := parts_of_new_eq_ok hsign
    let text := (found.stamped now).text
    refine ⟨some text, some (.ofBytes .base64 (signer (Utf8.encode text))), ?_, ?_⟩
    · rw [given, hfound]
      rfl
    · rw [hdid, hkind]
      exact hsign

end Document

/-! ### Main result -/

/-- **Trusted properties come only from signed bytes.** At the end of every way to a document, it is
empty, or it has a text that is not empty, a signature, and the properties that the text is read as;
the text, unless it is empty, and the signature are those that the last step was handed. So a key
vouches for properties exactly if it verifies the signature of the bytes of the text and these bytes
spell the properties, and no key vouches for an empty document. A step that is handed only one side
is refused; an empty text counts as none. -/
theorem trusted_properties_are_signed (making : Document.Making) :
    (∀ document, making.run = .ok document →
      ((document.data = none ∧ document.signature = none ∧ document.properties = []) ∨
        ∃ text signature, text ≠ "" ∧ document.data = some text ∧
          document.signature = some signature ∧
          Json.parseObject? text = some document.properties) ∧
      (∃ data signature, making.given = .ok (data, signature) ∧
        document.data = data.filter (fun text => !text.isEmpty) ∧
        document.signature = signature) ∧
      (∀ key properties, document.verifiedProperties key = some properties ↔
        ∃ text signature, document.data = some text ∧ document.signature = some signature ∧
          key.verify (Utf8.encode text) signature.data ∧
          (Utf8.decode? (Utf8.encode text)).bind Json.parseObject? = some properties) ∧
      (document.isEmpty → ∀ key,
        document.verify key = false ∧ document.verifiedProperties key = none)) ∧
    ∀ data signature, making.given = .ok (data, signature) →
      (data.filter fun text => !text.isEmpty).isSome ≠ signature.isSome →
      ∃ error, making.run = .error error := by
  refine ⟨fun document h => ⟨document.empty_or_signed, ?_, ?_, ?_⟩, ?_⟩
  · obtain ⟨data, signature, hgiven, hnew⟩ := Document.Making.new_of_run_eq_ok h
    have hsignature := (Document.parts_of_new_eq_ok hnew).2.2
    exact ⟨data, signature, hgiven, Document.data_of_new_eq_ok hnew, hsignature⟩
  · exact fun key properties => Document.verifiedProperties_eq_some_iff
  · intro hempty key
    have hverify : document.verify key = false := by
      rw [Document.verify, Option.isNone_iff_eq_none.mp hempty]
    refine ⟨hverify, ?_⟩
    rw [Document.verifiedProperties, hverify]
    rfl
  · intro data signature hgiven hsided
    apply Except.exists_eq_error
    intro document h
    obtain ⟨_, _, hhanded, hnew⟩ := Document.Making.new_of_run_eq_ok h
    rw [hgiven] at hhanded
    cases hhanded
    exact Document.new_ne_ok_of_oneSided hsided hnew

/-- A placeholder that is made for the founder and then signed has a signed text, and what has a
signature but only an empty text is refused. -/
theorem trusted_properties_are_signed_founder :
    (∃ document text signature,
      Document.Making.run (.sign (.ofDocument
        (.create Context.loaded (some "visa") .founder none none)) id 7) = .ok document ∧
      document.data = some text ∧ document.signature = some signature ∧
      Json.parseObject? text = some document.properties) ∧
    ∃ error, Document.Making.run (.create Context.loaded (some "visa") .founder (some "")
      (some (.ofBytes .base64 [1]))) = .error error := by
  constructor
  · have hplain : Json.IsPlain Json.maxDepth (.object (Draft.new .founder .visa).properties) :=
      .object (by decide) nofun
    obtain ⟨content, hsign, -⟩ := Draft.exists_signWith hplain id 7
    have hcreate : Document.Making.run (.create Context.loaded (some "visa") .founder none none) =
        .ok ⟨.founder, .visa, none⟩ := by
      rw [Document.Making.run]
      rfl
    have hrun : Document.Making.run (.sign (.ofDocument
        (.create Context.loaded (some "visa") .founder none none)) id 7) =
        .ok ⟨.founder, .visa, some content⟩ := by
      rw [Document.Making.run, Draft.Making.run, hcreate]
      simp only [bind, Except.bind, pure, Except.pure]
      exact hsign
    obtain ⟨hparts, -⟩ := (trusted_properties_are_signed _).1 _ hrun
    obtain ⟨hnone, -⟩ | ⟨text, signature, -, hdata, hsignature, hreads⟩ := hparts
    · cases hnone
    · exact ⟨_, text, signature, hrun, hdata, hsignature, hreads⟩
  · obtain ⟨-, hrefused⟩ := trusted_properties_are_signed
      (.create Context.loaded (some "visa") .founder (some "") (some (.ofBytes .base64 [1])))
    exact hrefused (some "") (some (.ofBytes .base64 [1])) rfl (by decide)

end SelfCert
