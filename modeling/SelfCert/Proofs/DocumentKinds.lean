import SelfCert.Proofs.PortableDocument

/-!
# Documents that are made and documents that are read

A document can be made of parts, or read from a map of the same parts (`Document.fieldsOf`). Both
fail for the same reason, or both succeed, with the same parts. Only the kind may differ: the reader
takes the kind that the tag names (`DocumentKind.named`), and the maker takes it only if it is
built in (`DocumentKind.made`). So for a tag that nobody is registered for, the document that is
made is of the usual kind of its identifier, and not of the kind that was asked for
(`made_and_read_documents_agree`).
-/

namespace SelfCert

namespace DocumentKind

/-! ### Tags -/

/-- The kinds that somebody is registered for under their own tag. -/
def builtIn : List DocumentKind := [visa, profile, bulletin]

/-- The kind that a tag names. Without a tag, and with one that is empty or stands for all kinds, it
is the usual kind of the identifier. -/
def named (did : Identifier) (tag : Option String) : DocumentKind :=
  match tag with
  | some tag => if tag.isEmpty ∨ tag = Registry.wildcard then usualFor did else ofTag tag
  | none => usualFor did

/-- The kind of the documents that are made for a tag: the one it names, if that is built in, and
the usual one of the identifier otherwise. -/
def made (did : Identifier) (tag : Option String) : DocumentKind :=
  if named did tag ∈ builtIn then named did tag else usualFor did

theorem usualFor_mem_builtIn (did : Identifier) : usualFor did ∈ builtIn := by
  rcases usualFor_cases did with h | h | h <;> rw [h] <;> decide

/-- A tag stands for a built-in kind exactly if it is the tag of one. -/
theorem ofTag_mem_builtIn_iff {tag : String} :
    ofTag tag ∈ builtIn ↔ tag ∈ builtIn.map DocumentKind.tag := by
  constructor
  · intro h
    rw [← tag_ofTag tag]
    exact List.mem_map_of_mem h
  · have hall : ∀ tag ∈ builtIn.map DocumentKind.tag, ofTag tag ∈ builtIn := by decide
    exact hall tag

/-- **When the kind that is made is the one that is named.** -/
theorem made_eq_named_iff {did : Identifier} {tag : Option String} :
    made did tag = named did tag ↔
      ∀ name ∈ tag, name = "" ∨ name = Registry.wildcard ∨ name ∈ builtIn.map DocumentKind.tag := by
  have hmade : made did tag = named did tag ↔ named did tag ∈ builtIn := by
    unfold made
    split_ifs with h
    · exact iff_of_true rfl h
    · exact iff_of_false (fun heq => h (heq ▸ usualFor_mem_builtIn did)) h
  rw [hmade]
  cases tag with
  | none => simp [named, usualFor_mem_builtIn]
  | some name =>
    simp only [named, Option.mem_some, forall_eq']
    split_ifs with hnone
    · rw [String.isEmpty_iff] at hnone
      exact iff_of_true (usualFor_mem_builtIn did) (hnone.imp_right .inl)
    · obtain ⟨hempty, hwildcard⟩ := not_or.mp hnone
      rw [String.isEmpty_iff] at hempty
      simp [ofTag_mem_builtIn_iff, hempty, hwildcard]

/-- A tag that is not empty and does not stand for all kinds is the tag of the kind it names. -/
theorem tag_named {did : Identifier} {name : String} (hempty : name ≠ "")
    (hwildcard : name ≠ Registry.wildcard) : (named did (some name)).tag = name := by
  have hnone : ¬(name.isEmpty ∨ name = Registry.wildcard) := by
    rw [String.isEmpty_iff]
    exact not_or.mpr ⟨hempty, hwildcard⟩
  rw [named, if_neg hnone, tag_ofTag]

end DocumentKind

namespace Document

variable {did : Identifier} {tag data : Option String} {signature : Option EncodedData}

/-! ### Parts -/

/-- Of another kind, a document is made of the same parts, or fails for the same reason. -/
theorem new_eq_map (did : Identifier) (kind other : DocumentKind) (data : Option String)
    (signature : Option EncodedData) :
    new did other data signature =
      (new did kind data signature).map fun document => { document with kind := other } := by
  unfold new
  split
  · rfl
  · split <;> rfl
  · rfl
  · rfl

/-! ### Making -/

/-- In a standard context, a tag of a built-in kind is resolved to that kind, and every other tag to
no kind in particular. -/
theorem resolve_documents (tag : String) :
    Context.loaded.documents.resolve tag Registry.wildcard =
      some (if DocumentKind.ofTag tag ∈ DocumentKind.builtIn then some (.ofTag tag) else none) := by
  simp only [DocumentKind.ofTag_mem_builtIn_iff]
  split_ifs with hbuiltIn
  · have hall : ∀ tag ∈ DocumentKind.builtIn.map DocumentKind.tag,
        Table.get? tag Context.loaded.documents = some (some (.ofTag tag)) := by decide
    exact Registry.resolve_of_get?_eq_some (hall tag hbuiltIn)
  · have hall : ∀ entry ∈ Context.loaded.documents,
        entry = (Registry.wildcard, none) ∨
          entry.1 ∈ DocumentKind.builtIn.map DocumentKind.tag := by decide
    cases hget : Table.get? tag Context.loaded.documents with
    | none =>
      rw [Registry.resolve_of_get?_eq_none hget]
      rfl
    | some registered =>
      rw [Registry.resolve_of_get?_eq_some hget]
      rcases hall _ (Table.mem_of_get?_eq_some hget) with hentry | hentry
      · rw [(Prod.mk.inj hentry).2]
      · exact absurd hentry hbuiltIn

/-- The tag that a document is created under stands for the kind that is made. -/
theorem made_eq_of_tagForDocument (did : Identifier) (tag : Option String) :
    DocumentKind.made did tag =
      if DocumentKind.ofTag (Context.tagForDocument tag did) ∈ DocumentKind.builtIn then
        .ofTag (Context.tagForDocument tag did)
      else .usualFor did := by
  have husual : DocumentKind.ofTag (DocumentKind.usualFor did).tag = .usualFor did :=
    (DocumentKind.IsNamed.usualFor did).ofTag_tag
  cases tag with
  | none => rw [DocumentKind.made, DocumentKind.named, Context.tagForDocument, husual]
  | some name =>
    rw [DocumentKind.made, DocumentKind.named, Context.tagForDocument]
    by_cases hwildcard : name = Registry.wildcard
    · simp only [hwildcard, or_true, if_true, husual]
    · by_cases hempty : name = ""
      · -- The empty tag names the usual kind, and nobody is registered for it.
        have hnone : DocumentKind.ofTag "" ∉ DocumentKind.builtIn := by decide
        simp [hempty, hnone, Registry.wildcard]
      · simp [hempty, hwildcard]

/-- **A standard context makes documents of the kind that is made for their tag.** -/
theorem createDocument_eq_new :
    Context.loaded.createDocument tag did data signature =
      new did (.made did tag) data signature := by
  simp only [Context.createDocument, resolve_documents, made_eq_of_tagForDocument]
  split_ifs <;> rfl

/-! ### Reading -/

/-- The map of the parts of a document, as they are: the type is left out if there is no tag. -/
def fieldsOf (did : Identifier) (tag data : Option String) (signature : Option EncodedData) :
    Json.Object :=
  Table.ofList <|
    ("did", .string did.text) :: (tag.map fun tag => ("type", Json.string tag)).toList ++
      (data.map fun text => ("data", Json.string text)).toList ++
        (signature.map fun encoded => ("signature", encoded.toJson)).toList

/-- What the map of parts holds. -/
theorem get?_fieldsOf (did : Identifier) (tag data : Option String)
    (signature : Option EncodedData) :
    Table.get? "did" (fieldsOf did tag data signature) = some (.string did.text) ∧
      Table.get? "type" (fieldsOf did tag data signature) = tag.map Json.string ∧
      Table.get? "data" (fieldsOf did tag data signature) = data.map Json.string ∧
      Table.get? "signature" (fieldsOf did tag data signature) =
        signature.map EncodedData.toJson := by
  cases tag <;> cases data <;> cases signature <;>
    simp [fieldsOf, Table.ofList, Table.insertAll, Table.get?_insert_of_ne]

/-- **The map of parts is read as the document of the kind that the tag names.** -/
theorem parse_fieldsOf (issued : did.address.Issued) (hsided : data.isSome = signature.isSome)
    (hplain : ∀ encoded ∈ signature, encoded.HasPlainType) :
    parse (.object (fieldsOf did tag data signature)) = new did (.named did tag) data signature := by
  obtain ⟨hdid, htype, hdata, hsignature⟩ := get?_fieldsOf did tag data signature
  have hdidOf : didOf (fieldsOf did tag data signature) = .ok did.text := by
    rw [didOf, Json.Object.string?, hdid]
    rfl
  have hdataOf : dataOf (fieldsOf did tag data signature) = .ok data := by
    rw [dataOf, Json.Object.present?, hdata]
    cases data <;> rfl
  have hsignatureOf :
      signatureOf Context.loaded.encodings (fieldsOf did tag data signature) = .ok signature := by
    rw [signatureOf, Json.Object.present?, hsignature]
    cases signature with
    | none => rfl
    | some encoded =>
      have hread := EncodedData.ofJson_toJson Context.standard_encodings (hplain encoded rfl)
      simp only [Option.map_some, EncodedData.toJson] at hread ⊢
      simp [hread]
  have hkindOf : kindOf did (fieldsOf did tag data signature) = .named did tag := by
    rw [kindOf, Json.Object.string?, htype]
    cases tag <;> rfl
  rw [parse, Json.mapOf?]
  simp only
  rw [hdidOf]
  simp only [bind, Except.bind]
  rw [Identifier.parse_text issued]
  simp only [Except.mapError, ofFields, hdataOf, hsignatureOf, bind, Except.bind]
  rw [if_neg (not_not.mpr hsided), hkindOf]

end Document

/-! ### Main result -/

/-- **Documents that are made and documents that are read differ at most in their kind.** A standard
context makes a document of parts exactly if it reads one from the map of these parts; both fail for
the same reason. The kind that is read is the one that the tag names, which has this tag if it is
not empty and does not stand for all kinds. The kind that is made is the same for the tags of the
built-in kinds and where the usual kind is meant, and for no other tag. -/
theorem made_and_read_documents_agree {did : Identifier} (issued : did.Issued)
    (tag : Option String) {data : Option String} {signature : Option EncodedData}
    (hsided : data.isSome = signature.isSome)
    (hplain : ∀ encoded ∈ signature, encoded.HasPlainType) (requests later : List Request) :
    ((∃ error, (Context.after requests).createDocument tag did data signature = .error error ∧
        ((Context.after later).parseDocument
          (.object (Document.fieldsOf did tag data signature))).1 = .error error) ∨
      ∃ document, (Context.after requests).createDocument tag did data signature = .ok document ∧
        ((Context.after later).parseDocument
          (.object (Document.fieldsOf did tag data signature))).1 =
            .ok { document with kind := .named did tag } ∧
        (document.kind = .named did tag ↔
          ∀ name ∈ tag, name = "" ∨ name = Registry.wildcard ∨
            name ∈ DocumentKind.builtIn.map DocumentKind.tag)) ∧
    ∀ name ∈ tag, name ≠ "" → name ≠ Registry.wildcard →
      (DocumentKind.named did tag).tag = name := by
  rw [Context.createDocument_after, Context.parseDocument_after, Document.createDocument_eq_new,
    Document.parse_fieldsOf issued.address hsided hplain,
    Document.new_eq_map did (.made did tag) (.named did tag)]
  refine ⟨?_, ?_⟩
  · cases hmade : Document.new did (.made did tag) data signature with
    | error error => exact .inl ⟨error, rfl, rfl⟩
    | ok document =>
      refine .inr ⟨document, rfl, rfl, ?_⟩
      rw [(Document.parts_of_new_eq_ok hmade).2.1]
      exact DocumentKind.made_eq_named_iff
  · rintro name rfl hempty hwildcard
    exact DocumentKind.tag_named hempty hwildcard

/-- The statement for a profile of the founder with a signature: it is made and read as one
document. -/
theorem made_and_read_documents_agree_founder :
    ∃ document : Document,
      (Context.after []).createDocument (some "profile") .founder (some "\x7b\x7d")
        (some (.ofBytes .hex [1, 2])) = .ok document ∧
      ((Context.after []).parseDocument (.object (Document.fieldsOf .founder (some "profile")
        (some "\x7b\x7d") (some (.ofBytes .hex [1, 2]))))).1 = .ok document ∧
      document.kind.tag = "profile" := by
  have hsided : (some "\x7b\x7d").isSome = (some (EncodedData.ofBytes .hex [1, 2])).isSome := rfl
  have hplain : ∀ encoded ∈ some (EncodedData.ofBytes .hex [1, 2]), encoded.HasPlainType := by
    rintro _ ⟨⟩ _ ⟨⟩
  obtain ⟨⟨error, hcreate, -⟩ | ⟨document, hcreate, hparse, hkind⟩, htag⟩ :=
    made_and_read_documents_agree .founder (some "profile") hsided hplain [] []
  · cases hcreate
  · have hnamed : document.kind = .named .founder (some "profile") := hkind.mpr (by decide)
    refine ⟨document, hcreate, ?_, ?_⟩
    · rw [hparse, ← hnamed]
    · rw [hnamed]
      exact htag "profile" rfl (by decide) (by decide)

/-- A diary of the founder is made as a visa, although its map is read as a diary. -/
theorem diary_is_made_as_visa :
    ∃ made read : Document,
      (Context.after []).createDocument (some "diary") .founder none none = .ok made ∧
      ((Context.after []).parseDocument
        (.object (Document.fieldsOf .founder (some "diary") none none))).1 = .ok read ∧
      made.kind = .visa ∧ read.kind = .custom "diary" ∧ ¬made.same read :=
  ⟨⟨.founder, .visa, none⟩, ⟨.founder, .custom "diary", none⟩, by rfl, by rfl, rfl, rfl, by decide⟩

end SelfCert
