import SelfCert.Proofs.Json.RoundTrip
import SelfCert.Proofs.MetaWire

/-!
# Documents are read back

A standard context reads documents as they are read without its memory
(`Context.parseDocument_after`). A document is read back with the text, the properties and the
signature it had, if the signature is read back by itself (`Document.parse_toJson`); only the kind
may be another, where its tag stands for no kind in particular.
-/

namespace SelfCert

namespace Document

/-- A document as a standard context reads it, without a memory. -/
def parse (value : Json) : Except DocumentError Document :=
  match value.mapOf? with
  | none => .error .notMap
  | some fields => do
    let did ← (Identifier.parse (← didOf fields)).mapError .identifier
    ofFields Context.loaded.encodings did fields

variable {document : Document}

/-! ### Parts -/

/-- A text that reads as an object is not empty. -/
theorem ne_empty_of_parseObject?_eq_some {text : String} {properties : Json.Object}
    (h : Json.parseObject? text = some properties) : text ≠ "" := by
  rintro rfl
  have hempty : Json.parseObject? "" = none := by decide
  rw [hempty] at h
  cases h

/-- Text of an object, with a signature, makes a document. -/
theorem new_eq_ok {did : Identifier} {kind : DocumentKind} {text : String}
    {properties : Json.Object} {signature : EncodedData}
    (h : Json.parseObject? text = some properties) :
    new did kind (some text) (some signature) =
      .ok ⟨did, kind, some ⟨text, properties, signature, h⟩⟩ := by
  have hfilter : (some text).filter (fun text => !text.isEmpty) = some text := by
    simp [ne_empty_of_parseObject?_eq_some h]
  unfold new
  rw [hfilter]
  simp only
  split
  · next found hfound =>
    obtain rfl : found = properties := Option.some_injective _ (hfound.symm.trans h)
    rfl
  · next hfound =>
    rw [hfound] at h
    cases h

/-- A document is what is made of its parts; with another kind, it is the same beside the kind. -/
theorem new_parts (document : Document) (kind : DocumentKind) :
    new document.did kind document.data document.signature =
      .ok { document with kind := kind } := by
  obtain ⟨did, old, content⟩ := document
  cases content with
  | none => rfl
  | some content => exact new_eq_ok content.reads

/-- What is made of parts has these parts. -/
theorem parts_of_new_eq_ok {did : Identifier} {kind : DocumentKind} {data : Option String}
    {signature : Option EncodedData} (h : new did kind data signature = .ok document) :
    document.did = did ∧ document.kind = kind ∧ document.signature = signature := by
  unfold new at h
  split at h
  · cases h
    exact ⟨rfl, rfl, rfl⟩
  · split at h
    · cases h
      exact ⟨rfl, rfl, rfl⟩
    · cases h
  · cases h
  · cases h

/-! ### Maps -/

/-- What the map of a document holds. -/
theorem get?_toMap (document : Document) :
    Table.get? "did" document.toMap = some (.string document.did.text) ∧
      Table.get? "type" document.toMap = some (.string document.kind.tag) ∧
      Table.get? "data" document.toMap = document.data.map Json.string ∧
      Table.get? "signature" document.toMap = document.signature.map EncodedData.toJson := by
  obtain ⟨did, kind, content⟩ := document
  cases content <;>
    simp [toMap, data, signature, Table.ofList, Table.insertAll, Table.get?_insert_of_ne]

theorem didOf_toMap (document : Document) : didOf document.toMap = .ok document.did.text := by
  rw [didOf, Json.Object.string?, document.get?_toMap.1]
  rfl

theorem dataOf_toMap (document : Document) : dataOf document.toMap = .ok document.data := by
  rw [dataOf, Json.Object.present?, document.get?_toMap.2.2.1]
  cases document.data <;> rfl

/-- Of the kind the map holds the tag, which may stand for no kind in particular. -/
theorem kindOf_toMap (document : Document) (did : Identifier) :
    kindOf did document.toMap =
      if document.kind.tag.isEmpty ∨ document.kind.tag = Registry.wildcard then .usualFor did
      else .ofTag document.kind.tag := by
  rw [kindOf, Json.Object.string?, document.get?_toMap.2.1]
  rfl

/-- The signature in the map is read back exactly if its own value is. -/
theorem signatureOf_toMap_iff {encodings : Registry Encoding} :
    signatureOf encodings document.toMap = .ok document.signature ↔
      ∀ encoded ∈ document.signature,
        EncodedData.ofJson encodings encoded.toJson = .ok encoded := by
  rw [signatureOf, Json.Object.present?, document.get?_toMap.2.2.2]
  cases document.signature with
  | none => simp
  | some encoded =>
    simp only [Option.map_some, Option.mem_some, forall_eq', EncodedData.toJson]
    cases EncodedData.ofJson encodings (.string encoded.toString) <;> simp

/-- **A document is read back**, if its signature and its identifier are. The kind is the one that
its tag names, or the usual one. -/
theorem parse_toJson (issued : document.did.address.Issued)
    (hread : ∀ encoded ∈ document.signature,
      EncodedData.ofJson Context.loaded.encodings encoded.toJson = .ok encoded) :
    parse document.toJson =
      .ok { document with kind := kindOf document.did document.toMap } := by
  have hsignature := signatureOf_toMap_iff.mpr hread
  have hsided : document.data.isSome = document.signature.isSome := by
    rw [data, signature, Option.isSome_map, Option.isSome_map]
  rw [parse, toJson, Json.mapOf?]
  simp only
  rw [didOf_toMap]
  simp only [bind, Except.bind]
  rw [Identifier.parse_text issued]
  simp only [Except.mapError, ofFields, dataOf_toMap, hsignature, bind, Except.bind]
  rw [if_neg (not_not.mpr hsided), new_parts]

/-- What is read has the kind that the map names, and the signature that its value is read as. -/
theorem parts_of_parse_eq_ok {value : Json} (h : parse value = .ok document) :
    ∃ fields, value.mapOf? = some fields ∧ document.did.address.Issued ∧
      document.kind = kindOf document.did fields ∧
      signatureOf Context.loaded.encodings fields = .ok document.signature := by
  unfold parse at h
  split at h
  · cases h
  · next fields hfields =>
    obtain ⟨text, -, h⟩ := Except.bind_eq_ok_iff.mp h
    obtain ⟨did, hdid, h⟩ := Except.bind_eq_ok_iff.mp h
    obtain ⟨data, -, h⟩ := Except.bind_eq_ok_iff.mp h
    obtain ⟨signature, hsignature, h⟩ := Except.bind_eq_ok_iff.mp h
    split_ifs at h
    obtain ⟨rfl, hkind, rfl⟩ := parts_of_new_eq_ok h
    have issued := Identifier.issued_of_parse_eq_ok (Except.mapError_eq_ok_iff.mp hdid)
    exact ⟨fields, hfields, issued, hkind, hsignature⟩

end Document

namespace Context

/-- In a standard context there is somebody for every type of document. -/
theorem requireDocuments_holding (memory : Memory) (tag : Option String) :
    (holding memory).requireDocuments tag = .ok () := by
  have hall : Table.get? Registry.wildcard (holding memory).documents = some none := by
    rfl
  have hsome : ((holding memory).documents.resolveAny tag).isSome := by
    cases tag with
    | none =>
      rw [Registry.resolveAny, hall]
      rfl
    | some tag =>
      rw [Registry.resolveAny, Registry.resolve, hall]
      cases Table.get? tag (holding memory).documents <;> rfl
  obtain ⟨kind, hkind⟩ := Option.isSome_iff_exists.mp hsome
  rw [requireDocuments, hkind]

/-- **A standard context reads documents as without its memory**, whatever was requested before. -/
theorem parseDocument_after (requests : List Request) (value : Json) :
    ((after requests).parseDocument value).1 = Document.parse value := by
  obtain ⟨memory, heq, hs⟩ := exists_after_eq_holding requests
  rw [heq, parseDocument, documentFields, Document.parse]
  cases value.mapOf? with
  | none => rfl
  | some fields =>
    simp only [requireDocuments_holding, bind, Except.bind, pure, Except.pure]
    cases Document.didOf fields with
    | error error => rfl
    | ok text =>
      -- Only the identifier is looked up in the memory.
      have hanswer := (hs.parseIdentifier text).1
      simp only [parseIdentifier, withIdentifiers_holding, ← hanswer]
      cases (memory.parseIdentifier text).1 <;> rfl

end Context

end SelfCert
