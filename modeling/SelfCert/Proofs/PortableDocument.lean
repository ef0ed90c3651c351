import SelfCert.Proofs.Matching
import SelfCert.Proofs.Signing

/-!
# Which documents get across the wire

A document that a standard context gives out, or that was signed, is about an issued identifier and
of a kind that has a name (`Document.Issued.parts`). Two things can be lost on the wire: a kind
whose tag stands for no kind in particular, and a signature whose MIME type is not plain. A document
without these (`Document.IsPortable`) is read back as it was, and no other one is
(`portable_documents_read_back`).
-/

namespace SelfCert

/-! ### Kinds with a name -/

namespace DocumentKind

/-- The kinds that have a name: those of tags, and the usual kinds of identifiers. A custom kind
with the tag of another kind is not one of them. -/
inductive IsNamed : DocumentKind → Prop where
  | ofTag (tag : String) : IsNamed (.ofTag tag)
  | usualFor (did : Identifier) : IsNamed (.usualFor did)

/-- Whether the tag of a kind stands for this kind only: there is one, and it is not the one for all
kinds. -/
def HasOwnTag (kind : DocumentKind) : Prop :=
  kind.tag ≠ "" ∧ kind.tag ≠ Registry.wildcard

instance (kind : DocumentKind) : Decidable kind.HasOwnTag :=
  inferInstanceAs (Decidable (_ ∧ _))

/-- The usual kinds are built in. -/
theorem usualFor_cases (did : Identifier) :
    usualFor did = bulletin ∨ usualFor did = visa ∨ usualFor did = profile := by
  unfold usualFor
  split_ifs
  · exact .inl rfl
  · exact .inr (.inl rfl)
  · exact .inr (.inr rfl)

theorem hasOwnTag_usualFor (did : Identifier) : (usualFor did).HasOwnTag := by
  rcases usualFor_cases did with h | h | h <;> rw [h] <;> decide

/-- A kind with a name is the one that its tag stands for. -/
theorem IsNamed.ofTag_tag {kind : DocumentKind} (h : kind.IsNamed) :
    DocumentKind.ofTag kind.tag = kind := by
  cases h with
  | ofTag tag => rw [tag_ofTag]
  | usualFor did => rcases usualFor_cases did with h | h | h <;> rw [h] <;> decide

end DocumentKind

namespace Context

/-- Every kind that is registered for documents has a name. -/
theorem isNamed_of_get?_documents {tag : String} {registered : Option DocumentKind}
    (h : Table.get? tag loaded.documents = some registered) (did : Identifier) :
    (registered.getD (.usualFor did)).IsNamed := by
  have hall : ∀ entry ∈ loaded.documents,
      entry.2 = none ∨ entry.2 = some (.ofTag entry.1) := by decide
  rcases hall _ (Table.mem_of_get?_eq_some h) with hnone | hsome
  · obtain rfl : registered = none := hnone
    exact .usualFor did
  · obtain rfl : registered = some (.ofTag tag) := hsome
    exact .ofTag tag

theorem createDocument_after (requests : List Request) (tag : Option String) (did : Identifier)
    (data : Option String) (signature : Option EncodedData) :
    (after requests).createDocument tag did data signature =
      loaded.createDocument tag did data signature :=
  apply_after requests (fun context => context.createDocument tag did data signature) fun _ => rfl

end Context

namespace Document

variable {document : Document}

/-! ### Documents that are given out -/

/-- The documents that can be obtained: read and made by a standard context, and signed as drafts
about issued identifiers and of kinds with a name. -/
inductive Issued : Document → Prop where
  | parse {requests : List Request} {value : Json} {document : Document} :
    ((Context.after requests).parseDocument value).1 = .ok document → Issued document
  | create {requests : List Request} {tag : Option String} {did : Identifier}
    {data : Option String} {signature : Option EncodedData} {document : Document} :
    did.Issued → (Context.after requests).createDocument tag did data signature = .ok document →
    Issued document
  | sign {draft : Draft} {signer : Bytes → Bytes} {now : Int64} {document : Document} :
    draft.did.Issued → draft.kind.IsNamed → draft.signWith signer now = .ok document →
    Issued document

/-- The kind that is read from a map has a name. -/
theorem isNamed_kindOf (did : Identifier) (fields : Json.Object) : (kindOf did fields).IsNamed := by
  unfold kindOf
  split
  · split_ifs
    · exact .usualFor did
    · exact .ofTag _
  · exact .usualFor did

/-- A document that is given out is about an issued identifier, and its kind has a name. -/
theorem Issued.parts (h : document.Issued) :
    document.did.address.Issued ∧ document.kind.IsNamed := by
  cases h with
  | parse h =>
    rw [Context.parseDocument_after] at h
    obtain ⟨fields, -, hdid, hkind, -⟩ := parts_of_parse_eq_ok h
    rw [hkind]
    exact ⟨hdid, isNamed_kindOf _ _⟩
  | @create _ tag did _ _ _ issued h =>
    rw [Context.createDocument_after] at h
    simp only [Context.createDocument] at h
    split at h
    · cases h
    · next registered hregistered =>
      obtain ⟨hdid, hkind, -⟩ := parts_of_new_eq_ok h
      rw [hdid, hkind]
      refine ⟨issued.address, ?_⟩
      rcases Option.or_eq_some_iff.mp hregistered with hget | ⟨-, hget⟩
      · exact Context.isNamed_of_get?_documents hget _
      · exact Context.isNamed_of_get?_documents hget _
  | sign issued named h =>
    obtain ⟨hdid, hkind, -⟩ := parts_of_new_eq_ok h
    rw [hdid, hkind]
    exact ⟨issued.address, named⟩

/-! ### What is kept -/

/-- Whether nothing of a document is lost on the wire: the tag of its kind is its own, and the MIME
type of its signature is plain. -/
structure IsPortable (document : Document) : Prop where
  ownTag : document.kind.HasOwnTag
  plainType : ∀ encoded ∈ document.signature, encoded.HasPlainType

/-- A kind with a name is read from the map exactly if its tag is its own, whoever the document is
about. -/
theorem kindOf_toMap_eq_iff (named : document.kind.IsNamed) (did : Identifier) :
    kindOf did document.toMap = document.kind ↔ document.kind.HasOwnTag := by
  rw [kindOf_toMap]
  split_ifs with hnone
  · -- The kind that takes its place has a tag of its own, so it is another one.
    constructor
    · intro heq
      rw [← heq]
      exact DocumentKind.hasOwnTag_usualFor did
    · rintro ⟨hempty, hwildcard⟩
      rcases hnone with h | h
      · exact absurd (String.isEmpty_iff.mp h) hempty
      · exact absurd h hwildcard
  · obtain ⟨hempty, hwildcard⟩ := not_or.mp hnone
    refine iff_of_true named.ofTag_tag ⟨fun h => hempty ?_, hwildcard⟩
    exact String.isEmpty_iff.mpr h

/-- A signature is read from the map exactly if its type is plain. -/
theorem signatureOf_toMap_eq_iff :
    signatureOf Context.loaded.encodings document.toMap = .ok document.signature ↔
      ∀ encoded ∈ document.signature, encoded.HasPlainType := by
  rw [signatureOf_toMap_iff]
  exact forall₂_congr fun _ _ => EncodedData.ofJson_toJson_iff Context.standard_encodings

/-- A portable document is read back as it was. -/
theorem IsPortable.parse_toJson (h : document.IsPortable)
    (issued : document.did.address.Issued) (named : document.kind.IsNamed) :
    parse document.toJson = .ok document := by
  have hread := signatureOf_toMap_iff.mp (signatureOf_toMap_eq_iff.mpr h.plainType)
  rw [Document.parse_toJson issued hread, (kindOf_toMap_eq_iff named _).mpr h.ownTag]

/-- Where the kind and the signature are read back, the document is portable. -/
theorem isPortable_of_parse_toJson {read : Document} (named : document.kind.IsNamed)
    (hparse : parse document.toJson = .ok read) (hkind : read.kind = document.kind)
    (hsignature : read.signature = document.signature) : document.IsPortable := by
  obtain ⟨fields, hfields, -, hkindOf, hsignatureOf⟩ := parts_of_parse_eq_ok hparse
  obtain rfl : document.toMap = fields := Option.some_injective _ hfields
  rw [hkind] at hkindOf
  rw [hsignature] at hsignatureOf
  exact ⟨(kindOf_toMap_eq_iff named _).mp hkindOf.symm, signatureOf_toMap_eq_iff.mp hsignatureOf⟩

/-! ### Equal documents -/

theorem same_self (document : Document) : document.same document = true := by
  simp [same]

/-- Equal documents have the same kind and the same signature. -/
theorem parts_of_same {other : Document} (h : document.same other) :
    document.kind = other.kind ∧ document.signature = other.signature := by
  simp only [same, Bool.and_eq_true, beq_iff_eq] at h
  obtain ⟨⟨⟨⟨-, hkind⟩, -⟩, hsignature⟩, -⟩ := h
  exact ⟨hkind, hsignature⟩

end Document

/-! ### Main result -/

/-- **Exactly the portable documents get across the wire.** A standard context reads the value of a
document that was given out as an equal document if it is portable, and otherwise refuses it or
reads another one. What is read of a portable document is that document in all parts. -/
theorem portable_documents_read_back {document : Document} (issued : document.Issued)
    (there : List Request) :
    ((∃ read, ((Context.after there).parseDocument document.toJson).1 = .ok read ∧
      read.same document) ↔ document.IsPortable) ∧
    (document.IsPortable →
      ((Context.after there).parseDocument document.toJson).1 = .ok document) := by
  obtain ⟨hdid, named⟩ := issued.parts
  rw [Context.parseDocument_after]
  refine ⟨⟨?_, fun h => ?_⟩, fun h => h.parse_toJson hdid named⟩
  · rintro ⟨read, hparse, hsame⟩
    obtain ⟨hkind, hsignature⟩ := Document.parts_of_same hsame
    exact Document.isPortable_of_parse_toJson named hparse hkind hsignature
  · exact ⟨document, h.parse_toJson hdid named, document.same_self⟩

/-- The statement for a document of the founder with a type beside the signature, and for one of the
kind with the tag for all kinds. -/
theorem portable_documents_read_back_founder :
    ∃ document other : Document,
      document.Issued ∧ document.signature = some ⟨.hex, some "text/plain", [1, 2]⟩ ∧
      ((Context.after []).parseDocument document.toJson).1 = .ok document ∧
      other.Issued ∧ other.kind = .custom "*" ∧
      ¬∃ read, ((Context.after []).parseDocument other.toJson).1 = .ok read ∧
        read.same other := by
  let signature : EncodedData := ⟨.hex, some "text/plain", [1, 2]⟩
  let document : Document :=
    ⟨.founder, .visa, some ⟨"\x7b\x7d", [], signature, rfl⟩⟩
  let draft : Draft := .new .founder (.ofTag "*")
  have hcreate : (Context.after []).createDocument (some "visa") .founder document.data
      document.signature = .ok document := document.new_parts .visa
  have issued : document.Issued := .create .founder hcreate
  have hportable : document.IsPortable := by
    refine ⟨by decide, ?_⟩
    rintro _ ⟨⟩ _ ⟨⟩
    decide
  have hplain : Json.IsPlain Json.maxDepth (.object draft.properties) := .object (by decide) nofun
  obtain ⟨content, hsign, -⟩ := Draft.exists_signWith hplain id 0
  have hother : Document.Issued ⟨.founder, .ofTag "*", some content⟩ :=
    .sign .founder (.ofTag "*") hsign
  refine ⟨document, _, issued, rfl, (portable_documents_read_back issued []).2 hportable,
    hother, rfl, fun h => ?_⟩
  have hown := ((portable_documents_read_back hother []).1.mp h).ownTag
  exact hown.2 rfl

end SelfCert
