import SelfCert.Instant
import SelfCert.Meta

/-!
# Documents

A document is about an identifier and of some kind. It is empty, or it holds a text of JSON with the
properties and a signature of exactly that text (`SignedText`). Nothing else is ever taken for the
properties, so a reader who checks the signature knows who wrote them.
-/

namespace SelfCert

/-- The kinds of documents. -/
inductive DocumentKind where
  /-- What a member shows of itself. -/
  | visa
  /-- What is known about anybody. -/
  | profile
  /-- What a group shows of itself. -/
  | bulletin
  /-- A kind with a tag of its own. -/
  | custom (tag : String)
  deriving DecidableEq, Repr

namespace DocumentKind

/-- The tag of a kind. -/
def tag : DocumentKind → String
  | visa => "visa"
  | profile => "profile"
  | bulletin => "bulletin"
  | custom tag => tag

/-- The kind a tag stands for. -/
def ofTag (tag : String) : DocumentKind :=
  if tag = "visa" then visa
  else if tag = "profile" then profile
  else if tag = "bulletin" then bulletin
  else custom tag

/-- The kind of document that an identifier usually has. -/
def usualFor (did : Identifier) : DocumentKind :=
  if did.network.isGroup then bulletin else if did.network.isUser then visa else profile

/-- The name of a kind in descriptions. -/
def describe : DocumentKind → String
  | visa => "Visa"
  | profile => "Profile"
  | bulletin => "Bulletin"
  | custom tag => "Other(" ++ Text.quoted tag ++ ")"

@[simp] theorem tag_ofTag (tag : String) : (ofTag tag).tag = tag := by
  unfold ofTag
  split
  · next h => exact h.symm
  split
  · next h => exact h.symm
  split
  · next h => exact h.symm
  · rfl

end DocumentKind

/-- Why there is no document. -/
inductive DocumentError where
  /-- Nobody is registered for documents of this type. -/
  | unknownKind (tag : String)
  /-- The value is not a map. -/
  | notMap
  /-- The map does not say whom the document is about. -/
  | missingDid
  /-- The data is not a text. -/
  | dataNotText
  /-- The data is not the text of a JSON object. -/
  | dataNotObject
  /-- There is a signature but no data. -/
  | signatureWithoutData
  /-- There is data but no signature. -/
  | dataWithoutSignature
  /-- The map has data without a signature or the other way round. -/
  | oneSided
  /-- The identifier is refused. -/
  | identifier (error : IdentifierError)
  /-- The signature cannot be read. -/
  | encoding (error : EncodingError)
  deriving DecidableEq, Repr

/-- The text of an error. -/
def DocumentError.message : DocumentError → String
  | unknownKind tag => "unknown document type: " ++ tag
  | notMap => "document format error: document is not a map"
  | missingDid => "document format error: missing 'did'"
  | dataNotText => "document format error: 'data' must be a string"
  | dataNotObject => "document format error: data is not a JSON object"
  | signatureWithoutData => "document format error: signature without data"
  | dataWithoutSignature => "document format error: data without signature"
  | oneSided => "document format error: data and signature must be both present or both absent"
  | identifier error => error.message
  | encoding error => error.message

/-- A text with the properties it holds and a signature for it. -/
structure SignedText where
  text : String
  properties : Json.Object
  signature : EncodedData
  reads : Json.parseObject? text = some properties

/-- A document. -/
structure Document where
  did : Identifier
  kind : DocumentKind
  content : Option SignedText

namespace Document

/-- The document of given parts. Empty data counts as none. -/
def new (did : Identifier) (kind : DocumentKind) (data : Option String)
    (signature : Option EncodedData) : Except DocumentError Document :=
  match data.filter (fun text => !text.isEmpty), signature with
  | none, none => .ok ⟨did, kind, none⟩
  | some text, some signature =>
    match h : Json.parseObject? text with
    | some properties => .ok ⟨did, kind, some ⟨text, properties, signature, h⟩⟩
    | none => .error .dataNotObject
  | none, some _ => .error .signatureWithoutData
  | some _, none => .error .dataWithoutSignature

/-- The signed text. -/
def data (document : Document) : Option String :=
  document.content.map (·.text)

/-- The signature. -/
def signature (document : Document) : Option EncodedData :=
  document.content.map (·.signature)

/-- The properties, whoever wrote them. -/
def properties (document : Document) : Json.Object :=
  match document.content with
  | some content => content.properties
  | none => []

/-- Whether a document has no data. -/
def isEmpty (document : Document) : Bool := document.content.isNone

/-- Whether a key verifies the signature; it never does for an empty document. -/
def verify (document : Document) (key : PublicKey) : Bool :=
  match document.content with
  | some content => key.verify (Utf8.encode content.text) content.signature.data
  | none => false

/-- The properties, if a key verifies their signature. -/
def verifiedProperties (document : Document) (key : PublicKey) : Option Json.Object :=
  if document.verify key then some document.properties else none

/-- Whether two documents agree in all parts. -/
def same (a b : Document) : Bool :=
  a.did.text == b.did.text && a.kind == b.kind && a.data == b.data && a.signature == b.signature &&
    Json.sameFields a.properties b.properties

/-! ### Wire form -/

/-- The map of a document. -/
def toMap (document : Document) : Json.Object :=
  let fields := Table.ofList
    [("did", .string document.did.text), ("type", .string document.kind.tag)]
  match document.content with
  | some content =>
    Table.insert "signature" content.signature.toJson
      (Table.insert "data" (.string content.text) fields)
  | none => fields

/-- The map of a document as a value. -/
def toJson (document : Document) : Json := .object document.toMap

/-- The text of the identifier in the map of a document. -/
def didOf (fields : Json.Object) : Except DocumentError String :=
  match fields.string? "did" with
  | some text => .ok text
  | none => .error .missingDid

/-- The data in the map of a document. -/
def dataOf (fields : Json.Object) : Except DocumentError (Option String) :=
  match fields.present? "data" with
  | none => .ok none
  | some (.string text) => .ok (some text)
  | some _ => .error .dataNotText

/-- The signature in the map of a document. -/
def signatureOf (encodings : Registry Encoding) (fields : Json.Object) :
    Except DocumentError (Option EncodedData) :=
  match fields.present? "signature" with
  | none => .ok none
  | some value =>
    match EncodedData.ofJson encodings value with
    | .ok encoded => .ok (some encoded)
    | .error error => .error (.encoding error)

/-- The kind that the map of a document names, or the usual one of its identifier. -/
def kindOf (did : Identifier) (fields : Json.Object) : DocumentKind :=
  match fields.string? "type" with
  | some tag =>
    if tag.isEmpty ∨ tag = Registry.wildcard then .usualFor did else .ofTag tag
  | none => .usualFor did

/-- Reads the fields of a document about a given identifier. -/
def ofFields (encodings : Registry Encoding) (did : Identifier) (fields : Json.Object) :
    Except DocumentError Document := do
  let data ← dataOf fields
  let signature ← signatureOf encodings fields
  if data.isSome ≠ signature.isSome then .error .oneSided
  else new did (kindOf did fields) data signature

/-! ### Properties -/

/-- The name. -/
def name (document : Document) : Option String :=
  document.properties.string? "name"

/-- The time of writing. -/
def time (document : Document) : Option Instant :=
  (Table.get? "time" document.properties).bind Instant.ofJson?

end Document

/-- What a visa holds: the map of the key for messages and the value of the picture. -/
structure Visa where
  key : Option KeyMap
  avatar : Option Json

/-- The view of a document as a visa. -/
def Document.visa? (document : Document) : Option Visa :=
  if document.kind = .visa then
    some ⟨(Table.get? "key" document.properties).bind Json.asObject?,
      Table.get? "avatar" document.properties⟩
  else none

/-- What a bulletin holds: the texts of the identifiers of the founder and of the assistants. -/
structure Bulletin where
  founder : Option String
  assistants : List String

/-- The view of a document as a bulletin. -/
def Document.bulletin? (document : Document) : Option Bulletin :=
  if document.kind = .bulletin then
    let items := ((Table.get? "assistants" document.properties).bind Json.asArray?).getD []
    some ⟨document.properties.string? "founder", items.filterMap Json.asString?⟩
  else none

end SelfCert
