import SelfCert.Document
import SelfCert.NetworkFile

/-!
# Drafts

A draft collects properties until it is signed. Signing adds the time unless there is one, and signs
the compact JSON text of the properties.
-/

namespace SelfCert

/-- An integer of 64 bits as a JSON value. -/
def Json.ofInt64 (n : Int64) : Json :=
  .number (.integer ⟨n.toInt, n.le_toInt, Int.lt_trans n.toInt_lt (by decide)⟩)

/-- A document in the making. -/
structure Draft where
  did : Identifier
  kind : DocumentKind
  properties : Json.Object

namespace Draft

/-- A draft without properties. -/
def new (did : Identifier) (kind : DocumentKind) : Draft := ⟨did, kind, []⟩

/-- A draft that starts from a document. -/
def ofDocument (document : Document) : Draft :=
  ⟨document.did, document.kind, document.properties⟩

/-- Sets a property. -/
def set (draft : Draft) (name : String) (value : Json) : Draft :=
  { draft with properties := Table.insert name value draft.properties }

/-- Sets several properties. -/
def setAll (draft : Draft) (properties : Json.Object) : Draft :=
  { draft with properties := Table.insertAll properties draft.properties }

/-- Sets the key for messages. -/
def setKey (draft : Draft) (key : KeyMap) : Draft :=
  draft.set "key" (.object key)

/-- Sets the picture. -/
def setAvatar (draft : Draft) (file : NetworkFile) : Draft :=
  draft.set "avatar" file.toJson

/-- Sets the founder. -/
def setFounder (draft : Draft) (founder : Identifier) : Draft :=
  draft.set "founder" (.string founder.text)

/-- Sets the assistants. -/
def setAssistants (draft : Draft) (assistants : List Identifier) : Draft :=
  draft.set "assistants" (.array (assistants.map fun id => .string id.text))

/-- The draft with a time. -/
def stamped (draft : Draft) (now : Int64) : Draft :=
  if Table.contains "time" draft.properties then draft else draft.set "time" (.ofInt64 now)

/-- The text that is signed. -/
def text (draft : Draft) : String :=
  (Json.object draft.properties).compact

/-- Signs a draft at a given time, in seconds since the beginning of 1970, with whatever makes
signatures of byte strings. -/
def signWith (draft : Draft) (signer : Bytes → Bytes) (now : Int64) :
    Except DocumentError Document :=
  let text := (draft.stamped now).text
  Document.new draft.did draft.kind (some text)
    (some (.ofBytes .base64 (signer (Utf8.encode text))))

/-- Signs a draft with a private key. -/
def sign (draft : Draft) (secret : PrivateKey) (now : Int64) : Except DocumentError Document :=
  draft.signWith secret.sign now

end Draft

end SelfCert
