import SelfCert.EncodedData

/-!
# Network files

A file that is given by its content, by the address it can be fetched from, by its name, or by
several of them, with the map of the key it is sealed with where it is sealed.
-/

namespace SelfCert

/-- A file; its content, its address or its name is there. -/
structure NetworkFile where
  data : Option EncodedData
  filename : Option String
  url : Option String
  password : Option Json.Object
  isGiven : data.isSome ∨ filename.isSome ∨ url.isSome

namespace NetworkFile

/-- A file of given parts. -/
def new (data : Option EncodedData) (filename url : Option String) (password : Option Json.Object) :
    Except EncodingError NetworkFile :=
  if h : data.isSome ∨ filename.isSome ∨ url.isSome then .ok ⟨data, filename, url, password, h⟩
  else .error .emptyFile

/-- A file to be fetched. -/
def ofUrl (url : String) : NetworkFile := ⟨none, none, some url, none, .inr (.inr rfl)⟩

/-- Whether two files agree in all parts. -/
def same (a b : NetworkFile) : Bool :=
  a.data == b.data && a.filename == b.filename && a.url == b.url &&
    match a.password, b.password with
    | some p, some q => Json.sameFields p q
    | none, none => true
    | _, _ => false

/-- The long form. -/
def toMap (file : NetworkFile) : Json.Object :=
  let put (key : String) (value : Option Json) (fields : Json.Object) : Json.Object :=
    match value with
    | some value => Table.insert key value fields
    | none => fields
  ((match file.data with
    | some encoded => encoded.toMap
    | none => [])
    |> put "filename" (file.filename.map .string)
    |> put "URL" (file.url.map .string)
    |> put "password" (file.password.map .object))

/-- Whether an address carries the content in itself. -/
def isInline (url : String) : Bool :=
  (Text.afterStart? DataUri.scheme.toList url.toList).isSome

/-- The compact form: a text where nothing but the name is lost by it, and the long form
otherwise. An address that carries its content stands for the whole file. -/
def toJson (file : NetworkFile) : Json :=
  match file.url with
  | some url =>
    if isInline url ∨ (file.data.isNone ∧ file.password.isNone) then .string url
    else .object file.toMap
  | none =>
    match DataUri.build? file.toMap with
    | some text => if file.password.isNone then .string text else .object file.toMap
    | none => .object file.toMap

/-- The fields of a value: a map as it is, and a text as a map inside it, as a data URI or as an
address, whichever fits first. -/
def fields? : Json → Option Json.Object
  | .object fields => some fields
  | .string text =>
    match Json.embedded? text with
    | some fields => some fields
    | none =>
      match DataUri.parse? text with
      | some uri => some uri.toMap
      | none =>
        if Text.occursIn "://".toList text.toList then some (Table.ofList [("URL", .string text)])
        else none
  | _ => none

/-- The value of the content: what is under `data`, together with its encoding and its type if
one of them is given. -/
def contentOf? (fields : Json.Object) : Option Json :=
  (fields.present? "data").map fun body =>
    if Table.contains "algorithm" fields ∨ Table.contains "mime-type" fields then
      .object (fields.filter fun (key, _) => ["algorithm", "data", "mime-type"].contains key)
    else body

/-- The text of a field that is not empty. -/
def textOf? (fields : Json.Object) (key : String) : Option String :=
  (fields.string? key).filter fun text => !text.isEmpty

/-- Reads the fields of a file. -/
def ofFields (encodings : Registry Encoding) (fields : Json.Object) :
    Except EncodingError NetworkFile := do
  let data ← (contentOf? fields).mapM (EncodedData.ofJson encodings)
  new data (textOf? fields "filename") (textOf? fields "URL")
    ((Table.get? "password" fields).bind Json.asObject?)

end NetworkFile

end SelfCert
