import SelfCert.CommandLine.Command
import SelfCert.CommandLine.Files
import SelfCert.Context

/-!
# Running commands

What each command answers, as a JSON value, or why it fails. Commands run in a context of their own
with everything built in; they take files, the time and randomness from outside.
-/

namespace SelfCert.CommandLine

/-- A reason behind a failure. -/
inductive Cause where
  /-- The system refused. -/
  | system
  /-- The text is not JSON. -/
  | notJson
  /-- An error of the library. -/
  | error (message : String)
  deriving DecidableEq, Repr

/-- Why a command failed. -/
inductive CommandError where
  | unreadable (path : String)
  | notJson (path : String)
  | notObject (path : String)
  | notMade (path : String)
  | notWritten (path : String)
  | unknownEntity (text : String)
  | badKey (error : KeyError)
  | badMeta (error : MetaError)
  | badAddress (error : AddressError)
  | badIdentifier (error : IdentifierError)
  | badDocument (error : DocumentError)
  | badKeyIn (path : String) (error : KeyError)
  | badMetaIn (path : String) (error : MetaError)
  | badDocumentIn (path : String) (error : DocumentError)
  deriving DecidableEq, Repr

/-- What the error about an identifier goes back to. -/
def identifierCauses : IdentifierError → List Cause
  | .address error => [.error error.message]
  | _ => []

/-- What the error about a document goes back to. -/
def documentCauses : DocumentError → List Cause
  | .identifier error => identifierCauses error
  | _ => []

namespace CommandError

/-- The text of an error. -/
def message : CommandError → String
  | unreadable path => "failed to read " ++ path
  | notJson path => path ++ " is not valid JSON"
  | notObject path => path ++ " must contain a JSON object"
  | notMade path => "failed to create " ++ path
  | notWritten path => "failed to write " ++ path
  | unknownEntity text => "unknown entity type '" ++ text ++ "'"
  | badKey error => error.message
  | badMeta error => error.message
  | badAddress error => error.message
  | badIdentifier error => error.message
  | badDocument error => error.message
  | badKeyIn path _ => "invalid private key in " ++ path
  | badMetaIn path _ => "invalid meta in " ++ path
  | badDocumentIn path _ => "invalid document in " ++ path

/-- The reasons behind an error, from the nearest to the farthest. -/
def causes : CommandError → List Cause
  | unreadable _ => [.system]
  | notJson _ => [.notJson]
  | notMade _ => [.system]
  | notWritten _ => [.system]
  | badIdentifier error => identifierCauses error
  | badDocument error => documentCauses error
  | badKeyIn _ error => [.error error.message]
  | badMetaIn _ error => [.error error.message]
  | badDocumentIn _ error => .error error.message :: documentCauses error
  | _ => []

end CommandError

/-! ### Reports -/

/-- What an address says. -/
def addressReport (address : Address) : Json :=
  .ofFields [("address", .string address.text), ("kind", .string address.form.name),
    ("network", .ofNat address.network.code.toNat), ("entity", .ofString? address.network.name?),
    ("is_user", .bool address.network.isUser), ("is_group", .bool address.network.isGroup),
    ("is_broadcast", .bool address.network.isBroadcast)]

/-- What an identifier says. -/
def identifierReport (did : Identifier) : Json :=
  .ofFields [("id", .string did.text), ("name", .ofString? did.name),
    ("address", .string did.address.text), ("terminal", .ofString? did.terminal),
    ("network", .ofNat did.network.code.toNat), ("entity", .ofString? did.network.name?),
    ("is_user", .bool did.network.isUser), ("is_group", .bool did.network.isGroup),
    ("is_broadcast", .bool did.network.isBroadcast)]

/-- What a meta says, and whether it matches an identifier if one was given. -/
def metaReport (m : Meta) (isMatch : Option Bool) : Json :=
  .ofFields ([("valid", .bool m.isValid), ("type", .string m.scheme.tag),
      ("seed", .ofString? m.seed), ("key_algorithm", .string m.key.algorithm.tag)] ++
    match isMatch with
    | some isMatch => [("matches", .bool isMatch)]
    | none => [])

/-- What a document says to whoever has the meta of its owner. Nothing that is not signed is
shown. -/
def documentReport (m : Meta) (document : Document) (isOwner : Bool) : Json :=
  let properties := document.verifiedProperties m.key
  let name := properties.bind fun fields => Json.Object.string? fields "name"
  .ofFields [("did", .string document.did.text), ("type", .string document.kind.tag),
    ("owner_matches_meta", .bool isOwner), ("verified", .bool properties.isSome),
    ("name", .ofString? name), ("properties", (properties.map .object).getD .null)]

/-- The versions of the tool and of the protocol. -/
def versionReport : Json :=
  .ofFields [("mkm", .string "0.1.0"), ("protocol", .ofNat 1)]

/-! ### Running -/

section

variable {M : Type → Type} [Monad M]

/-- A result, or what is wrong by way of an error. -/
def orError {ε α : Type} (wrap : ε → CommandError) (result : Except ε α) :
    ExceptT CommandError M α :=
  ExceptT.mk (pure (result.mapError wrap))

/-- Reads a file as JSON. -/
def readJson (files : FileSystem M) (path : String) : ExceptT CommandError M Json := do
  match ← files.read path with
  | none => throw (.unreadable path)
  | some text =>
    match Json.parse? text with
    | none => throw (.notJson path)
    | some value => return value

/-- Reads a file as a JSON object. -/
def readObject (files : FileSystem M) (path : String) : ExceptT CommandError M Json.Object := do
  match ← readJson files path with
  | .object fields => return fields
  | _ => throw (.notObject path)

/-- Reads a file as a meta. -/
def readMeta (files : FileSystem M) (path : String) : ExceptT CommandError M Meta := do
  orError (.badMetaIn path) (Context.loaded.parseMeta (← readJson files path))

/-- Writes a value into a file. -/
def writeJson (files : FileSystem M) (path : String) (value : Json) :
    ExceptT CommandError M Unit := do
  if !(← files.write path value.pretty) then
    throw (.notWritten path)

/-- A new account: its key, its meta and its identifier. -/
structure Account where
  secret : PrivateKey
  record : Meta
  did : Identifier

/-- Makes an account. -/
def makeAccount (options : GenerateOptions) (source : Entropy) : Except CommandError Account := do
  let network ← match Entity.ofName? options.network with
    | some network => .ok network
    | none => .error (.unknownEntity options.network)
  let context := Context.loaded
  let secret ← (PrivateKey.create context.privateKeys options.algorithm source).1.mapError .badKey
  let m ← (context.generateMeta options.scheme secret options.seed).mapError .badMeta
  let did ← (context.deriveIdentifier m network options.terminal).1.mapError .badIdentifier
  return ⟨secret, m, did⟩

/-- Makes an account and writes its files, if a directory was given. -/
def generate (files : FileSystem M) (options : GenerateOptions) (source : Entropy) :
    ExceptT CommandError M Json := do
  let account ← orError id (makeAccount options source)
  let fields := [("id", Json.string account.did.text), ("meta", account.record.toJson)]
  let secret := Json.object account.secret.toMap
  match options.directory with
  | none => return .ofFields (fields ++ [("secret", secret)])
  | some directory =>
    if !(← files.makeFolder directory) then
      throw (.notMade directory)
    writeJson files (joinPath directory "meta.json") account.record.toJson
    writeJson files (joinPath directory "secret.json") secret
    return .ofFields (fields ++ [("directory", .string directory)])

/-- Shows what an address says. -/
def showAddress (text : String) : Except CommandError Json :=
  ((Context.loaded.parseAddress text).1.mapError .badAddress).map addressReport

/-- Shows what an identifier says. -/
def showIdentifier (text : String) : Except CommandError Json :=
  ((Context.loaded.parseIdentifier text).1.mapError .badIdentifier).map identifierReport

/-- Checks a meta. -/
def checkMeta (files : FileSystem M) (path : String) (did : Option String) :
    ExceptT CommandError M Json := do
  let m ← readMeta files path
  match did with
  | none => return metaReport m none
  | some text =>
    let (did, context) := Context.loaded.parseIdentifier text
    let did ← orError .badIdentifier did
    return metaReport m (some (context.matchesIdentifier m did).1)

/-- The document that is to be signed. -/
def makeDraft (files : FileSystem M) (options : SignOptions) (did : Identifier) :
    ExceptT CommandError M Draft := do
  let kind := (options.kind.map DocumentKind.ofTag).getD (.usualFor did)
  let draft ← match options.propertiesPath with
    | some path => do pure ((Draft.new did kind).setAll (← readObject files path))
    | none => pure (Draft.new did kind)
  match options.name with
  | some name => return draft.set "name" (.string name)
  | none => return draft

/-- Signs a document. -/
def signDocument (files : FileSystem M) (options : SignOptions) (now : Int64) :
    ExceptT CommandError M Json := do
  let keyMap ← readObject files options.keyPath
  let secret ← orError (.badKeyIn options.keyPath)
    (PrivateKey.read Context.loaded.privateKeys keyMap)
  let did ← orError .badIdentifier (Context.loaded.parseIdentifier options.did).1
  let draft ← makeDraft files options did
  let document ← orError .badDocument (draft.sign secret now)
  return document.toJson

/-- Checks a document against a meta. -/
def checkDocument (files : FileSystem M) (path metaPath : String) :
    ExceptT CommandError M Json := do
  let m ← readMeta files metaPath
  let value ← readJson files path
  let (document, context) := Context.loaded.parseDocument value
  let document ← orError (.badDocumentIn path) document
  return documentReport m document (context.matchesIdentifier m document.did).1

/-- Runs a command with given files, time and randomness. -/
def Command.run (files : FileSystem M) (now : Int64) (source : Entropy) :
    Command → ExceptT CommandError M Json
  | .generate options => CommandLine.generate files options source
  | .address text => orError id (showAddress text)
  | .identifier text => orError id (showIdentifier text)
  | .checkMeta path did => CommandLine.checkMeta files path did
  | .signDocument options => CommandLine.signDocument files options now
  | .checkDocument path metaPath => CommandLine.checkDocument files path metaPath
  | .version => pure versionReport

end

end SelfCert.CommandLine
