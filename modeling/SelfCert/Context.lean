import SelfCert.Draft
import SelfCert.Memory
import SelfCert.Key.Symmetric

/-!
# Contexts

A context says what is responsible for each tag: the kinds of keys, the schemes of metas, the kinds
of documents and the encodings, and who reads addresses, identifiers and files. What is built in is
installed by loading, which happens at most once.

Addresses and identifiers are read with a memory. A context may have several memories; the
registries refer to them by their numbers.
-/

namespace SelfCert

/-- Registries and memories. -/
structure Context where
  isLoaded : Bool
  publicKeys : Registry KeyAlgorithm
  privateKeys : Registry KeyAlgorithm
  symmetricKeys : Registry CipherKind
  metas : Registry Scheme
  /-- The kind of a new document, or nothing for the usual kind of its identifier. -/
  documents : Registry (Option DocumentKind)
  /-- The number of the memory for addresses. -/
  addresses : Registry Nat
  /-- The number of the memory for identifiers. -/
  identifiers : Registry Nat
  encodings : Registry Encoding
  files : Registry Unit
  memories : List Memory

namespace Context

/-- Nothing is registered and nothing remembered. -/
def empty : Context := ⟨false, [], [], [], [], [], [], [], [], [], []⟩

/-! ### Loading -/

/-- What is installed beside the canonical tags. -/
structure LoadOptions where
  lowercaseAliases : Bool
  uppercaseAliases : Bool
  wildcardDocuments : Bool
  deriving DecidableEq, Repr

/-- Everything is installed. -/
def LoadOptions.standard : LoadOptions := ⟨true, true, true⟩

/-- Marks a context as loaded; tells whether it was not. -/
def markLoaded (context : Context) : Bool × Context :=
  (!context.isLoaded, { context with isLoaded := true })

/-- Adds a memory; gives its number. -/
def addMemory (context : Context) : Nat × Context :=
  (context.memories.length, { context with memories := context.memories ++ [.empty] })

/-- The kinds of keys that sign. -/
def keyAlgorithms : List (String × KeyAlgorithm) :=
  [KeyAlgorithm.ecc, .rsa, .ed25519].map fun algorithm => (algorithm.tag, algorithm)

/-- The ways to seal messages. -/
def cipherKinds : List (String × CipherKind) :=
  [CipherKind.aes, .aesCbc, .plain].map fun kind => (kind.tag, kind)

/-- The encodings; Base64 is for all other tags. -/
def encodingTags : List (String × Encoding) :=
  [Encoding.base64, .base58, .hex].map (fun encoding => (encoding.tag, encoding)) ++
    [(Registry.wildcard, .base64)]

/-- The tags of schemes. -/
def schemeTags (options : LoadOptions) : List (String × Scheme) :=
  Scheme.builtIn.map (fun scheme => (scheme.tag, scheme)) ++
    (if options.lowercaseAliases then Scheme.lowercaseAliases else []) ++
    (if options.uppercaseAliases then Scheme.uppercaseAliases else [])

/-- The tags of kinds of documents. -/
def documentTags (options : LoadOptions) : List (String × Option DocumentKind) :=
  [DocumentKind.visa, .profile, .bulletin].map (fun kind => (kind.tag, some kind)) ++
    (if options.wildcardDocuments then [(Registry.wildcard, none)] else [])

/-- Registers a new memory for addresses and identifiers; gives its number. -/
def installMemory (tag : String) (context : Context) : Nat × Context :=
  let (number, context) := context.addMemory
  (number, { context with
    addresses := Table.insert tag number context.addresses
    identifiers := Table.insert tag number context.identifiers })

/-- Registers everything built in. -/
def install (options : LoadOptions) (context : Context) : Context :=
  let (_, context) := context.installMemory Registry.wildcard
  { context with
    publicKeys := Table.insertAll keyAlgorithms context.publicKeys
    privateKeys := Table.insertAll keyAlgorithms context.privateKeys
    symmetricKeys := Table.insertAll cipherKinds context.symmetricKeys
    metas := Table.insertAll (schemeTags options) context.metas
    documents := Table.insertAll (documentTags options) context.documents
    encodings := Table.insertAll encodingTags context.encodings
    files := Table.insert Registry.wildcard () context.files }

/-- Loads a context unless it was loaded before; tells whether it was not. -/
def load (options : LoadOptions) (context : Context) : Bool × Context :=
  if context.isLoaded then (false, context)
  else (true, (context.markLoaded.2).install options)

/-- A new context with everything built in. -/
def loaded : Context := (empty.load .standard).2

/-! ### Encoded data and files -/

/-- Data in the encoding that is registered for a tag. -/
def createData (context : Context) (data : Bytes) (tag : Option String) :
    Except EncodingError EncodedData :=
  EncodedData.create context.encodings data tag

/-- Reads encoded data. -/
def parseData (context : Context) (value : Json) : Except EncodingError EncodedData :=
  EncodedData.ofJson context.encodings value

/-- Whether somebody reads files. -/
def requireFiles (context : Context) : Except EncodingError Unit :=
  match Table.get? Registry.wildcard context.files with
  | some () => .ok ()
  | none => .error (.unknownEncoding Registry.wildcard)

/-- A file of given parts. -/
def createFile (context : Context) (data : Option EncodedData) (filename url : Option String)
    (password : Option Json.Object) : Except EncodingError NetworkFile := do
  context.requireFiles
  NetworkFile.new data filename url password

/-- Reads a file. -/
def parseFile (context : Context) (value : Json) : Except EncodingError NetworkFile :=
  match NetworkFile.fields? value with
  | none => .error .notFile
  | some fields => do
    context.requireFiles
    NetworkFile.ofFields context.encodings fields

/-! ### Metas -/

/-- The scheme that is registered for a tag. -/
def scheme (context : Context) (tag : String) : Except MetaError Scheme :=
  match context.metas.resolve tag Registry.wildcard with
  | some scheme => .ok scheme
  | none => .error (.unknownScheme tag)

/-- The meta of a key, given with whatever makes signatures for it, under the scheme of a tag. -/
def generateMetaWith (context : Context) (tag : String) (key : PublicKey)
    (signer : Bytes → Bytes) (seed : Option String) : Except MetaError Meta := do
  Meta.generateWith (← context.scheme tag) key signer seed

/-- The meta of a private key under the scheme of a tag. -/
def generateMeta (context : Context) (tag : String) (secret : PrivateKey) (seed : Option String) :
    Except MetaError Meta :=
  context.generateMetaWith tag secret.publicKey secret.sign seed

/-- The meta of given parts under the scheme of a tag. -/
def createMeta (context : Context) (tag : String) (key : PublicKey) (seed : Option String)
    (fingerprint : Option EncodedData) : Except MetaError Meta := do
  Meta.create (← context.scheme tag) key seed fingerprint

/-- Reads a meta. -/
def parseMeta (context : Context) (value : Json) : Except MetaError Meta :=
  match value.mapOf? with
  | none => .error .notMap
  | some fields =>
    match (Table.get? "type" fields).bind Json.tag? with
    | none => .error .missingType
    | some tag => do
      Meta.ofFields context.encodings context.publicKeys (← context.scheme tag) fields

/-! ### Addresses and identifiers -/

/-- Does something with the memory of a given number. -/
def withMemory {α : Type} (context : Context) (number : Nat) (act : Memory → α × Memory) :
    α × Context :=
  let (answer, memory) := act (context.memories.getD number .empty)
  (answer, { context with memories := context.memories.set number memory })

/-- Does something with the memory for addresses. -/
def withAddresses {α : Type} (context : Context)
    (act : Memory → Except AddressError α × Memory) : Except AddressError α × Context :=
  match Table.get? Registry.wildcard context.addresses with
  | some number => context.withMemory number act
  | none => (.error .nobodyRegistered, context)

/-- Does something with the memory for identifiers. -/
def withIdentifiers {α : Type} (context : Context)
    (act : Memory → Except IdentifierError α × Memory) : Except IdentifierError α × Context :=
  match Table.get? Registry.wildcard context.identifiers with
  | some number => context.withMemory number act
  | none => (.error .nobodyRegistered, context)

/-- Reads an address. -/
def parseAddress (context : Context) (text : String) : Except AddressError Address × Context :=
  context.withAddresses (Memory.parseAddress text)

/-- The address of a meta in a network. -/
def deriveAddress (context : Context) (m : Meta) (network : Entity) :
    Except AddressError Address × Context :=
  context.withAddresses (Memory.deriveAddress m network)

/-- Reads an identifier. -/
def parseIdentifier (context : Context) (text : String) :
    Except IdentifierError Identifier × Context :=
  context.withIdentifiers (Memory.parseIdentifier text)

/-- The identifier of given parts. -/
def createIdentifier (context : Context) (name : Option String) (address : Address)
    (terminal : Option String) : Except IdentifierError Identifier × Context :=
  context.withIdentifiers (Memory.createIdentifier name address terminal)

/-- The identifier of a meta in a network. -/
def deriveIdentifier (context : Context) (m : Meta) (network : Entity) (terminal : Option String) :
    Except IdentifierError Identifier × Context :=
  context.withIdentifiers (Memory.deriveIdentifier m network terminal)

/-- Whether a meta belongs to an identifier: the seed is its name, and its address is the one that
is derived from the meta in its network. -/
def matchesIdentifier (context : Context) (m : Meta) (id : Identifier) : Bool × Context :=
  if m.isValid && m.seed == id.name then
    match context.deriveAddress m id.network with
    | (.ok address, context) => (address.text == id.address.text, context)
    | (.error _, context) => (false, context)
  else (false, context)

/-- Thins out the memory for identifiers and counts what goes. -/
def reduceMemory (context : Context) (walks : Walks) : Nat × Context :=
  match Table.get? Registry.wildcard context.identifiers with
  | some number => context.withMemory number (Memory.reduce walks)
  | none => (0, context)

/-! ### Documents -/

/-- The tag that a new document is created under: the given one, or that of the usual kind of its
identifier. -/
def tagForDocument (tag : Option String) (did : Identifier) : String :=
  match tag with
  | some tag => if tag = Registry.wildcard then (DocumentKind.usualFor did).tag else tag
  | none => (DocumentKind.usualFor did).tag

/-- The document of given parts, of the kind that is registered for a tag. -/
def createDocument (context : Context) (tag : Option String) (did : Identifier)
    (data : Option String) (signature : Option EncodedData) : Except DocumentError Document :=
  let tag := tagForDocument tag did
  match context.documents.resolve tag Registry.wildcard with
  | none => .error (.unknownKind tag)
  | some kind => Document.new did (kind.getD (.usualFor did)) data signature

/-- Whether somebody reads documents of a type. -/
def requireDocuments (context : Context) (tag : Option String) : Except DocumentError Unit :=
  match context.documents.resolveAny tag with
  | some _ => .ok ()
  | none => .error (.unknownKind (tag.getD ""))

/-- The fields of a value that is read as a document. -/
def documentFields (context : Context) (value : Json) : Except DocumentError Json.Object :=
  match value.mapOf? with
  | none => .error .notMap
  | some fields => do
    context.requireDocuments ((Table.get? "type" fields).bind Json.tag?)
    return fields

/-- Reads a document. -/
def parseDocument (context : Context) (value : Json) : Except DocumentError Document × Context :=
  match context.documentFields value with
  | .error error => (.error error, context)
  | .ok fields =>
    match Document.didOf fields with
    | .error error => (.error error, context)
    | .ok text =>
      match context.parseIdentifier text with
      | (.error error, context) => (.error (.identifier error), context)
      | (.ok did, context) => (Document.ofFields context.encodings did fields, context)

/-- The founder that a bulletin names. -/
def founder (context : Context) (bulletin : Bulletin) : Option Identifier × Context :=
  match bulletin.founder with
  | none => (none, context)
  | some text => (context.parseIdentifier text).map Except.toOption id

/-- Reads the texts of identifiers and leaves out those that are none. -/
def parseIdentifiers (context : Context) : List String → List Identifier × Context
  | [] => ([], context)
  | text :: more =>
    match context.parseIdentifier text with
    | (.ok member, context) => (context.parseIdentifiers more).map (member :: ·) id
    | (.error _, context) => context.parseIdentifiers more

/-- The assistants that a bulletin names; what is no identifier is left out. -/
def assistants (context : Context) (bulletin : Bulletin) : List Identifier × Context :=
  context.parseIdentifiers bulletin.assistants

/-- The picture that a visa shows, if it can be read. -/
def avatar (context : Context) (visa : Visa) : Option NetworkFile :=
  visa.avatar.bind fun value => (context.parseFile value).toOption

/-! ### Description -/

/-- A description of a registry. -/
def describeRegistry {α : Type} (registry : Registry α) : String :=
  "AlgorithmRegistry \x7b tags: " ++ Text.quotedList (Table.tags registry) ++ " \x7d"

/-- A description of a context. -/
def describe (context : Context) : String :=
  let isLoaded := if context.isLoaded then "true" else "false"
  "Extensions \x7b loaded: " ++ isLoaded ++
    ", public_keys: " ++ describeRegistry context.publicKeys ++
    ", private_keys: " ++ describeRegistry context.privateKeys ++
    ", symmetric_keys: " ++ describeRegistry context.symmetricKeys ++
    ", metas: " ++ describeRegistry context.metas ++
    ", documents: " ++ describeRegistry context.documents ++
    ", transportable_data: " ++ describeRegistry context.encodings ++ ", .. \x7d"

end Context

end SelfCert
