import SelfCert.EncodedData
import SelfCert.Identifier
import SelfCert.Json.Printer
import SelfCert.Key.Asymmetric

/-!
# Metas

A meta says which key an account has. Under the standard scheme it may also bind the key to a seed,
the later name of the account, by a fingerprint: the signature of the seed. A meta only exists if it
is consistent in itself (`Meta.isConsistent`).
-/

namespace SelfCert

/-- Why there is no meta. -/
inductive MetaError where
  /-- No scheme is registered for this tag, or none is known. -/
  | unknownScheme (tag : String)
  /-- The value is not a map. -/
  | notMap
  /-- The map has no type. -/
  | missingType
  /-- The map has no key. -/
  | missingKey
  /-- The seed is not a text. -/
  | seedNotText
  /-- The fingerprint cannot be read. -/
  | fingerprint (error : EncodingError)
  /-- There is a seed without a fingerprint or the other way round. -/
  | oneSided
  /-- The key does not fit the scheme, or the fingerprint is no signature of the seed. -/
  | inconsistent (scheme : Scheme)
  /-- The key cannot be read. -/
  | key (error : KeyError)
  deriving DecidableEq, Repr

/-- The text of an error. -/
def MetaError.message : MetaError → String
  | unknownScheme tag => "unknown meta type: " ++ tag
  | notMap => "meta format error: meta is not a map"
  | missingType => "meta format error: missing 'type'"
  | missingKey => "meta format error: missing 'key'"
  | seedNotText => "meta format error: 'seed' must be a string"
  | fingerprint error => "meta format error: fingerprint: " ++ error.message
  | oneSided => "meta format error: seed and fingerprint must be both present or both absent"
  | inconsistent scheme => "meta format error: " ++ scheme.tag ++ " meta failed self-validation"
  | key error => error.message

/-- Whether a key signed a seed, or there is neither seed nor fingerprint. -/
def PublicKey.vouches (key : PublicKey) (seed : Option String) (fingerprint : Option Bytes) :
    Bool :=
  match seed, fingerprint with
  | none, none => true
  | some seed, some fingerprint => key.verify (Utf8.encode seed) fingerprint
  | _, _ => false

/-- Whether the parts of a meta fit together. -/
def Scheme.admits (scheme : Scheme) (key : PublicKey) (seed : Option String)
    (fingerprint : Option Bytes) : Bool :=
  match scheme with
  | .standard => key.vouches seed fingerprint
  | .bitcoin => seed.isNone && fingerprint.isNone && !key.data.isEmpty
  | .ethereum =>
    seed.isNone && fingerprint.isNone && key.algorithm == .ecc &&
      (Secp256k1.ofBytes? key.data).isSome
  | .custom _ => key.vouches seed fingerprint

/-- A meta. -/
structure Meta where
  scheme : Scheme
  key : PublicKey
  seed : Option String
  fingerprint : Option EncodedData
  isConsistent : scheme.admits key seed (fingerprint.map (·.data))
  deriving DecidableEq

namespace Meta

/-- Whether the parts of a meta fit together; they always do. -/
def isValid (m : Meta) : Bool :=
  m.scheme.admits m.key m.seed (m.fingerprint.map (·.data))

/-- The meta of given parts, if they fit together. -/
def ofParts (scheme : Scheme) (key : PublicKey) (seed : Option String)
    (fingerprint : Option EncodedData) : Except MetaError Meta :=
  if seed.isSome ≠ fingerprint.isSome then .error .oneSided
  else if h : scheme.admits key seed (fingerprint.map (·.data)) then
    .ok ⟨scheme, key, seed, fingerprint, h⟩
  else .error (.inconsistent scheme)

/-- The meta of given parts. Seed and fingerprint are left out where the scheme has none. -/
def new (scheme : Scheme) (key : PublicKey) (seed : Option String)
    (fingerprint : Option EncodedData) : Except MetaError Meta :=
  if scheme.hasSeed then ofParts scheme key seed fingerprint else ofParts scheme key none none

/-- The meta of given parts under a known scheme; an empty seed counts as none. -/
def create (scheme : Scheme) (key : PublicKey) (seed : Option String)
    (fingerprint : Option EncodedData) : Except MetaError Meta :=
  match scheme with
  | .custom tag => .error (.unknownScheme tag)
  | _ => new scheme key (seed.filter fun text => !text.isEmpty) fingerprint

/-- The seed that a scheme keeps of a given one: none where it has no seeds or the text is empty. -/
def keptSeed (scheme : Scheme) (seed : Option String) : Option String :=
  seed.filter fun text => !text.isEmpty && scheme.hasSeed

/-- The meta of a key, given with whatever makes signatures for it. The seed that the scheme keeps
is signed. -/
def generateWith (scheme : Scheme) (key : PublicKey) (signer : Bytes → Bytes)
    (seed : Option String) : Except MetaError Meta :=
  let seed := keptSeed scheme seed
  let fingerprint := seed.map fun text => EncodedData.ofBytes .base64 (signer (Utf8.encode text))
  create scheme key seed fingerprint

/-- The meta of a private key. -/
def generate (scheme : Scheme) (secret : PrivateKey) (seed : Option String) :
    Except MetaError Meta :=
  generateWith scheme secret.publicKey secret.sign seed

/-! ### Wire form -/

/-- The map of a meta. -/
def toMap (m : Meta) : Json.Object :=
  let put (key : String) (value : Option Json) (fields : Json.Object) : Json.Object :=
    match value with
    | some value => Table.insert key value fields
    | none => fields
  Table.ofList [("type", .string m.scheme.tag), ("key", .object m.key.toMap)]
    |> put "seed" (m.seed.map .string)
    |> put "fingerprint" (m.fingerprint.map (·.toJson))

/-- The map of a meta as a value. -/
def toJson (m : Meta) : Json := .object m.toMap

/-- The seed in the map of a meta. -/
def seedOf (fields : Json.Object) : Except MetaError (Option String) :=
  match fields.present? "seed" with
  | none => .ok none
  | some (.string text) => .ok (some text)
  | some _ => .error .seedNotText

/-- The fingerprint in the map of a meta. -/
def fingerprintOf (encodings : Registry Encoding) (fields : Json.Object) :
    Except MetaError (Option EncodedData) :=
  match fields.present? "fingerprint" with
  | none => .ok none
  | some value =>
    match EncodedData.ofJson encodings value with
    | .ok encoded => .ok (some encoded)
    | .error error => .error (.fingerprint error)

/-- Reads the fields of a meta of a given scheme. -/
def ofFields (encodings : Registry Encoding) (kinds : Registry KeyAlgorithm) (scheme : Scheme)
    (fields : Json.Object) : Except MetaError Meta := do
  match Table.get? "key" fields with
  | some (.object keyMap) =>
    let seed ← seedOf fields
    let fingerprint ← fingerprintOf encodings fields
    if seed.isSome ≠ fingerprint.isSome then .error .oneSided
    else
      let key ← (PublicKey.read kinds keyMap).mapError .key
      create scheme key seed fingerprint
  | _ => .error .missingKey

/-! ### What a meta vouches for -/

/-- Whether a key belongs to a meta: it is the key of the meta, or it verifies the fingerprint. -/
def matchesKey (m : Meta) (key : PublicKey) : Bool :=
  m.key.same key ||
    match m.seed, m.fingerprint with
    | some seed, some fingerprint => key.verify (Utf8.encode seed) fingerprint.data
    | _, _ => false

/-- The address of a meta in a network. -/
def address (m : Meta) (network : Entity) : Except AddressError Address :=
  Address.derive m.scheme m.key.data network

/-- The identifier of a meta in a network; the seed is the name. -/
def identifier (m : Meta) (network : Entity) (terminal : Option String) :
    Except IdentifierError Identifier := do
  let address ← (m.address network).mapError .address
  Identifier.new m.seed address terminal

/-- What two metas have to share to be equal. The way the fingerprint is written does not count. -/
structure Identity where
  scheme : Scheme
  algorithm : KeyAlgorithm
  data : Bytes
  seed : Option String
  fingerprint : Option Bytes
  deriving DecidableEq

/-- What has to be shared with a meta to be equal to it. -/
def identity (m : Meta) : Identity :=
  ⟨m.scheme, m.key.algorithm, m.key.data, m.seed, m.fingerprint.map (·.data)⟩

/-- Whether two metas are equal. -/
def same (a b : Meta) : Bool := a.identity == b.identity

/-- A description of a meta. -/
def describe (m : Meta) : String :=
  let seed := match m.seed with
    | some text => "Some(" ++ Text.quoted text ++ ")"
    | none => "None"
  "Meta \x7b type: " ++ Text.quoted m.scheme.tag ++ ", key: " ++ m.key.describe ++
    ", seed: " ++ seed ++ " \x7d"

end Meta

end SelfCert
