import SelfCert.Der
import SelfCert.Pem
import SelfCert.Rsa.Basic

/-!
# Wire forms of RSA keys

A public key is written as a block `PUBLIC KEY` with the kind of key in front of its numbers; a bare
block `RSA PUBLIC KEY` is read too. A private key is written as a block `RSA PRIVATE KEY` of its
numbers; a block `PRIVATE KEY` with the kind in front is read too.
-/

namespace SelfCert.Rsa

/-- The content of the object identifier of RSA keys. -/
def keyName : Bytes :=
  [0x2a, 0x86, 0x48, 0x86, 0xf7, 0x0d, 0x01, 0x01, 0x01]

/-- The content of the kind of an RSA key: its name and no parameters. -/
def keyKind : Bytes :=
  Der.element Der.nameTag keyName ++ Der.element Der.nullTag []

/-! ### Public keys -/

/-- The two numbers. -/
def PublicKey.numbers (key : PublicKey) : Bytes :=
  Der.sequence [Der.integer key.modulus, Der.integer key.exponent]

/-- The numbers behind the kind of key. -/
def PublicKey.toDer (key : PublicKey) : Bytes :=
  Der.sequence [Der.element Der.sequenceTag keyKind,
    Der.element Der.bitsTag (0x00 :: key.numbers)]

/-- The block of a public key. -/
def PublicKey.toPem (key : PublicKey) : String :=
  Pem.write "PUBLIC KEY" key.toDer

/-- Reads the two numbers. -/
def PublicKey.ofNumbers? (bytes : Bytes) : Option PublicKey :=
  match (Der.wholeSequence? bytes).bind (Der.naturals? 2) with
  | some [modulus, exponent] =>
    let key : PublicKey := ⟨modulus, exponent⟩
    if key.isAcceptable then some key else none
  | _ => none

/-- Reads the numbers behind the kind of key. -/
def PublicKey.ofDer? (bytes : Bytes) : Option PublicKey :=
  match (Der.wholeSequence? bytes).bind (Der.read? Der.sequenceTag) with
  | some (kind, rest) =>
    match Der.read? Der.bitsTag rest with
    | some (0 :: numbers, []) => if kind = keyKind then ofNumbers? numbers else none
    | _ => none
  | none => none

/-! ### Private keys -/

/-- The nine numbers, the first of which is the version. -/
def PrivateKey.toDer (key : PrivateKey) : Bytes :=
  Der.sequence ([0, key.publicKey.modulus, key.publicKey.exponent, key.secret, key.first,
    key.second, key.reduced key.first, key.reduced key.second, key.coefficient].map Der.integer)

/-- Whether the nine numbers are short enough to be written. -/
def PrivateKey.isWritable (key : PrivateKey) : Bool :=
  key.toDer.length < Der.maxLength

/-- The block of a private key. -/
def PrivateKey.toPem (key : PrivateKey) : String :=
  Pem.write "RSA PRIVATE KEY" key.toDer

/-- Reads the nine numbers. The last three have to be there but follow from the others. -/
def PrivateKey.ofDer? (bytes : Bytes) : Option PrivateKey :=
  match (Der.wholeSequence? bytes).bind (Der.naturals? 9) with
  | some [0, modulus, exponent, secret, first, second, _, _, _] =>
    PrivateKey.ofNumbers? ⟨modulus, exponent⟩ secret first second
  | _ => none

/-- Whether an element is a numbered field that holds exactly one element. -/
def isField (element : UInt8 × Bytes) : Bool :=
  match Der.readAny? element.2 with
  | some (_, _, rest) => rest.isEmpty && 0xa0 ≤ element.1 && element.1 < 0xc0
  | none => false

/-- Whether the elements behind a private key are well formed. First there may be some with number
0, the attributes. If the version says so, a bit string of whole bytes with number 1 follows, the
public key. The rest are fields. -/
def extrasFit (withPublic : Bool) (elements : List (UInt8 × Bytes)) : Bool :=
  match elements.dropWhile fun element => element.1 = 0x80 ∨ element.1 = 0xa0 with
  | (0x81, bits) :: fields => withPublic && bits.head? == some 0 && fields.all isField
  | (0xa1, _) :: _ => false
  | fields => !withPublic && fields.all isField

/-- Reads the numbers behind a version and the kind of key. -/
def PrivateKey.ofKindDer? (bytes : Bytes) : Option PrivateKey :=
  match (Der.wholeSequence? bytes).bind Der.readInteger? with
  | some (version, rest) =>
    match Der.read? Der.sequenceTag rest with
    | some (kind, rest) =>
      match Der.read? Der.bytesTag rest with
      | some (numbers, rest) =>
        match Der.elements? rest.length rest with
        | some extras =>
          if version ≤ 1 ∧ kind = keyKind ∧ extrasFit (version == 1) extras then ofDer? numbers
          else none
        | none => none
      | none => none
    | none => none
  | none => none

end SelfCert.Rsa
