import SelfCert.Address
import SelfCert.Text.Search

/-!
# Identifiers

An identifier is an address with an optional name in front of it and an optional terminal behind it,
written `name@address/terminal`. Name and terminal are not empty and hold neither of the two marks,
so that the text of an identifier determines its parts.
-/

namespace SelfCert

/-- The parts of an identifier beside the address. -/
inductive IdentifierPart where
  | name
  | terminal
  deriving DecidableEq, Repr

/-- The word for a part. -/
def IdentifierPart.word : IdentifierPart → String
  | name => "name"
  | terminal => "terminal"

/-- Why a text or some parts are no identifier. -/
inductive IdentifierError where
  /-- The text is empty. -/
  | emptyText
  /-- The text has no address. -/
  | noAddress (text : String)
  /-- A part is there but empty. -/
  | emptyPart (part : IdentifierPart)
  /-- A part holds one of the marks. -/
  | reservedMark (part : IdentifierPart) (text : String)
  /-- The address is refused. -/
  | address (error : AddressError)
  /-- Nobody is registered for identifiers. -/
  | nobodyRegistered
  deriving DecidableEq, Repr

/-- The text of an error. -/
def IdentifierError.message : IdentifierError → String
  | emptyText => "malformed identifier: empty identifier"
  | noAddress text => "malformed identifier: no address in " ++ text
  | emptyPart part => "malformed identifier: empty " ++ part.word
  | reservedMark part text =>
    "malformed identifier: " ++ part.word ++ " contains '@' or '/': " ++ text
  | address error => "invalid address in identifier: " ++ error.message
  | nobodyRegistered => "malformed identifier: no identifier factory"

/-- Whether a text holds none of the marks. -/
def isUnmarked (text : String) : Bool :=
  text.toList.all fun c => c != '@' && c != '/'

/-- Whether a text can be a name or a terminal. -/
def isPartText (text : String) : Bool :=
  !text.isEmpty && isUnmarked text

/-- An identifier. -/
structure Identifier where
  name : Option String
  address : Address
  terminal : Option String
  name_isPart : ∀ text ∈ name, isPartText text
  terminal_isPart : ∀ text ∈ terminal, isPartText text
  deriving DecidableEq

namespace Identifier

/-- The text of a name, an address and a terminal. -/
def textOf (name : Option String) (address : String) (terminal : Option String) : String :=
  (match name with
    | some name => name ++ "@" ++ address
    | none => address) ++
  (match terminal with
    | some terminal => "/" ++ terminal
    | none => "")

/-- The text of an identifier. -/
def text (id : Identifier) : String :=
  textOf id.name id.address.text id.terminal

/-- The network of the address. -/
def network (id : Identifier) : Entity := id.address.network

/-- What is wrong with a part, if anything. -/
def checkPart (part : IdentifierPart) (text : Option String) : Option IdentifierError :=
  match text with
  | none => none
  | some text =>
    if text.isEmpty then some (.emptyPart part)
    else if isUnmarked text then none
    else some (.reservedMark part text)

theorem isPartText_of_checkPart {part : IdentifierPart} {text : Option String}
    (h : checkPart part text = none) : ∀ t ∈ text, isPartText t := by
  intro t ht
  obtain rfl : text = some t := ht
  by_cases empty : t.isEmpty
  · simp [checkPart, empty] at h
  · by_cases unmarked : isUnmarked t
    · simp [isPartText, empty, unmarked]
    · simp [checkPart, empty, unmarked] at h

/-- The identifier of given parts. -/
def new (name : Option String) (address : Address) (terminal : Option String) :
    Except IdentifierError Identifier :=
  match hName : checkPart .name name with
  | some error => .error error
  | none =>
    match hTerminal : checkPart .terminal terminal with
    | some error => .error error
    | none =>
      .ok ⟨name, address, terminal, isPartText_of_checkPart hName,
        isPartText_of_checkPart hTerminal⟩

/-- The texts of the parts of an identifier. -/
structure Split where
  name : Option String
  address : String
  terminal : Option String
  deriving DecidableEq, Repr

/-- Cuts a text into parts: the terminal is behind the first slash and the name in front of the
first at-sign before that. -/
def split (text : String) : Except IdentifierError Split :=
  if text.isEmpty then .error .emptyText
  else
    let (front, terminal) :=
      match Text.cutAt? '/' text.toList with
      | some (front, terminal) => (front, some (String.ofList terminal))
      | none => (text.toList, none)
    let (name, address) :=
      match Text.cutAt? '@' front with
      | some (name, address) => (some (String.ofList name), address)
      | none => (none, front)
    if address.isEmpty then .error (.noAddress text)
    else .ok ⟨name, String.ofList address, terminal⟩

/-- The address of the parts of an identifier. -/
def parseAddress (text : String) : Except IdentifierError Address :=
  (Address.parse text).mapError .address

/-- Reads an identifier. -/
def parse (text : String) : Except IdentifierError Identifier := do
  let parts ← split text
  let address ← parseAddress parts.address
  new parts.name address parts.terminal

/-- The identifier without its terminal. -/
def withoutTerminal (id : Identifier) : Identifier where
  name := id.name
  address := id.address
  terminal := none
  name_isPart := id.name_isPart
  terminal_isPart := by simp

/-- The identifier with a given name and no terminal. -/
def named (name : String) (h : isPartText name) (address : Address) : Identifier where
  name := some name
  address := address
  terminal := none
  name_isPart := by simp [h]
  terminal_isPart := by simp

/-- Any one member. -/
def anyone : Identifier := named "anyone" (by decide) .anywhere

/-- All members. -/
def everyone : Identifier := named "everyone" (by decide) .everywhere

/-- Whoever founded the network. -/
def founder : Identifier := named "moky" (by decide) .anywhere

end Identifier

end SelfCert
