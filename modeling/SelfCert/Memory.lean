import SelfCert.Meta

/-!
# Memory of addresses and identifiers

Reading texts and deriving addresses is remembered. A memory keeps identifiers by their texts,
addresses that were read by their texts, and addresses that were derived by the meta and the
network. What it answers is what would be computed without it; only what failed is not kept.

A memory can be thinned out: of each part, every second entry in the order of a walk goes.
-/

namespace SelfCert

/-- What a derived address is kept under. -/
structure Derivation where
  identity : Meta.Identity
  network : Entity
  deriving DecidableEq

/-- What was read and derived before. -/
structure Memory where
  identifiers : Table Identifier
  derived : List (Derivation × Address)
  parsed : Table Address

/-- Orders in which the entries of a part of the memory are walked through. -/
structure Walk where
  /-- The places of `n` entries in the order of the walk. -/
  order : Nat → List Nat
  isPerm : ∀ n, (order n).Perm (List.range n)

/-- The walk from front to back. -/
def Walk.forward : Walk := ⟨List.range, fun _ => .refl _⟩

/-- The second, the fourth, … item of a list. -/
def everySecond {α : Type} : List α → List α
  | [] => []
  | [_] => []
  | _ :: b :: rest => b :: everySecond rest

/-- The entries that a walk leaves: the second one it comes to, the fourth one, and so on. -/
def Walk.thin {α : Type} (walk : Walk) (entries : List α) : List α :=
  let kept := everySecond (walk.order entries.length)
  (entries.zipIdx.filter fun entry => kept.contains entry.2).map Prod.fst

/-- One walk for each part of the memory. -/
structure Walks where
  identifiers : Walk
  derived : Walk
  parsed : Walk

/-- The walks from front to back. -/
def Walks.forward : Walks := ⟨.forward, .forward, .forward⟩

namespace Memory

/-- Nothing is remembered. -/
def empty : Memory := ⟨[], [], []⟩

/-! ### Addresses -/

/-- What a derived address of a meta is kept under. -/
def derivation (m : Meta) (network : Entity) : Derivation := ⟨m.identity, network⟩

/-- The address that was derived before. -/
def derived? (memory : Memory) (key : Derivation) : Option Address :=
  (memory.derived.find? fun entry => entry.1 == key).map Prod.snd

/-- The address of a meta in a network. -/
def deriveAddress (m : Meta) (network : Entity) (memory : Memory) :
    Except AddressError Address × Memory :=
  let key := derivation m network
  match memory.derived? key with
  | some address => (.ok address, memory)
  | none =>
    match m.address network with
    | .ok address => (.ok address, { memory with derived := (key, address) :: memory.derived })
    | .error error => (.error error, memory)

/-- Reads an address. -/
def parseAddress (text : String) (memory : Memory) : Except AddressError Address × Memory :=
  match Table.get? text memory.parsed with
  | some address => (.ok address, memory)
  | none =>
    match Address.parse text with
    | .ok address =>
      (.ok address, { memory with parsed := Table.insert text address memory.parsed })
    | .error error => (.error error, memory)

/-! ### Identifiers -/

/-- Keeps an identifier under a text. -/
def remember (text : String) (id : Identifier) (memory : Memory) : Memory :=
  { memory with identifiers := Table.insert text id memory.identifiers }

/-- The identifier of given parts. -/
def createIdentifier (name : Option String) (address : Address) (terminal : Option String)
    (memory : Memory) : Except IdentifierError Identifier × Memory :=
  match Identifier.new name address terminal with
  | .error error => (.error error, memory)
  | .ok id =>
    match Table.get? id.text memory.identifiers with
    | some known => (.ok known, memory)
    | none => (.ok id, memory.remember id.text id)

/-- The identifier of a meta in a network; the seed is the name. -/
def deriveIdentifier (m : Meta) (network : Entity) (terminal : Option String) (memory : Memory) :
    Except IdentifierError Identifier × Memory :=
  match memory.deriveAddress m network with
  | (.error error, memory) => (.error (.address error), memory)
  | (.ok address, memory) => memory.createIdentifier m.seed address terminal

/-- Reads an identifier. It is kept under its own text and, where that differs, also under the text
it was read from. -/
def parseIdentifier (text : String) (memory : Memory) :
    Except IdentifierError Identifier × Memory :=
  match Table.get? text memory.identifiers with
  | some known => (.ok known, memory)
  | none =>
    match Identifier.split text with
    | .error error => (.error error, memory)
    | .ok parts =>
      match memory.parseAddress parts.address with
      | (.error error, memory) => (.error (.address error), memory)
      | (.ok address, memory) =>
        match Identifier.new parts.name address parts.terminal with
        | .error error => (.error error, memory)
        | .ok id => (.ok id, (memory.remember text id).remember id.text id)

/-! ### Size -/

/-- The number of addresses that are remembered. -/
def addressCount (memory : Memory) : Nat :=
  memory.derived.length + memory.parsed.length

/-- The number of all entries. -/
def size (memory : Memory) : Nat :=
  memory.identifiers.length + memory.addressCount

/-- A description of the part with identifiers. -/
def describe (memory : Memory) : String :=
  "IdentifierFactory \x7b cached: " ++ Radix.decimalString memory.identifiers.length ++ " \x7d"

/-- Forgets the addresses. -/
def forgetAddresses (memory : Memory) : Memory :=
  { memory with derived := [], parsed := [] }

/-- What is left of a memory after it was thinned out. -/
def thin (walks : Walks) (memory : Memory) : Memory where
  identifiers := walks.identifiers.thin memory.identifiers
  derived := walks.derived.thin memory.derived
  parsed := walks.parsed.thin memory.parsed

/-- Thins out a memory and counts what goes. -/
def reduce (walks : Walks) (memory : Memory) : Nat × Memory :=
  let rest := memory.thin walks
  (memory.size - rest.size, rest)

end Memory

end SelfCert
