import SelfCert.Number.Radix
import SelfCert.Codec.Hex
import SelfCert.Text.Classes

/-!
# Entities

The network byte in every address says what kind of entity owns it: the lowest bit tells groups from
single members and the highest bit marks the addresses of broadcasts.
-/

namespace SelfCert

/-- A kind of entity, by its network code. -/
structure Entity where
  code : UInt8
  deriving DecidableEq, Repr

namespace Entity

/-- A person. -/
def user : Entity := ⟨0x00⟩
/-- A group of persons. -/
def group : Entity := ⟨0x01⟩
/-- A server. -/
def station : Entity := ⟨0x02⟩
/-- A group of servers. -/
def provider : Entity := ⟨0x03⟩
/-- An automated account. -/
def bot : Entity := ⟨0x04⟩
/-- A group of automated accounts. -/
def contentProvider : Entity := ⟨0x05⟩
/-- An operator of a company. -/
def supervisor : Entity := ⟨0x06⟩
/-- A group of operators. -/
def company : Entity := ⟨0x07⟩
/-- A broadcast to any one member. -/
def any : Entity := ⟨0x80⟩
/-- A broadcast to all members. -/
def every : Entity := ⟨0x81⟩

/-- The kinds that have a name. -/
def named : List (Entity × String) :=
  [(user, "USER"), (group, "GROUP"), (station, "STATION"), (provider, "ISP"), (bot, "BOT"),
    (contentProvider, "ICP"), (supervisor, "SUPERVISOR"), (company, "COMPANY"), (any, "ANY"),
    (every, "EVERY")]

/-- Whether this is a single member. -/
def isUser (e : Entity) : Bool := e.code &&& 0x01 == 0x00

/-- Whether this is a group. -/
def isGroup (e : Entity) : Bool := e.code &&& 0x01 == 0x01

/-- Whether this is a broadcast. -/
def isBroadcast (e : Entity) : Bool := e.code &&& 0x80 == 0x80

/-- Whether the standard scheme derives addresses for this kind. -/
def isDerivable (e : Entity) : Bool := e.code ≤ company.code

/-- The name of a kind, if it has one. -/
def name? (e : Entity) : Option String :=
  (named.find? fun entry => entry.1 == e).map Prod.snd

/-- The name of a kind, or its code in hexadecimal. -/
def display (e : Entity) : String :=
  e.name?.getD ("0x" ++ Hex.encode [e.code])

/-- The code that digits of a base spell, after an optional plus sign, if it fits a byte. -/
def ofDigits? (base : Nat) (digits : List Char) : Option Entity :=
  let digits := match digits with
    | '+' :: rest => rest
    | _ => digits
  if digits.isEmpty then none
  else
    match digits.mapM fun c => (Hex.digit? c).filter (· < base) with
    | none => none
    | some ds =>
      let n := Radix.value base ds
      if n < 256 then some ⟨UInt8.ofNat n⟩ else none

/-- The kind a text names: a name in any case of letters, a decimal code, or a hexadecimal code
after `0x`. Blanks around it do not count. -/
def ofName? (text : String) : Option Entity :=
  let upper := (Text.trim text.toList).map Char.toUpper
  match named.find? fun entry => entry.2.toList == upper with
  | some entry => some entry.1
  | none =>
    match upper with
    | '0' :: 'X' :: digits => ofDigits? 16 digits
    | digits => ofDigits? 10 digits

end Entity

end SelfCert
