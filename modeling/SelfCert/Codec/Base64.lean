import SelfCert.Bytes

/-!
# Base64 text

Three bytes are written as four digits of six bits in the standard alphabet; a last group of one or
two bytes is filled up with `=`. Reading accepts canonical text only: the padding has to be there
and the unused bits of the last digit have to be zero.
-/

namespace SelfCert.Base64

/-- The digits in increasing order. -/
def alphabet : List Char :=
  "ABCDEFGHIJKLMNOPQRSTUVWXYZabcdefghijklmnopqrstuvwxyz0123456789+/".toList

/-- The digit for a number below 64. -/
def digit (n : Nat) : Char :=
  alphabet.getD n 'A'

/-- The value of a digit. -/
def digit? (c : Char) : Option Nat :=
  alphabet.idxOf? c

/-- The Base64 text of a byte string. -/
def digits : Bytes → List Char
  | [] => []
  | [a] => [digit (a.toNat / 4), digit (a.toNat % 4 * 16), '=', '=']
  | [a, b] =>
    [digit (a.toNat / 4), digit (a.toNat % 4 * 16 + b.toNat / 16), digit (b.toNat % 16 * 4), '=']
  | a :: b :: c :: rest =>
    digit (a.toNat / 4) :: digit (a.toNat % 4 * 16 + b.toNat / 16) ::
      digit (b.toNat % 16 * 4 + c.toNat / 64) :: digit (c.toNat % 64) :: digits rest

/-- The byte of two digits and padding. -/
def lastByte? (a b : Char) : Option Bytes :=
  match digit? a, digit? b with
  | some x, some y => if y % 16 = 0 then some [UInt8.ofNat (x * 4 + y / 16)] else none
  | _, _ => none

/-- The two bytes of three digits and padding. -/
def lastBytes? (a b c : Char) : Option Bytes :=
  match digit? a, digit? b, digit? c with
  | some x, some y, some z =>
    if z % 4 = 0 then
      some [UInt8.ofNat (x * 4 + y / 16), UInt8.ofNat (y % 16 * 16 + z / 4)]
    else none
  | _, _, _ => none

/-- The three bytes of four digits. -/
def group? (a b c d : Char) : Option Bytes :=
  match digit? a, digit? b, digit? c, digit? d with
  | some x, some y, some z, some w =>
    some [UInt8.ofNat (x * 4 + y / 16), UInt8.ofNat (y % 16 * 16 + z / 4),
      UInt8.ofNat (z % 4 * 64 + w)]
  | _, _, _, _ => none

/-- The bytes that a Base64 text spells. -/
def ofDigits? : List Char → Option Bytes
  | [] => some []
  | [a, b, '=', '='] => lastByte? a b
  | [a, b, c, '='] => lastBytes? a b c
  | a :: b :: c :: d :: rest =>
    match group? a b c d, ofDigits? rest with
    | some bytes, some more => some (bytes ++ more)
    | _, _ => none
  | _ => none

/-- The Base64 text of a byte string. -/
def encode (bytes : Bytes) : String :=
  String.ofList (digits bytes)

/-- The bytes that a Base64 string spells. -/
def decode? (text : String) : Option Bytes :=
  ofDigits? text.toList

end SelfCert.Base64
