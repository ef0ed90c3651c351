import SelfCert.Bytes
import SelfCert.Number.Radix

/-!
# Base58 text

A byte string is read as a big-endian number and written in base 58 without `0`, `I`, `O` and `l`.
Leading zero bytes, which the number does not show, are written as one `1` each.
-/

namespace SelfCert.Base58

/-- The digits in increasing order. -/
def alphabet : List Char :=
  "123456789ABCDEFGHJKLMNPQRSTUVWXYZabcdefghijkmnopqrstuvwxyz".toList

/-- The digit for a number below 58. -/
def digit (n : Nat) : Char :=
  alphabet.getD n '1'

/-- The value of a digit. -/
def digit? (c : Char) : Option Nat :=
  alphabet.idxOf? c

/-- The Base58 text of a byte string. -/
def digits (bytes : Bytes) : List Char :=
  List.replicate (bytes.takeWhile (· == 0)).length '1' ++
    (Radix.digits 58 bytes.toNat).map digit

/-- The bytes that a Base58 text spells. -/
def ofDigits? (text : List Char) : Option Bytes :=
  (text.mapM digit?).map fun values =>
    List.replicate (values.takeWhile (· == 0)).length 0 ++
      Bytes.ofNatMinimal (Radix.value 58 values)

/-- The Base58 text of a byte string. -/
def encode (bytes : Bytes) : String :=
  String.ofList (digits bytes)

/-- The bytes that a Base58 string spells. -/
def decode? (text : String) : Option Bytes :=
  ofDigits? text.toList

end SelfCert.Base58
