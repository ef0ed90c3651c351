import SelfCert.Number.Radix
import SelfCert.Codec.Hex
import SelfCert.Text.Classes

/-!
# Quoted text

How descriptions show strings: in quotes, with the quote, the backslash and some controls escaped by
a letter, and every other character that would not be seen escaped by its code point.
-/

namespace SelfCert.Text

/-- The hexadecimal numeral of a number; zero is written `0`. -/
def hexadecimal (n : Nat) : List Char :=
  if n = 0 then ['0'] else (Radix.digits 16 n).map Hex.digit

/-- A character as it stands between quotes. -/
def shown (c : Char) : List Char :=
  if c = '"' then ['\\', '"']
  else if c = '\\' then ['\\', '\\']
  else if c = '\n' then ['\\', 'n']
  else if c = '\r' then ['\\', 'r']
  else if c = '\t' then ['\\', 't']
  else if c = '\x00' then ['\\', '0']
  else if isExtender c || isUnprintable c then
    ['\\', 'u', '\x7b'] ++ hexadecimal c.toNat ++ ['\x7d']
  else [c]

/-- A string in quotes. -/
def quoted (s : String) : String :=
  String.ofList ('"' :: s.toList.flatMap shown ++ ['"'])

/-- Strings in quotes with commas between them, in brackets. -/
def quotedList (items : List String) : String :=
  "[" ++ String.intercalate ", " (items.map quoted) ++ "]"

end SelfCert.Text
