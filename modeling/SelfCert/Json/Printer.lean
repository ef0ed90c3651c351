import SelfCert.Codec.Hex
import SelfCert.Json.Basic

/-!
# Writing JSON

The compact form has no blanks. In strings the quote, the backslash and the characters below U+0020
are escaped and every other character stands for itself; object keys come in the order of the
table.
-/

namespace SelfCert.Json

/-- Floating-point numbers are written without an exponent from `10 ^ (-5)` up to below
`10 ^ 16`. -/
def layout : Binary64.Layout := ⟨-5, 15⟩

/-- A character as it stands between the quotes of a string. -/
def escape (c : Char) : List Char :=
  if c = '"' then ['\\', '"']
  else if c = '\\' then ['\\', '\\']
  else if c = '\x08' then ['\\', 'b']
  else if c = '\x0c' then ['\\', 'f']
  else if c = '\n' then ['\\', 'n']
  else if c = '\r' then ['\\', 'r']
  else if c = '\t' then ['\\', 't']
  else if c.toNat < 0x20 then
    ['\\', 'u', '0', '0', Hex.digit (c.toNat / 16), Hex.digit (c.toNat % 16)]
  else [c]

/-- A string in quotes. -/
def quoted (s : String) : List Char :=
  '"' :: s.toList.flatMap escape ++ ['"']

/-- The text of an integer. -/
def integerText (n : Int) : List Char :=
  if n < 0 then '-' :: Radix.decimal n.natAbs else Radix.decimal n.natAbs

/-- The text of a number. -/
def Number.text : Number → List Char
  | .integer n => integerText n.value
  | .float x => x.render layout

/-- The text of a number as a string. -/
def Number.toString (n : Number) : String :=
  String.ofList n.text

/-- The tag that a value stands for: a text that is not empty, or a number by its text. -/
def tag? : Json → Option String
  | .string text => if text.isEmpty then none else some text
  | .number n => some n.toString
  | _ => none

mutual

/-- The compact text of a value. -/
def text : Json → List Char
  | .null => ['n', 'u', 'l', 'l']
  | .bool true => ['t', 'r', 'u', 'e']
  | .bool false => ['f', 'a', 'l', 's', 'e']
  | .number n => n.text
  | .string s => quoted s
  | .array items => '[' :: itemsText items ++ [']']
  | .object fields => '{' :: fieldsText fields ++ ['}']

/-- Items with commas between them. -/
def itemsText : List Json → List Char
  | [] => []
  | [x] => text x
  | x :: y :: rest => text x ++ ',' :: itemsText (y :: rest)

/-- Fields with commas between them. -/
def fieldsText : List (String × Json) → List Char
  | [] => []
  | [(key, x)] => quoted key ++ ':' :: text x
  | (key, x) :: y :: rest => quoted key ++ ':' :: text x ++ ',' :: fieldsText (y :: rest)

end

/-- The compact text of a value as a string. -/
def compact (value : Json) : String :=
  String.ofList value.text

/-- A new line with `depth` steps of two blanks. -/
def newLine (depth : Nat) : List Char :=
  '\n' :: List.replicate (2 * depth) ' '

mutual

/-- The text of a value over several lines, two blanks for each level. -/
def indented (depth : Nat) : Json → List Char
  | .array [] => ['[', ']']
  | .array items => '[' :: indentedItems (depth + 1) items ++ newLine depth ++ [']']
  | .object [] => ['{', '}']
  | .object fields => '{' :: indentedFields (depth + 1) fields ++ newLine depth ++ ['}']
  | value => text value

/-- Items on lines of their own. -/
def indentedItems (depth : Nat) : List Json → List Char
  | [] => []
  | [x] => newLine depth ++ indented depth x
  | x :: y :: rest => newLine depth ++ indented depth x ++ ',' :: indentedItems depth (y :: rest)

/-- Fields on lines of their own. -/
def indentedFields (depth : Nat) : List (String × Json) → List Char
  | [] => []
  | [(key, x)] => newLine depth ++ quoted key ++ ':' :: ' ' :: indented depth x
  | (key, x) :: y :: rest =>
    newLine depth ++ quoted key ++ ':' :: ' ' :: indented depth x ++
      ',' :: indentedFields depth (y :: rest)

end

/-- The text of a value over several lines as a string. -/
def pretty (value : Json) : String :=
  String.ofList (indented 0 value)

end SelfCert.Json
