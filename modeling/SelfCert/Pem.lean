import SelfCert.Codec.Base64
import SelfCert.Text.Search

/-!
# Text blocks of bytes

A block begins and ends with a line that names what it holds; between them stands Base64 text in
lines of 64 characters. Reading wants full lines, except that the last one may be shorter, and
nothing else between the marks but at most one empty line at the end. A line may end with a line
feed, a carriage return or both.
-/

namespace SelfCert.Pem

/-- The opening mark of a block. -/
def opening (label : String) : String :=
  "-----BEGIN " ++ label ++ "-----"

/-- The closing mark of a block. -/
def closing (label : String) : String :=
  "-----END " ++ label ++ "-----"

/-- The length of a full line. -/
def lineLength : Nat := 64

/-- Text in full lines, each ended by a line feed. The first argument bounds their number. -/
def wrap : Nat → List Char → List Char
  | 0, _ => []
  | _ + 1, [] => []
  | count + 1, text => text.take lineLength ++ '\n' :: wrap count (text.drop lineLength)

/-- The block that holds given bytes. -/
def write (label : String) (bytes : Bytes) : String :=
  let text := Base64.digits bytes
  opening label ++ "\n" ++ String.ofList (wrap text.length text) ++ closing label ++ "\n"

/-- The text after the line end it begins with. -/
def afterLineEnd? : List Char → Option (List Char)
  | '\r' :: '\n' :: rest => some rest
  | '\n' :: rest => some rest
  | '\r' :: rest => some rest
  | _ => none

/-- The text before the line end it closes with. -/
def beforeLineEnd? (text : List Char) : Option (List Char) :=
  match text.reverse with
  | '\n' :: '\r' :: rest => some rest.reverse
  | '\n' :: rest => some rest.reverse
  | '\r' :: rest => some rest.reverse
  | _ => none

/-- The text without the line end it closes with, if there is one. -/
def trimLineEnd (text : List Char) : List Char :=
  (beforeLineEnd? text).getD text

/-- Joins lines. Each has full length and a line end; the last one may be shorter, and may do
without a line end. The last one may also be empty, but not behind a line that ends in padding. The
first argument bounds their number. -/
def unwrap? : Nat → List Char → Option (List Char)
  | 0, _ => none
  | count + 1, text =>
    let line := text.take lineLength
    if text.length ≤ lineLength then some (trimLineEnd text)
    else
      match afterLineEnd? (text.drop lineLength) with
      | none => none
      | some [] => some line
      | some rest =>
        match unwrap? count rest with
        | some [] => if line.getLast? = some '=' then none else some line
        | more => more.map (line ++ ·)

/-- What stands between the marks of the first block with a label. -/
def find? (label text : String) : Option (List Char) :=
  Text.between? (opening label).toList (closing label).toList text.toList

/-- The bytes that stand between the marks of a block. -/
def decode? (inner : List Char) : Option Bytes :=
  match (afterLineEnd? inner).bind beforeLineEnd? with
  | none => none
  | some [] => none
  | some body => (unwrap? (body.length + 1) body).bind Base64.ofDigits?

end SelfCert.Pem
