import SelfCert.Bytes
import SelfCert.Json.Basic
import SelfCert.Text.Search

/-!
# Data URIs

A text that carries encoded bytes along with the name of the encoding and, if known, their MIME
type: `data:image/png;base64,iVBORw0K` with a type and `hex,6d6f6b79` without one. The first comma
ends the head and the first semicolon in the head ends the type.
-/

namespace SelfCert

/-- The parts of a data URI; the body is the encoded text. -/
structure DataUri where
  mimeType : Option String
  algorithm : String
  body : String
  deriving DecidableEq, Repr

namespace DataUri

/-- What a data URI with a type starts with. -/
def scheme : String := "data:"

/-- The greatest size of the name of an encoding that stands at the start of a text. -/
def maxBareName : Nat := 8

/-- The text of a data URI. -/
def toString (uri : DataUri) : String :=
  match uri.mimeType with
  | some mime => scheme ++ mime ++ ";" ++ uri.algorithm ++ "," ++ uri.body
  | none => uri.algorithm ++ "," ++ uri.body

/-- The head and the body of a text. Without the scheme in front the head has to be short. -/
def split? (text : List Char) : Option (List Char × List Char) :=
  match Text.afterStart? scheme.toList text with
  | some rest => Text.cutAt? ',' rest
  | none => (Text.cutAt? ',' text).filter fun (head, _) => Utf8.size head ≤ maxBareName

/-- Reads a data URI. A type, where there is one, is not empty. -/
def parse? (text : String) : Option DataUri :=
  match split? text.toList with
  | none => none
  | some (head, body) =>
    match Text.cutAt? ';' head with
    | some ([], _) => none
    | some (mime, algorithm) =>
      some ⟨some (String.ofList mime), String.ofList algorithm, String.ofList body⟩
    | none => some ⟨none, String.ofList head, String.ofList body⟩

/-- The map of a data URI. -/
def toMap (uri : DataUri) : Json.Object :=
  let fields := Table.ofList [("algorithm", Json.string uri.algorithm), ("data", .string uri.body)]
  match uri.mimeType with
  | some mime => Table.insert "mime-type" (.string mime) fields
  | none => fields

/-- What is left when a part is taken off a number, unless the part is greater. -/
def takeOff? (part n : Nat) : Option Nat :=
  if part ≤ n then some (n - part) else none

/-- The number of fields of a map beside its data, its type, its name and its encoding. It is found
by counting down from the size of the map in unsigned numbers, and there is none if a step goes
below zero. The data and the type are taken off whether they are there or not. -/
def extraFields? (map : Json.Object) : Option Nat := do
  let count ← takeOff? 2 map.length
  let count ← takeOff? (if Table.contains "filename" map then 1 else 0) count
  takeOff? (if Table.contains "algorithm" map then 1 else 0) count

/-- The text for a map of data and type, which may also have an encoding and a name, but nothing
else. The name is lost. -/
def build? (map : Json.Object) : Option String :=
  match map.string? "data", map.string? "mime-type" with
  | some data, some mime =>
    let algorithm? :=
      match Table.get? "algorithm" map with
      | some value => value.asString?
      | none => some "base64"
    if extraFields? map = some 0 then
      algorithm?.map fun algorithm => toString ⟨some mime, algorithm, data⟩
    else none
  | _, _ => none

end DataUri

end SelfCert
