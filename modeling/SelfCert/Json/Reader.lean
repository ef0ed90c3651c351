import SelfCert.Codec.Hex
import SelfCert.Json.Basic

/-!
# Reading JSON

`Json.parse?` reads a text as one value with blanks around it. The grammar is the strict one:
control characters in strings, lone surrogates, superfluous zeros and trailing commas are refused.
Of several fields with one key the last stays. Arrays and objects may be nested `maxDepth` deep.

Each reading function returns its result together with the text that follows it.
-/

namespace SelfCert.Json

/-- How deep arrays and objects may be nested. -/
def maxDepth : Nat := 127

/-- The text after leading blanks. -/
def skipBlanks (text : List Char) : List Char :=
  text.dropWhile fun c => c == ' ' || c == '\n' || c == '\r' || c == '\t'

/-- The number that four hexadecimal digits spell. -/
def unit? (a b c d : Char) : Option Nat :=
  match Hex.digit? a, Hex.digit? b, Hex.digit? c, Hex.digit? d with
  | some w, some x, some y, some z => some (((w * 16 + x) * 16 + y) * 16 + z)
  | _, _, _, _ => none

/-- The character of an escape of one letter. -/
def unescape? (c : Char) : Option Char :=
  match c with
  | '"' => some '"'
  | '\\' => some '\\'
  | '/' => some '/'
  | 'b' => some '\x08'
  | 'f' => some '\x0c'
  | 'n' => some '\n'
  | 'r' => some '\r'
  | 't' => some '\t'
  | _ => none

/-- The character of two surrogates. -/
def ofSurrogates? (high low : Nat) : Option Char :=
  if 0xDC00 ≤ low ∧ low < 0xE000 then
    some (Char.ofNat (0x10000 + (high - 0xD800) * 0x400 + (low - 0xDC00)))
  else none

/-- Reads the rest of a string, after its opening quote. -/
def readString : List Char → Option (List Char × List Char)
  | [] => none
  | '"' :: rest => some ([], rest)
  | '\\' :: 'u' :: a :: b :: c :: d :: rest =>
    match unit? a b c d with
    | none => none
    | some unit =>
      if 0xD800 ≤ unit ∧ unit < 0xDC00 then
        match rest with
        | '\\' :: 'u' :: e :: f :: g :: h :: rest =>
          match (unit? e f g h).bind (ofSurrogates? unit), readString rest with
          | some char, some (chars, rest) => some (char :: chars, rest)
          | _, _ => none
        | _ => none
      else if 0xDC00 ≤ unit ∧ unit < 0xE000 then none
      else
        match readString rest with
        | some (chars, rest) => some (Char.ofNat unit :: chars, rest)
        | none => none
  | '\\' :: c :: rest =>
    match unescape? c, readString rest with
    | some char, some (chars, rest) => some (char :: chars, rest)
    | _, _ => none
  | c :: rest =>
    if c = '\\' ∨ c.toNat < 0x20 then none
    else
      match readString rest with
      | some (chars, rest) => some (c :: chars, rest)
      | none => none

/-- The decimal digits a text begins with. -/
def readDigits : List Char → List Nat × List Char
  | [] => ([], [])
  | c :: rest =>
    match Radix.decimalDigit? c with
    | some d => let (ds, rest) := readDigits rest; (d :: ds, rest)
    | none => ([], c :: rest)

/-- Reads the digits in front of the point: one zero, or digits that do not begin with zero. -/
def readWhole (text : List Char) : Option (List Nat × List Char) :=
  match readDigits text with
  | ([], _) => none
  | (0 :: _ :: _, _) => none
  | found => some found

/-- Reads a point with at least one digit behind it, if there is a point. -/
def readFraction : List Char → Option (Option (List Nat) × List Char)
  | '.' :: rest =>
    match readDigits rest with
    | ([], _) => none
    | (ds, rest) => some (some ds, rest)
  | text => some (none, text)

/-- Reads the sign and the digits of an exponent. -/
def readSigned (text : List Char) : Option (Int × List Char) :=
  let (negative, text) := match text with
    | '-' :: rest => (true, rest)
    | '+' :: rest => (false, rest)
    | text => (false, text)
  match readDigits text with
  | ([], _) => none
  | (ds, rest) =>
    let n : Int := Radix.value 10 ds
    some (if negative then -n else n, rest)

/-- Reads an exponent, if there is one. -/
def readExponent : List Char → Option (Option Int × List Char)
  | 'e' :: rest | 'E' :: rest => (readSigned rest).map fun (n, rest) => (some n, rest)
  | text => some (none, text)

/-- Appends digits to a significand of 64 bits. From the first digit on that does not fit, they are
only counted. -/
def appendDigits (m : Nat) : List Nat → Nat × Nat
  | [] => (m, 0)
  | d :: ds => if m * 10 + d < 2 ^ 64 then appendDigits (m * 10 + d) ds else (m, ds.length + 1)

/-- The number for its parts: an integer that fits, unless it is minus zero, and otherwise the
floating-point number for a significand and a power of ten, if it is finite. -/
def number? (negative : Bool) (whole : List Nat) (fraction : Option (List Nat))
    (exponent : Option Int) : Option Number :=
  let float (m : Nat) (e : Int) : Option Number := (Binary64.ofDecimal? negative m e).map .float
  let front := appendDigits 0 whole
  match fraction, exponent with
  | none, none =>
    let n := Radix.value 10 whole
    if negative ∧ n = 0 then float 0 0
    else
      match Integer.ofInt? (if negative then -(n : Int) else n) with
      | some i => some (.integer i)
      | none => float front.1 front.2
  | _, _ =>
    let behind := fraction.getD []
    let all := appendDigits front.1 behind
    -- Digits behind the point that are only counted do not move it. Exponents are not bounded here:
    -- the numbers end long before 32 bits do.
    float all.1 (front.2 - (behind.length - all.2 : Nat) + exponent.getD 0)

/-- Reads a number. -/
def readNumber (text : List Char) : Option (Number × List Char) :=
  let (negative, text) := match text with
    | '-' :: rest => (true, rest)
    | text => (false, text)
  match readWhole text with
  | none => none
  | some (whole, rest) =>
    match readFraction rest with
    | none => none
    | some (fraction, rest) =>
      match readExponent rest with
      | none => none
      | some (exponent, rest) => (number? negative whole fraction exponent).map (·, rest)

mutual

/-- Reads a value. The first argument bounds the number of steps and the second one the levels that
may still be entered. -/
def readValue : Nat → Nat → List Char → Option (Json × List Char)
  | 0, _, _ => none
  | steps + 1, depth, text =>
    match skipBlanks text with
    | 'n' :: 'u' :: 'l' :: 'l' :: rest => some (.null, rest)
    | 't' :: 'r' :: 'u' :: 'e' :: rest => some (.bool true, rest)
    | 'f' :: 'a' :: 'l' :: 's' :: 'e' :: rest => some (.bool false, rest)
    | '"' :: rest => (readString rest).map fun (s, rest) => (.string (String.ofList s), rest)
    | '[' :: rest =>
      match depth with
      | 0 => none
      | depth + 1 =>
        match skipBlanks rest with
        | ']' :: rest => some (.array [], rest)
        | rest => (readItems steps depth rest).map fun (items, rest) => (.array items, rest)
    | '{' :: rest =>
      match depth with
      | 0 => none
      | depth + 1 =>
        match skipBlanks rest with
        | '}' :: rest => some (.object [], rest)
        | rest =>
          (readFields steps depth rest).map fun (fields, rest) =>
            (.object (Table.ofList fields), rest)
    | text => (readNumber text).map fun (n, rest) => (.number n, rest)

/-- Reads items up to the closing bracket; there is at least one. -/
def readItems : Nat → Nat → List Char → Option (List Json × List Char)
  | 0, _, _ => none
  | steps + 1, depth, text =>
    match readValue steps depth text with
    | none => none
    | some (item, rest) =>
      match skipBlanks rest with
      | ']' :: rest => some ([item], rest)
      | ',' :: rest => (readItems steps depth rest).map fun (items, rest) => (item :: items, rest)
      | _ => none

/-- Reads fields up to the closing brace; there is at least one. -/
def readFields : Nat → Nat → List Char → Option (List (String × Json) × List Char)
  | 0, _, _ => none
  | steps + 1, depth, text =>
    match skipBlanks text with
    | '"' :: rest =>
      match readString rest with
      | none => none
      | some (key, rest) =>
        match skipBlanks rest with
        | ':' :: rest =>
          match readValue steps depth rest with
          | none => none
          | some (value, rest) =>
            let field := (String.ofList key, value)
            match skipBlanks rest with
            | '}' :: rest => some ([field], rest)
            | ',' :: rest =>
              (readFields steps depth rest).map fun (fields, rest) => (field :: fields, rest)
            | _ => none
        | _ => none
    | _ => none

end

/-- Reads a whole text as one value. Every step takes at least one character, so the length of the
text bounds the steps. -/
def parseList? (text : List Char) : Option Json :=
  match readValue (2 * text.length + 1) maxDepth text with
  | some (value, rest) => if (skipBlanks rest).isEmpty then some value else none
  | none => none

/-- Reads a whole string as one value. -/
def parse? (text : String) : Option Json :=
  parseList? text.toList

/-- Reads a whole string as one object. -/
def parseObject? (text : String) : Option Object :=
  (parse? text).bind asObject?

/-! ### Maps inside strings -/

/-- A text must be longer than this, in bytes, to be taken for a map. -/
def minEmbeddedSize : Nat := 8

/-- The map whose JSON text a string holds from its first to its last character. -/
def embedded? (text : String) : Option Object :=
  if minEmbeddedSize < text.utf8ByteSize ∧ text.toList.head? = some '\x7b' ∧
      text.toList.getLast? = some '\x7d' then
    parseObject? text
  else none

/-- The fields of a map, given as an object or inside a string. -/
def mapOf? : Json → Option Object
  | .object fields => some fields
  | .string text => embedded? text
  | _ => none

end SelfCert.Json
