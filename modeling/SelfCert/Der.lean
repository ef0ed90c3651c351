import SelfCert.Bytes

/-!
# Distinguished encoding

The part of the distinguished encoding rules that keys and signatures need. An element is a tag, the
length of its content and the content; lengths and integers are written with as few bytes as
possible, and nothing else is read. Reading functions return the bytes behind the element.
-/

namespace SelfCert.Der

/-- The tag of an integer. -/
def integerTag : UInt8 := 0x02
/-- The tag of a bit string. -/
def bitsTag : UInt8 := 0x03
/-- The tag of a byte string. -/
def bytesTag : UInt8 := 0x04
/-- The tag of the null element. -/
def nullTag : UInt8 := 0x05
/-- The tag of an object identifier. -/
def nameTag : UInt8 := 0x06
/-- The tag of a sequence. -/
def sequenceTag : UInt8 := 0x30

/-- Lengths are below this: they are read from four bytes at most. -/
def maxLength : Nat := 2 ^ 32

/-! ### Writing -/

/-- A length: one byte below 128, else the number of its bytes and these. -/
def lengthBytes (n : Nat) : Bytes :=
  if n < 128 then [UInt8.ofNat n]
  else UInt8.ofNat (0x80 + Bytes.width n) :: Bytes.ofNatMinimal n

/-- An element. -/
def element (tag : UInt8) (content : Bytes) : Bytes :=
  tag :: lengthBytes content.length ++ content

/-- The content of a natural number: its bytes, behind a zero if the first one is above 127. -/
def integerContent (n : Nat) : Bytes :=
  match Bytes.ofNatMinimal n with
  | [] => [0]
  | first :: rest => if first < 0x80 then first :: rest else 0 :: first :: rest

/-- A natural number. -/
def integer (n : Nat) : Bytes :=
  element integerTag (integerContent n)

/-- A sequence of elements. -/
def sequence (elements : List Bytes) : Bytes :=
  element sequenceTag elements.flatten

/-! ### Reading -/

/-- Reads a length; a long form is refused where a shorter one would do. -/
def readLength? : Bytes → Option (Nat × Bytes)
  | [] => none
  | first :: rest =>
    if first < 0x80 then some (first.toNat, rest)
    else
      let count := first.toNat - 0x80
      if count = 0 ∨ 4 < count ∨ rest.length < count then none
      else
        let n := Bytes.toNat (rest.take count)
        if n < 128 ∨ Bytes.width n ≠ count then none else some (n, rest.drop count)

/-- The tags of universal elements: the simple types and strings, sequences and sets. -/
def universalTags : List UInt8 :=
  [0x01, 0x02, 0x03, 0x04, 0x05, 0x06, 0x09, 0x0a, 0x0c, 0x12, 0x13, 0x14, 0x15, 0x16, 0x17, 0x18,
    0x1a, 0x1e, 0x30, 0x31]

/-- Whether a byte is a tag: a universal one, or one of another class with a number below 31. -/
def isTag (tag : UInt8) : Bool :=
  universalTags.contains tag || (0x40 ≤ tag && tag % 0x20 != 0x1f)

/-- Reads an element of any kind: its tag and its content. -/
def readAny? : Bytes → Option (UInt8 × Bytes × Bytes)
  | [] => none
  | tag :: rest =>
    match readLength? rest with
    | none => none
    | some (n, rest) =>
      if isTag tag ∧ n ≤ rest.length then some (tag, rest.take n, rest.drop n) else none

/-- Reads a byte string as elements of any kind up to its end: their tags and contents. The first
argument bounds their number. -/
def elements? : Nat → Bytes → Option (List (UInt8 × Bytes))
  | _, [] => some []
  | 0, _ => none
  | count + 1, bytes =>
    match readAny? bytes with
    | some (tag, content, rest) => (elements? count rest).map ((tag, content) :: ·)
    | none => none

/-- Reads the content of an element with a given tag. -/
def read? (tag : UInt8) (bytes : Bytes) : Option (Bytes × Bytes) :=
  match readAny? bytes with
  | some (found, content, rest) => if found = tag then some (content, rest) else none
  | none => none

/-- The natural number of an integer content: not negative and without superfluous zeros. -/
def natural? : Bytes → Option Nat
  | [] => none
  | [b] => if b < 0x80 then some b.toNat else none
  | a :: b :: rest =>
    if 0x80 ≤ a then none
    else if a = 0 ∧ b < 0x80 then none
    else some (Bytes.toNat (a :: b :: rest))

/-- Reads a natural number. -/
def readInteger? (bytes : Bytes) : Option (Nat × Bytes) :=
  match read? integerTag bytes with
  | some (content, rest) => (natural? content).map (·, rest)
  | none => none

/-- Reads the whole of a byte string as one sequence and returns its content. -/
def wholeSequence? (bytes : Bytes) : Option Bytes :=
  match read? sequenceTag bytes with
  | some (content, []) => some content
  | _ => none

/-- Reads a byte string as natural numbers up to its end. -/
def naturals? : Nat → Bytes → Option (List Nat)
  | 0, [] => some []
  | 0, _ => none
  | count + 1, bytes =>
    match readInteger? bytes with
    | some (n, rest) => (naturals? count rest).map (n :: ·)
    | none => none

end SelfCert.Der
