import SelfCert.Number.Binary64
import SelfCert.Table

/-!
# JSON values

A number is an integer of 64 bits, signed or unsigned, or a floating-point number; an object is a
table, so its keys are in order and each stands once.
-/

namespace SelfCert

namespace Json

/-- An integer that fits 64 bits, signed or unsigned. -/
structure Integer where
  value : Int
  lower : -2 ^ 63 ≤ value
  upper : value < 2 ^ 64
  deriving DecidableEq

/-- The integer with a given value, if it fits. -/
def Integer.ofInt? (value : Int) : Option Integer :=
  if h : -2 ^ 63 ≤ value ∧ value < 2 ^ 64 then some ⟨value, h.1, h.2⟩ else none

/-- A JSON number. -/
inductive Number where
  | integer (n : Integer)
  | float (x : Binary64)
  deriving DecidableEq

/-- Integers are equal by value and floating-point numbers as numbers; the two kinds differ. -/
def Number.same : Number → Number → Bool
  | .integer m, .integer n => m == n
  | .float x, .float y => x.same y
  | _, _ => false

@[simp] theorem Number.same_self (n : Number) : n.same n = true := by
  cases n <;> simp [same]

end Json

/-- A JSON value. -/
inductive Json where
  | null
  | bool (b : Bool)
  | number (n : Json.Number)
  | string (s : String)
  | array (items : List Json)
  | object (fields : List (String × Json))

namespace Json

/-- The fields of an object. -/
abbrev Object := Table Json

mutual

/-- Whether two values are equal. -/
def same : Json → Json → Bool
  | .null, .null => true
  | .bool a, .bool b => a == b
  | .number m, .number n => m.same n
  | .string s, .string t => s == t
  | .array xs, .array ys => sameItems xs ys
  | .object xs, .object ys => sameFields xs ys
  | _, _ => false

/-- Whether two arrays have equal items in the same order. -/
def sameItems : List Json → List Json → Bool
  | [], [] => true
  | x :: xs, y :: ys => same x y && sameItems xs ys
  | _, _ => false

/-- Whether two objects have equal fields. -/
def sameFields : List (String × Json) → List (String × Json) → Bool
  | [], [] => true
  | (key, x) :: xs, (key', y) :: ys => key == key' && same x y && sameFields xs ys
  | _, _ => false

end

mutual

/-- Each value equals itself. -/
@[simp] theorem same_self (value : Json) : value.same value = true := by
  cases value with
  | null => simp [same]
  | bool => simp [same]
  | number => simp [same]
  | string => simp [same]
  | array items => rw [same, sameItems_self]
  | object fields => rw [same, sameFields_self]

/-- Each list of items equals itself. -/
@[simp] theorem sameItems_self (items : List Json) : sameItems items items = true := by
  cases items with
  | nil => rw [sameItems]
  | cons item rest => rw [sameItems, same_self, sameItems_self, Bool.and_self]

/-- Each list of fields equals itself. -/
@[simp] theorem sameFields_self (fields : List (String × Json)) :
    sameFields fields fields = true := by
  match fields with
  | [] => rw [sameFields]
  | (key, value) :: rest =>
    rw [sameFields, beq_self_eq_true, same_self, sameFields_self, Bool.and_self, Bool.and_self]

end

instance : BEq Json := ⟨same⟩

instance : Inhabited Json := ⟨.null⟩

/-- The text of a string value. -/
def asString? : Json → Option String
  | .string s => some s
  | _ => none

/-- The fields of an object value. -/
def asObject? : Json → Option Object
  | .object fields => some fields
  | _ => none

/-- The items of an array value. -/
def asArray? : Json → Option (List Json)
  | .array items => some items
  | _ => none

/-- A string, or `null` where there is none. -/
def ofString? : Option String → Json
  | some s => .string s
  | none => .null

/-- A natural number below `2 ^ 64`; a larger one is written as `null`, and none is met. -/
def ofNat (n : Nat) : Json :=
  match Integer.ofInt? n with
  | some i => .number (.integer i)
  | none => .null

/-- An object of given fields. -/
def ofFields (fields : List (String × Json)) : Json :=
  .object (Table.ofList fields)

/-- The string under a key of an object. -/
def Object.string? (fields : Object) (key : String) : Option String :=
  (Table.get? key fields).bind asString?

/-- What stands under a key of an object, `null` counting as nothing. -/
def Object.present? (fields : Object) (key : String) : Option Json :=
  match Table.get? key fields with
  | some .null => none
  | found => found

end Json

end SelfCert
