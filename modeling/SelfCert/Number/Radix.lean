/-!
# Digits of a number

`Radix.digits base n` lists the digits of `n`, most significant first and without leading zeros;
zero has no digits. `Radix.value base` reads digits back.

The power of a natural number or of an integer is the core library's own, also in a module that
knows a second one.
-/

attribute [default_instance 20000, instance (20000)] instPowNat

namespace SelfCert.Radix

/-- Puts the digits of `n` in front of `tail`. The first argument bounds their number. -/
def digitsOnto (base : Nat) : Nat → Nat → List Nat → List Nat
  | 0, _, tail => tail
  | _ + 1, 0, tail => tail
  | count + 1, n + 1, tail => digitsOnto base count ((n + 1) / base) ((n + 1) % base :: tail)

/-- The digits of `n`, most significant first; none for zero. A base is at least two, so the binary
length of `n` bounds their number. -/
def digits (base n : Nat) : List Nat :=
  digitsOnto base (n.log2 + 1) n []

/-- The number that digits spell, most significant first. -/
def value (base : Nat) (ds : List Nat) : Nat :=
  ds.foldl (fun n d => n * base + d) 0

/-- The decimal digit for a number below ten. -/
def decimalDigit (d : Nat) : Char :=
  Char.ofNat ('0'.toNat + d)

/-- The decimal numeral of `n`; zero is written `0`. -/
def decimal (n : Nat) : List Char :=
  if n = 0 then ['0'] else (digits 10 n).map decimalDigit

/-- The value of a decimal digit. -/
def decimalDigit? (c : Char) : Option Nat :=
  if '0' ≤ c ∧ c ≤ '9' then some (c.toNat - '0'.toNat) else none

/-- The decimal numeral of `n` as a string. -/
def decimalString (n : Nat) : String :=
  String.ofList (decimal n)

example : digits 58 3000 = [51, 42] := by decide
example : decimal 1000 = ['1', '0', '0', '0'] := by decide

end SelfCert.Radix
