import SelfCert.Json.Basic

/-!
# Instants

A point in time given by the number of seconds since the beginning of 1970, which may have a
fraction.
-/

namespace SelfCert

/-- Whole seconds and nanoseconds. A leap second counts as a second of more than `10 ^ 9`
nanoseconds at the end of a minute. -/
structure Instant where
  seconds : Int
  nanoseconds : Nat
  deriving DecidableEq, Repr

namespace Instant

/-- The first second of the calendar. -/
def firstSecond : Int := -8334601228800

/-- The last second of the calendar. -/
def lastSecond : Int := 8210266876799

/-- The instant of given seconds and nanoseconds, if the calendar has it. -/
def ofParts? (seconds : Int) (nanoseconds : Nat) : Option Instant :=
  let inLeap := seconds % 60 = 59 ∧ nanoseconds < 2 * 10 ^ 9
  if firstSecond ≤ seconds ∧ seconds ≤ lastSecond ∧ (nanoseconds < 10 ^ 9 ∨ inLeap) then
    some ⟨seconds, nanoseconds⟩
  else none

/-- The whole part of `num / den` in floating-point numbers, after `num / den` and its product with
`factor` have each been rounded. -/
def scaledPart (num den factor : Nat) : Nat :=
  let (num, den) :=
    Binary64.fraction (Binary64.mul (Binary64.nearest num den) (Binary64.nearest factor 1))
  num / den

/-- The instant a number of seconds stands for. The fraction counts upwards from the whole second
before it, in floating-point numbers. -/
def ofSeconds? (x : Binary64) : Option Instant :=
  let (m, q) := Binary64.parts x.magnitude
  let signed : Int := if x.isNegative then -(m : Int) else m
  if 0 ≤ q then ofParts? (signed * 2 ^ q.toNat) 0
  else
    let den : Nat := 2 ^ (-q).toNat
    let whole := signed / (den : Int)
    let rest := (signed - whole * den).toNat
    ofParts? whole (scaledPart rest den (10 ^ 9))

end Instant

/-- The floating-point number nearest to an integer. -/
def Binary64.ofInt (n : Int) : Binary64 :=
  ofMagnitude (n < 0) (nearest n.natAbs 1)

/-- A number as a floating-point number. -/
def Json.Number.toBinary64 : Json.Number → Binary64
  | .integer n => Binary64.ofInt n.value
  | .float x => x

/-- The instant that a value holds as a number of seconds. -/
def Instant.ofJson? : Json → Option Instant
  | .number n => ofSeconds? n.toBinary64
  | _ => none

end SelfCert
