import SelfCert.Number.Radix

/-!
# Binary floating-point numbers of 64 bits

A `Binary64` is its bit pattern: a sign, an exponent and 52 bits of a fraction. Products and
quotients are rounded to the nearest number, ties to even. A decimal is read by one of these
operations on its digits and a power of ten, both of which have been rounded before, so it may be
read as a neighbour of the nearest number (`ofDecimal?`). Numbers are written with the fewest digits
to which they are nearest, and of several such decimals as the nearest one (`shortest`). All of this
is exact natural arithmetic.
-/

namespace SelfCert

/-- A floating-point number, given by its bits. -/
structure Binary64 where
  bits : UInt64
  deriving DecidableEq, Repr

namespace Binary64

/-- Whether the sign bit is set. -/
def isNegative (x : Binary64) : Bool :=
  2 ^ 63 ≤ x.bits.toNat

/-- The bits without the sign; they order the numbers by magnitude. -/
def magnitude (x : Binary64) : Nat :=
  x.bits.toNat % 2 ^ 63

/-- The number with a given sign and magnitude. -/
def ofMagnitude (negative : Bool) (magnitude : Nat) : Binary64 :=
  ⟨UInt64.ofNat (if negative then 2 ^ 63 + magnitude else magnitude)⟩

/-- Numbers are equal when their bits are, except that the two zeros are one number. -/
def same (x y : Binary64) : Bool :=
  x.bits == y.bits || (x.magnitude == 0 && y.magnitude == 0)

@[simp] theorem same_self (x : Binary64) : x.same x = true := by
  simp [same]

/-- The magnitude of infinity. -/
def infinity : Nat :=
  0x7FF0000000000000

/-- The quotient rounded to the nearest natural number, ties to even. -/
def roundDiv (num den : Nat) : Nat :=
  let q := num / den
  let r := num % den
  if 2 * r < den then q
  else if den < 2 * r then q + 1
  else if q % 2 = 0 then q else q + 1

/-- The magnitude nearest to `num / den`. The significand has 53 bits, so the unit is `2 ^ q` where
the quotient has its leading bit at place `q + 52`, and at least `2 ^ (-1074)`. A carry out of the
significand moves into the exponent by itself. -/
def nearest (num den : Nat) : Nat :=
  let scaled (q : Int) : Nat × Nat :=
    if 0 ≤ q then (num, den * 2 ^ q.toNat) else (num * 2 ^ (-q).toNat, den)
  let guess : Int := (num.log2 : Int) - (den.log2 : Int) - 53
  let atGuess := scaled guess
  let q : Int := if 2 ^ 53 ≤ atGuess.1 / atGuess.2 then guess + 1 else guess
  let q : Int := max q (-1074)
  let fraction := scaled q
  if num = 0 then 0 else (q + 1074).toNat * 2 ^ 52 + roundDiv fraction.1 fraction.2

/-- Significand and exponent: the magnitude stands for `m * 2 ^ q`. -/
def parts (magnitude : Nat) : Nat × Int :=
  let exponent : Nat := magnitude / 2 ^ 52
  let fraction : Nat := magnitude % 2 ^ 52
  if exponent = 0 then (fraction, -1074) else (fraction + 2 ^ 52, (exponent : Int) - 1075)

/-! ### Products and quotients -/

/-- Numerator and denominator of the number that a finite magnitude stands for. -/
def fraction (magnitude : Nat) : Nat × Nat :=
  let (m, q) := parts magnitude
  if 0 ≤ q then (m * 2 ^ q.toNat, 1) else (m, 2 ^ (-q).toNat)

/-- The product of two finite magnitudes; it may be infinite. -/
def mul (x y : Nat) : Nat :=
  let (a, b) := fraction x
  let (c, d) := fraction y
  nearest (a * c) (b * d)

/-- The quotient of two finite magnitudes, of which the second one is not zero. -/
def div (x y : Nat) : Nat :=
  let (a, b) := fraction x
  let (c, d) := fraction y
  nearest (a * d) (b * c)

/-! ### Reading -/

/-- The exponent of the last power of ten that is finite. -/
def lastPower : Nat := 308

/-- The magnitude of a power of ten. -/
def powerOfTen (n : Nat) : Nat :=
  nearest (10 ^ n) 1

/-- A magnitude times `10 ^ e`, if that is finite: its product with the power, or its quotient by
the opposite one. Beyond the last power, only zero has such a product, and the quotient is taken by
one last power after the other, which soon leads to zero. -/
def scale? (f : Nat) (e : Int) : Option Nat :=
  if e.natAbs ≤ lastPower then
    let power := powerOfTen e.natAbs
    if e < 0 then some (div f power)
    else
      let product := mul f power
      if infinity ≤ product then none else some product
  else if f = 0 then some 0
  else if 0 ≤ e then none
  else scale? (div f (powerOfTen lastPower)) (e + lastPower)
termination_by e.natAbs
decreasing_by
  simp only [lastPower] at *
  omega

/-- The number that `m * 10 ^ e` is read as, or none if it is beyond the largest one. -/
def ofDecimal? (negative : Bool) (m : Nat) (e : Int) : Option Binary64 :=
  (scale? (nearest m 1) e).map (ofMagnitude negative)

/-! ### Writing -/

/-- Digits of a decimal and the place of the first one: the value is `d₁.d₂d₃… * 10 ^ lead`. -/
structure Decimal where
  digits : List Nat
  lead : Int

/-- Three points over one denominator: the value in the middle and the ends of the interval of
reals that round to it; `closed` says that the ends belong to it. -/
structure Interval where
  low : Nat
  middle : Nat
  high : Nat
  den : Nat
  closed : Bool

/-- The reals that round to a magnitude, in quarters of its unit. Below a power of two the
neighbour is only half as far away. -/
def interval (magnitude : Nat) : Interval :=
  let (m, q) := parts magnitude
  let below := if magnitude % 2 ^ 52 = 0 ∧ 2 ^ 52 < magnitude then 1 else 2
  let closed := m % 2 = 0
  if 2 ≤ q then
    let unit := 2 ^ (q - 2).toNat
    ⟨(4 * m - below) * unit, 4 * m * unit, (4 * m + 2) * unit, 1, closed⟩
  else
    ⟨4 * m - below, 4 * m, 4 * m + 2, 2 ^ (2 - q).toNat, closed⟩

/-- Whether `n / den` lies in the interval, for `n` over the interval's denominator. -/
def Interval.holds (i : Interval) (n : Nat) : Bool :=
  if i.closed then i.low ≤ n && n ≤ i.high else i.low < n && n < i.high

/-- The interval in units of `10 ^ k`. -/
def Interval.inUnits (i : Interval) (k : Int) : Interval :=
  if 0 ≤ k then { i with den := i.den * 10 ^ k.toNat }
  else
    let scale := 10 ^ (-k).toNat
    { i with low := i.low * scale, middle := i.middle * scale, high := i.high * scale }

/-- The better of the two multiples of the unit around the middle, if one lies in the interval: the
nearer one, and of two equally near ones the even one. -/
def Interval.candidate? (i : Interval) : Option Nat :=
  let down := i.middle / i.den
  let up := down + 1
  match i.holds (down * i.den), i.holds (up * i.den) with
  | true, true =>
    let fromDown := i.middle - down * i.den
    let fromUp := up * i.den - i.middle
    some (if fromDown < fromUp ∨ (fromDown = fromUp ∧ down % 2 = 0) then down else up)
  | true, false => some down
  | false, true => some up
  | false, false => none

/-- The place of the leading decimal digit of the middle, which is not zero. -/
def Interval.lead (i : Interval) : Int :=
  if i.den ≤ i.middle then ((Radix.digits 10 (i.middle / i.den)).length : Int) - 1
  else
    -- `den / middle` has `d` digits, so the value is below `10 ^ (1 - d)` and the place is `-d`,
    -- or `1 - d` when the value is that power itself
    let d := (Radix.digits 10 (i.den / i.middle)).length
    if i.den ≤ i.middle * 10 ^ (d - 1) then 1 - (d : Int) else -(d : Int)

/-- Digits without the zeros at the end. -/
def dropZeros (digits : List Nat) : List Nat :=
  (digits.reverse.dropWhile (· == 0)).reverse

/-- The fewest digits to which this magnitude is nearest, which is neither zero nor infinite: the
first of 1, 2, …, 17 digits for which that holds of one of the two decimals around the value. -/
def shortest (magnitude : Nat) : Decimal :=
  let i := interval magnitude
  let lead := i.lead
  let found := (List.range 17).findSome? fun (n : Nat) =>
    (i.inUnits (lead - n)).candidate?.map fun c => (n, c)
  match found with
  | none => ⟨[0], 0⟩
  | some (n, c) =>
    let ds := Radix.digits 10 c
    -- rounding up may have carried into one more digit
    ⟨dropZeros ds, lead - n + ds.length - 1⟩

/-- How a decimal is laid out. -/
structure Layout where
  /-- The least place of the leading digit that is written without an exponent. -/
  leastPlain : Int
  /-- The greatest place of the leading digit that is written without an exponent. -/
  greatestPlain : Int

/-- Plain decimals keep at least one digit after the point; an exponent is signed and has no
leading zeros. -/
def Layout.render (layout : Layout) (d : Decimal) : List Char :=
  let ds := d.digits.map Radix.decimalDigit
  if layout.leastPlain ≤ d.lead ∧ d.lead ≤ layout.greatestPlain then
    if d.lead < 0 then '0' :: '.' :: List.replicate (-d.lead - 1).toNat '0' ++ ds
    else
      let whole := d.lead.toNat + 1
      let front := ds.take whole ++ List.replicate (whole - ds.length) '0'
      let back := ds.drop whole
      front ++ '.' :: (if back.isEmpty then ['0'] else back)
  else
    let sign := if d.lead < 0 then '-' else '+'
    let mantissa := match ds with
      | first :: second :: more => first :: '.' :: second :: more
      | short => short
    mantissa ++ 'e' :: sign :: Radix.decimal d.lead.natAbs

/-- A number in a given layout; zero keeps its sign. -/
def render (layout : Layout) (x : Binary64) : List Char :=
  let sign := if x.isNegative then ['-'] else []
  if x.magnitude = 0 then sign ++ ['0', '.', '0']
  else sign ++ layout.render (shortest x.magnitude)

end Binary64

end SelfCert
