/-!
# Modular arithmetic

Powers and inverses modulo a natural number.
-/

namespace SelfCert.Modular

/-- `acc * base ^ exponent` modulo `m`, by squaring. The first argument bounds the binary length of
the exponent. -/
def powOnto (m : Nat) : Nat → Nat → Nat → Nat → Nat
  | 0, _, _, acc => acc
  | count + 1, base, exponent, acc =>
    if exponent = 0 then acc
    else
      powOnto m count (base * base % m) (exponent / 2)
        (if exponent % 2 = 1 then acc * base % m else acc)

/-- `base ^ exponent` modulo `m`. -/
def pow (m base exponent : Nat) : Nat :=
  powOnto m (exponent.log2 + 1) (base % m) exponent (1 % m)

/-- The difference `a - b` modulo `m`, for `b` at most `m`. -/
def sub (m a b : Nat) : Nat :=
  (a + (m - b)) % m

/-- The inverse modulo a prime, by a power; the inverse of zero is zero. -/
def primeInverse (p a : Nat) : Nat :=
  pow p a (p - 2)

/-- The steps of Euclid's algorithm on `a` and `b`, carrying a coefficient of the first number for
each. The first argument bounds the number of steps. -/
def euclid : Nat → Nat → Nat → Int → Int → Nat × Int
  | 0, a, _, x, _ => (a, x)
  | count + 1, a, b, x, y =>
    if b = 0 then (a, x) else euclid count b (a % b) y (x - (a / b : Nat) * y)

/-- The inverse of `a` modulo `m`, if they are coprime. Two steps at least halve the larger number,
so the binary lengths bound the number of steps. -/
def inverse? (m a : Nat) : Option Nat :=
  let (divisor, x) := euclid (2 * (a.log2 + m.log2) + 4) (a % m) m 1 0
  if divisor = 1 then some (x % (m : Int)).toNat else none

end SelfCert.Modular
