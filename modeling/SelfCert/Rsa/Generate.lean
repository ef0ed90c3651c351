import SelfCert.Entropy
import SelfCert.Rsa.Basic

/-!
# Making RSA keys

Two random primes of half the size each, with their two highest bits set so that the product has
full size, and the exponent 65537. Sizes below 17 bits leave no room for the exponent and fail.
-/

namespace SelfCert.Rsa

/-- The primes below one hundred. -/
def smallPrimes : List Nat :=
  [2, 3, 5, 7, 11, 13, 17, 19, 23, 29, 31, 37, 41, 43, 47, 53, 59, 61, 67, 71, 73, 79, 83, 89, 97]

/-- Splits a positive number into an odd part and a power of two. The first argument bounds the
power. -/
def oddPart : Nat → Nat → Nat → Nat × Nat
  | 0, n, twos => (n, twos)
  | count + 1, n, twos => if n % 2 = 0 then oddPart count (n / 2) (twos + 1) else (n, twos)

/-- Whether one of the first `count` repeated squares of `x` is minus one modulo `n`. -/
def reachesMinusOne (n : Nat) : Nat → Nat → Bool
  | 0, _ => false
  | count + 1, x => x == n - 1 || reachesMinusOne n count (x * x % n)

/-- Whether an odd number above two passes the test of Miller and Rabin for a base. -/
def passes (n base : Nat) : Bool :=
  let (odd, twos) := oddPart (n.log2 + 1) (n - 1) 0
  let x := Modular.pow n base odd
  x == 1 || reachesMinusOne n twos x

/-- Whether a number is very probably prime: no small prime divides it, and it passes the test for
all of them. -/
def isProbablePrime (n : Nat) : Bool :=
  if smallPrimes.contains n then true
  else
    n ≥ 2 && smallPrimes.all (fun p => n % p != 0) && smallPrimes.all (passes n)

/-- A prime of exactly `bits` bits whose two highest bits are set. About one in `bits / 3`
candidates is prime, so the number of tries is ample. -/
def takePrime (bits : Nat) : Nat → Entropy → Option Nat × Entropy
  | 0, source => (none, source)
  | tries + 1, source =>
    let (n, rest) := source.takeBits (bits - 2)
    let candidate := 3 * 2 ^ (bits - 2) + n / 2 * 2 + 1
    if isProbablePrime candidate then (some candidate, rest) else takePrime bits tries rest

/-- The exponent of new keys. -/
def newExponent : Nat := 65537

/-- A new key whose modulus has `bits` bits; the first argument bounds the number of tries. -/
def PrivateKey.tryGenerate (bits : Nat) : Nat → Entropy → Option PrivateKey × Entropy
  | 0, source => (none, source)
  | tries + 1, source =>
    match takePrime (bits / 2) (100 * bits) source with
    | (none, source) => (none, source)
    | (some first, source) =>
      match takePrime (bits - bits / 2) (100 * bits) source with
      | (none, source) => (none, source)
      | (some second, source) =>
        let key? :=
          if first = second ∨ first * second < 2 ^ (bits - 1) then none
          else
            (Modular.inverse? ((first - 1) * (second - 1)) newExponent).bind fun secret =>
              PrivateKey.ofNumbers? ⟨first * second, newExponent⟩ secret first second
        match key? with
        | some key => (some key, source)
        | none => tryGenerate bits tries source

/-- A new key whose modulus has `bits` bits, if there is one. -/
def PrivateKey.generate (bits : Nat) (source : Entropy) : Option PrivateKey × Entropy :=
  if bits < 17 then (none, source) else tryGenerate bits 100 source

end SelfCert.Rsa
