import SelfCert.Bytes
import SelfCert.Digest.Sha512
import SelfCert.Number.Modular

/-!
# Ed25519

The twisted Edwards curve `-x² + y² = 1 + d x² y²` over the prime field of `2 ^ 255 - 19` elements,
and the signatures of RFC 8032 on it.

A point is written as its second coordinate with the parity of the first one in the top bit. Reading
is generous: a second coordinate of `p` and above is taken modulo `p`, and the parity bit is ignored
where the first coordinate is zero. A signature is checked against the bytes of the key as given.
-/

namespace SelfCert.Ed25519

/-- The order of the field. -/
def p : Nat := 2 ^ 255 - 19

/-- The order of the base point. -/
def order : Nat := 2 ^ 252 + 27742317777372353535851937790883648493

/-- The constant of the curve, `-121665 / 121666`. -/
def d : Nat := (p - 121665) * Modular.primeInverse p 121666 % p

/-- A square root of minus one. -/
def rootOfMinusOne : Nat := Modular.pow p 2 ((p - 1) / 4)

/-- A point in extended coordinates: `(x / z, y / z)` with `t = x y / z`. -/
structure Point where
  x : Nat
  y : Nat
  z : Nat
  t : Nat

/-- The point with given affine coordinates. -/
def Point.ofAffine (x y : Nat) : Point := ⟨x, y, 1, x * y % p⟩

/-- The zero of the group. -/
def zero : Point := .ofAffine 0 1

/-- The sum of two points. -/
def Point.add (a b : Point) : Point :=
  let m := Modular.sub p a.y a.x * Modular.sub p b.y b.x % p
  let n := (a.y + a.x) * (b.y + b.x) % p
  let c := a.t * (2 * d % p) % p * b.t % p
  let w := 2 * a.z * b.z % p
  let e := Modular.sub p n m
  let f := Modular.sub p w c
  let g := w + c
  let h := n + m
  ⟨e * f % p, g * h % p, f * g % p, e * h % p⟩

/-- Twice a point. -/
def Point.double (a : Point) : Point :=
  let xx := a.x * a.x % p
  let yy := a.y * a.y % p
  let zz := 2 * a.z * a.z % p
  let h := (xx + yy) % p
  let e := Modular.sub p h ((a.x + a.y) * (a.x + a.y) % p)
  let g := Modular.sub p xx yy
  let f := zz + g
  ⟨e * f % p, g * h % p, f * g % p, e * h % p⟩

/-- The point with the first coordinate negated. -/
def Point.neg (a : Point) : Point :=
  ⟨(p - a.x) % p, a.y, a.z, (p - a.t) % p⟩

/-- `acc + k * a`, by doubling. The first argument bounds the binary length of `k`. -/
def Point.mulOnto : Nat → Nat → Point → Point → Point
  | 0, _, _, acc => acc
  | count + 1, k, a, acc =>
    if k = 0 then acc
    else mulOnto count (k / 2) a.double (if k % 2 = 1 then acc.add a else acc)

/-- The multiple `k * a`. -/
def Point.mul (k : Nat) (a : Point) : Point :=
  mulOnto (k.log2 + 1) k a zero

/-! ### Byte form -/

/-- The bytes of a point. -/
def Point.toBytes (a : Point) : Bytes :=
  let inverse := Modular.primeInverse p a.z
  let x := a.x * inverse % p
  let y := a.y * inverse % p
  Bytes.ofNatLittle 32 (y + x % 2 * 2 ^ 255)

/-- A square root of `u / v` in the field, if there is one. -/
def rootOfRatio? (u v : Nat) : Option Nat :=
  let v3 := v * v % p * v % p
  let v7 := v3 * v3 % p * v % p
  let root := u * v3 % p * Modular.pow p (u * v7) ((p - 5) / 8) % p
  let check := v * (root * root % p) % p
  if check = u then some root
  else if check = (p - u) % p then some (root * rootOfMinusOne % p)
  else none

/-- Reads a point from 32 bytes. -/
def Point.ofBytes? (bytes : Bytes) : Option Point :=
  if bytes.length = 32 then
    let n := bytes.toNatLittle
    let odd := n / 2 ^ 255
    let y := n % 2 ^ 255 % p
    let yy := y * y % p
    let u := Modular.sub p yy 1
    let v := (d * yy + 1) % p
    (rootOfRatio? u v).map fun root =>
      .ofAffine (if root % 2 = odd then root else (p - root) % p) y
  else none

/-- The base point: the second coordinate is `4 / 5` and the first one even. -/
def base : Point :=
  let y := 4 * Modular.primeInverse p 5 % p
  (Point.ofBytes? (Bytes.ofNatLittle 32 y)).getD zero

/-! ### Signatures -/

/-- A hash as a number modulo the order. -/
def hashNumber (data : Bytes) : Nat :=
  (Sha512.digest data).toNatLittle % order

/-- What a seed of 32 bytes expands to: the secret multiplier and the salt of the signatures. -/
structure Secret where
  scalar : Nat
  salt : Bytes

/-- Expands a seed. The multiplier has its lowest three bits cleared and its highest bit at place
254. -/
def Secret.ofSeed (seed : Bytes) : Secret :=
  let hash := Sha512.digest seed
  let n := Bytes.toNatLittle (hash.take 32)
  ⟨2 ^ 254 + n % 2 ^ 254 / 8 * 8, hash.drop 32⟩

/-- The bytes of the public point of a seed. -/
def publicOfSeed (seed : Bytes) : Bytes :=
  (base.mul (Secret.ofSeed seed).scalar).toBytes

/-- The signature of a message under a seed: a point and a number, 32 bytes each. -/
def sign (seed message : Bytes) : Bytes :=
  let secret := Secret.ofSeed seed
  let r := hashNumber (secret.salt ++ message)
  let point := (base.mul r).toBytes
  let k := hashNumber (point ++ publicOfSeed seed ++ message)
  point ++ Bytes.ofNatLittle 32 ((r + k * secret.scalar) % order)

/-- Whether a signature belongs to a message under the bytes of a public point: the number is below
the order and the point it gives has the bytes in the signature. -/
def verify (key message signature : Bytes) : Bool :=
  match Point.ofBytes? key with
  | none => false
  | some a =>
    if signature.length = 64 then
      let point := signature.take 32
      let s := Bytes.toNatLittle (signature.drop 32)
      let k := hashNumber (point ++ key ++ message)
      decide (s < order) && ((base.mul s).add (a.neg.mul k)).toBytes == point
    else false

end SelfCert.Ed25519
