import SelfCert.Bytes
import SelfCert.Number.Modular

/-!
# The curve secp256k1

Points of `y² = x³ + 7` over the prime field of `p` elements, their byte forms and their multiples.
`ofBytes?` reads a point from either of its forms, and `uncompressed` writes the long one, which
reads back as the same point.
-/

namespace SelfCert.Secp256k1

/-- The order of the field. -/
def p : Nat := 2 ^ 256 - 2 ^ 32 - 977

/-- The order of the group of points. -/
def order : Nat := 0xFFFFFFFFFFFFFFFFFFFFFFFFFFFFFFFEBAAEDCE6AF48A03BBFD25E8CD0364141

/-- A pair of coordinates. -/
structure Point where
  x : Nat
  y : Nat
  deriving DecidableEq, Repr

/-- The base point. -/
def generator : Point where
  x := 0x79BE667EF9DCBBAC55A06295CE870B07029BFCDB2DCE28D959F2815B16F81798
  y := 0x483ADA7726A3C4655DA4FBFC0E1108A8FD17B448A68554199C47D08FFB10D4B8

/-- What the square of the second coordinate has to be. -/
def rightSide (x : Nat) : Nat :=
  (x * x % p * x + 7) % p

/-- Whether a pair of field elements is a point of the curve. -/
def Point.isOnCurve (q : Point) : Bool :=
  q.x < p && q.y < p && q.y * q.y % p == rightSide q.x

/-! ### Byte forms -/

/-- The point with a given first coordinate and parity of the second one. -/
def lift? (x : Nat) (odd : Bool) : Option Point :=
  if x < p then
    let root := Modular.pow p (rightSide x) ((p + 1) / 4)
    let y := if (root % 2 == 1) == odd then root else (p - root) % p
    let q : Point := ⟨x, y⟩
    if q.isOnCurve then some q else none
  else none

/-- Reads a point: `02` or `03` and the first coordinate, where the mark gives the parity of the
second one; `04` and both coordinates; or `05` and the first coordinate of a point with an even
second one. -/
def ofBytes? : Bytes → Option Point
  | [] => none
  | mark :: coordinates =>
    if coordinates.length = 32 then
      if mark = 2 ∨ mark = 5 then lift? (Bytes.toNat coordinates) false
      else if mark = 3 then lift? (Bytes.toNat coordinates) true
      else none
    else if coordinates.length = 64 ∧ mark = 4 then
      let q : Point := ⟨Bytes.toNat (coordinates.take 32), Bytes.toNat (coordinates.drop 32)⟩
      if q.isOnCurve then some q else none
    else none

/-- The form with both coordinates. -/
def Point.uncompressed (q : Point) : Bytes :=
  4 :: Bytes.ofNat 32 q.x ++ Bytes.ofNat 32 q.y

@[simp] theorem Point.length_uncompressed (q : Point) : q.uncompressed.length = 65 := by
  simp [uncompressed]

/-- The byte form of a point of the curve reads back as that point. -/
theorem ofBytes?_uncompressed {q : Point} (h : q.isOnCurve) :
    ofBytes? q.uncompressed = some q := by
  have hx : Bytes.toNat (Bytes.ofNat 32 q.x) = q.x := by
    simp only [Point.isOnCurve, Bool.and_eq_true, decide_eq_true_eq] at h
    rw [Bytes.toNat_ofNat]
    exact Nat.mod_eq_of_lt (Nat.lt_trans h.1.1 (by decide))
  have hy : Bytes.toNat (Bytes.ofNat 32 q.y) = q.y := by
    simp only [Point.isOnCurve, Bool.and_eq_true, decide_eq_true_eq] at h
    rw [Bytes.toNat_ofNat]
    exact Nat.mod_eq_of_lt (Nat.lt_trans h.1.2 (by decide))
  simp [Point.uncompressed, ofBytes?, hx, hy, h, -Bytes.toNat_ofNat]

/-! ### Multiples -/

/-- A point in Jacobian coordinates: `(x / z², y / z³)`, and the zero of the group for `z = 0`. -/
structure Jacobian where
  x : Nat
  y : Nat
  z : Nat

/-- The zero of the group. -/
def zero : Jacobian := ⟨1, 1, 0⟩

/-- A point in Jacobian coordinates. -/
def Point.toJacobian (q : Point) : Jacobian := ⟨q.x, q.y, 1⟩

/-- Twice a point. -/
def Jacobian.double (a : Jacobian) : Jacobian :=
  let yy := a.y * a.y % p
  let s := 4 * a.x * yy % p
  let m := 3 * a.x * a.x % p
  let x := Modular.sub p (m * m) (2 * s % p)
  ⟨x, Modular.sub p (m * Modular.sub p s x) (8 * yy * yy % p), 2 * a.y * a.z % p⟩

/-- The sum of two points. -/
def Jacobian.add (a b : Jacobian) : Jacobian :=
  if a.z = 0 then b
  else if b.z = 0 then a
  else
    let za := a.z * a.z % p
    let zb := b.z * b.z % p
    let ua := a.x * zb % p
    let ub := b.x * za % p
    let sa := a.y * (zb * b.z % p) % p
    let sb := b.y * (za * a.z % p) % p
    let h := Modular.sub p ub ua
    let r := Modular.sub p sb sa
    if h = 0 then if r = 0 then a.double else zero
    else
      let hh := h * h % p
      let hhh := hh * h % p
      let v := ua * hh % p
      let x := Modular.sub p (r * r) ((hhh + 2 * v) % p)
      ⟨x, Modular.sub p (r * Modular.sub p v x) (sa * hhh % p), h * (a.z * b.z % p) % p⟩

/-- `acc + k * a`, by doubling. The first argument bounds the binary length of `k`. -/
def Jacobian.mulOnto : Nat → Nat → Jacobian → Jacobian → Jacobian
  | 0, _, _, acc => acc
  | count + 1, k, a, acc =>
    if k = 0 then acc
    else mulOnto count (k / 2) a.double (if k % 2 = 1 then acc.add a else acc)

/-- The multiple `k * a`. -/
def Jacobian.mul (k : Nat) (a : Jacobian) : Jacobian :=
  mulOnto (k.log2 + 1) k a zero

/-- The point with these coordinates, unless it is the zero of the group. -/
def Jacobian.toPoint? (a : Jacobian) : Option Point :=
  if a.z = 0 then none
  else
    let inverse := Modular.primeInverse p a.z
    let square := inverse * inverse % p
    some ⟨a.x * square % p, a.y * (square * inverse % p) % p⟩

/-- The multiple `k` of the base point, unless it is zero. -/
def mulGenerator? (k : Nat) : Option Point :=
  (generator.toJacobian.mul k).toPoint?

end SelfCert.Secp256k1
