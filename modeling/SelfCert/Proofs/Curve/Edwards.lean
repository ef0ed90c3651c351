import Mathlib.Algebra.Group.Basic
import Mathlib.Algebra.Group.Even
import Mathlib.Tactic.FieldSimp
import Mathlib.Tactic.LinearCombination
import Mathlib.Tactic.Ring

/-!
# Twisted Edwards curves

The points of a curve `-x² + y² = 1 + d x² y²` form a group, if `-1` is a square and `d` is none.
The sum has one formula for all points, as its denominators are never zero
(`Edwards.Point.product_sq_ne_one`).
-/

namespace SelfCert.Edwards

/-- The constant of a curve whose addition is complete. -/
structure Curve (F : Type*) [Field F] where
  d : F
  two_ne_zero : (2 : F) ≠ 0
  isSquare_neg_one : IsSquare (-1 : F)
  not_isSquare : ¬IsSquare d

/-- A point of a curve, by its coordinates. -/
@[ext] structure Point {F : Type*} [Field F] (c : Curve F) where
  x : F
  y : F
  equation : -x ^ 2 + y ^ 2 = 1 + c.d * x ^ 2 * y ^ 2

variable {F : Type*} [Field F] {c : Curve F}

/-- The negated constant is no square either. -/
theorem Curve.not_isSquare_neg (c : Curve F) : ¬IsSquare (-c.d) := fun h =>
  c.not_isSquare (by simpa using c.isSquare_neg_one.mul h)

namespace Point

/-! ### Denominators -/

/-- The product that stands in the denominators of a sum. -/
def product (P Q : Point c) : F := c.d * P.x * Q.x * P.y * Q.y

/-- **The addition is complete**: the product is neither one nor minus one. -/
theorem product_sq_ne_one (P Q : Point c) : P.product Q ^ 2 ≠ 1 := by
  intro hsq
  have hP := P.equation
  have hQ := Q.equation
  obtain ⟨i, hi⟩ := c.isSquare_neg_one
  unfold product at hsq
  -- Over a square root of minus one the curve is `X² + y² = 1 - d X² y²`, with `X = i x`.
  have hplus : (i * P.x + c.d * P.x * Q.x * P.y * Q.y * P.y) ^ 2 =
      -c.d * ((i * P.x * P.y) * (i * Q.x + Q.y)) ^ 2 := by
    grind
  have hminus : (i * P.x - c.d * P.x * Q.x * P.y * Q.y * P.y) ^ 2 =
      -c.d * ((i * P.x * P.y) * (i * Q.x - Q.y)) ^ 2 := by
    grind
  have hfactor {a b : F} (h : a ^ 2 = -c.d * b ^ 2) : b = 0 := by
    by_contra hb
    refine c.not_isSquare_neg ⟨a / b, ?_⟩
    rw [div_mul_div_comm, ← sq, ← sq, h, mul_div_cancel_right₀ _ (pow_ne_zero 2 hb)]
  have hzero : 2 * (i * P.x * P.y * Q.y) = 0 := by
    linear_combination hfactor hplus - hfactor hminus
  refine c.two_ne_zero ?_
  linear_combination -i * (c.d * P.x * Q.x * P.y * Q.y) * c.d * Q.x * hzero - 2 * hsq -
    2 * (c.d * P.x * Q.x * P.y * Q.y) ^ 2 * hi

theorem one_add_ne_zero (P Q : Point c) : 1 + P.product Q ≠ 0 := fun h =>
  P.product_sq_ne_one Q (by linear_combination (P.product Q - 1) * h)

theorem one_sub_ne_zero (P Q : Point c) : 1 - P.product Q ≠ 0 := fun h =>
  P.product_sq_ne_one Q (by linear_combination -(P.product Q + 1) * h)

/-! ### Sums -/

/-- The sum of two points. -/
def add (P Q : Point c) : Point c where
  x := (P.x * Q.y + Q.x * P.y) / (1 + P.product Q)
  y := (P.y * Q.y + P.x * Q.x) / (1 - P.product Q)
  equation := by
    have hP := P.equation
    have hQ := Q.equation
    have hplus := P.one_add_ne_zero Q
    have hminus := P.one_sub_ne_zero Q
    have hproduct : P.product Q = c.d * P.x * Q.x * P.y * Q.y := rfl
    generalize P.product Q = e at *
    field_simp
    grind

instance : Zero (Point c) := ⟨⟨0, 1, by ring⟩⟩

instance : Add (Point c) := ⟨add⟩

instance : Neg (Point c) := ⟨fun P => ⟨-P.x, P.y, by linear_combination P.equation⟩⟩

@[simp] theorem x_zero : (0 : Point c).x = 0 := rfl

@[simp] theorem y_zero : (0 : Point c).y = 1 := rfl

@[simp] theorem x_neg (P : Point c) : (-P).x = -P.x := rfl

@[simp] theorem y_neg (P : Point c) : (-P).y = P.y := rfl

theorem x_add (P Q : Point c) :
    (P + Q).x = (P.x * Q.y + Q.x * P.y) / (1 + P.product Q) := rfl

theorem y_add (P Q : Point c) :
    (P + Q).y = (P.y * Q.y + P.x * Q.x) / (1 - P.product Q) := rfl

protected theorem add_comm (P Q : Point c) : P + Q = Q + P := by
  ext
  · simp only [x_add, product]
    ring
  · simp only [y_add, product]
    ring

protected theorem zero_add (P : Point c) : 0 + P = P := by
  ext
  · simp [x_add, product]
  · simp [y_add, product]

protected theorem neg_add_cancel (P : Point c) : -P + P = 0 := by
  have hminus := (-P).one_sub_ne_zero P
  ext
  · simp only [x_add, x_neg, y_neg, x_zero]
    ring
  · rw [y_add, y_zero, div_eq_one_iff_eq hminus]
    simp only [product, x_neg, y_neg]
    linear_combination P.equation

/-! ### Associativity -/

/-- The common denominator of the coordinates of a sum. -/
def denominator (P Q : Point c) : F := (1 + P.product Q) * (1 - P.product Q)

/-- The product of a sum and a point, times the denominator of the sum. -/
def addProduct (P Q R : Point c) : F :=
  c.d * (P.x * Q.y + Q.x * P.y) * R.x * (P.y * Q.y + P.x * Q.x) * R.y

theorem denominator_ne_zero (P Q : Point c) : P.denominator Q ≠ 0 :=
  mul_ne_zero (P.one_add_ne_zero Q) (P.one_sub_ne_zero Q)

theorem denominator_mul_product_add (P Q R : Point c) :
    P.denominator Q * (P + Q).product R = P.addProduct Q R := by
  have hplus := P.one_add_ne_zero Q
  have hminus := P.one_sub_ne_zero Q
  rw [product, x_add, y_add, denominator, addProduct]
  field_simp

theorem denominator_add_ne_zero (P Q R : Point c) :
    P.denominator Q + P.addProduct Q R ≠ 0 := by
  rw [← denominator_mul_product_add, ← mul_one_add]
  exact mul_ne_zero (P.denominator_ne_zero Q) ((P + Q).one_add_ne_zero R)

theorem denominator_sub_ne_zero (P Q R : Point c) :
    P.denominator Q - P.addProduct Q R ≠ 0 := by
  rw [← denominator_mul_product_add, ← mul_one_sub]
  exact mul_ne_zero (P.denominator_ne_zero Q) ((P + Q).one_sub_ne_zero R)

theorem x_add_add (P Q R : Point c) :
    (P + Q + R).x = ((P.x * Q.y + Q.x * P.y) * (1 - P.product Q) * R.y +
      R.x * ((P.y * Q.y + P.x * Q.x) * (1 + P.product Q))) /
        (P.denominator Q + P.addProduct Q R) := by
  have hplus := P.one_add_ne_zero Q
  have hminus := P.one_sub_ne_zero Q
  rw [← denominator_mul_product_add, ← mul_one_add, ← div_div, x_add (P + Q), x_add P, y_add P,
    denominator]
  congr 1
  field_simp

theorem y_add_add (P Q R : Point c) :
    (P + Q + R).y = ((P.y * Q.y + P.x * Q.x) * (1 + P.product Q) * R.y +
      (P.x * Q.y + Q.x * P.y) * (1 - P.product Q) * R.x) /
        (P.denominator Q - P.addProduct Q R) := by
  have hplus := P.one_add_ne_zero Q
  have hminus := P.one_sub_ne_zero Q
  rw [← denominator_mul_product_add, ← mul_one_sub, ← div_div, y_add (P + Q), x_add P, y_add P,
    denominator]
  congr 1
  field_simp

/-- Brought to one denominator, the two sides differ by a combination of the equations of the three
points. -/
protected theorem add_assoc (P Q R : Point c) : P + Q + R = P + (Q + R) := by
  have hP := P.equation
  have hQ := Q.equation
  have hR := R.equation
  rw [Point.add_comm P (Q + R)]
  ext
  · rw [x_add_add, x_add_add, div_eq_div_iff (P.denominator_add_ne_zero Q R)
      (Q.denominator_add_ne_zero R P)]
    simp only [denominator, addProduct, product]
    grind
  · rw [y_add_add, y_add_add, div_eq_div_iff (P.denominator_sub_ne_zero Q R)
      (Q.denominator_sub_ne_zero R P)]
    simp only [denominator, addProduct, product]
    grind

instance : AddCommGroup (Point c) where
  add_assoc := Point.add_assoc
  zero_add := Point.zero_add
  add_zero P := by rw [Point.add_comm, Point.zero_add]
  nsmul := nsmulRec
  zsmul := zsmulRec
  neg_add_cancel := Point.neg_add_cancel
  add_comm := Point.add_comm

end Point

end SelfCert.Edwards
