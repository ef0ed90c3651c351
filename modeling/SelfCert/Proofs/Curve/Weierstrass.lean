import Mathlib.AlgebraicGeometry.EllipticCurve.Affine.Point
import Mathlib.Tactic.FieldSimp
import Mathlib.Tactic.LinearCombination

/-!
# Triples of coordinates

A point `(x, y)` of a curve `y² = x³ + b` over a field is given by each triple `(x z², y z³, z)`
with `z ≠ 0`, and the zero of the group by each triple with `z = 0`. Two triples are added, and one
is doubled, without division (`Triple.Gives.add`, `Triple.Gives.double`).
-/

namespace SelfCert.Weierstrass

open WeierstrassCurve.Affine

variable {F : Type*} [Field F] {b : F}

/-- The curve `y² = x³ + b`. -/
def curve (b : F) : WeierstrassCurve.Affine F := ⟨0, 0, 0, 0, b⟩

/-! ### Slopes -/

/-- A point is its own opposite if its second coordinate is. -/
theorem eq_negY_iff {x y : F} : y = (curve b).negY x y ↔ 2 * y = 0 := by
  simp only [negY, curve]
  constructor
  · intro h
    linear_combination h
  · intro h
    linear_combination h

/-- Two points with the same first coordinate are the same or opposite. -/
theorem eq_negY_of_ne {x y y' : F} (h : (curve b).Equation x y) (h' : (curve b).Equation x y')
    (hne : y' ≠ y) : y = (curve b).negY x y' := by
  rw [equation_iff] at h h'
  simp only [curve] at h h'
  have hsquare : y ^ 2 = y' ^ 2 := by linear_combination h - h'
  rcases sq_eq_sq_iff_eq_or_eq_neg.mp hsquare with heq | hneg
  · exact absurd heq.symm hne
  · simp [negY, curve, hneg]

theorem slope_self [DecidableEq F] {x y : F} (h : y ≠ (curve b).negY x y) :
    (curve b).slope x x y y = 3 * x ^ 2 / (2 * y) := by
  rw [slope_of_Y_ne rfl h]
  simp only [negY, curve]
  congr 1 <;> ring

theorem slope_of_ne [DecidableEq F] {x x' : F} (h : x' ≠ x) (y y' : F) :
    (curve b).slope x x' y y' = (y' - y) / (x' - x) := by
  rw [slope_of_X_ne h.symm, ← neg_sub y', ← neg_sub x', neg_div_neg_eq]

/-! ### Triples -/

/-- Three coordinates. -/
@[ext] structure Triple (F : Type*) where
  x : F
  y : F
  z : F

namespace Triple

/-- Whether a triple gives a point of the curve. -/
def Gives (t : Triple F) : (curve b).Point → Prop
  | .zero => t.z = 0
  | .some x y _ => t.z ≠ 0 ∧ t.x = x * t.z ^ 2 ∧ t.y = y * t.z ^ 3

/-- The triple of twice the point. -/
def double (t : Triple F) : Triple F :=
  let s := 4 * t.x * (t.y * t.y)
  let m := 3 * t.x * t.x
  let x := m * m - 2 * s
  ⟨x, m * (s - x) - 8 * (t.y * t.y) * (t.y * t.y), 2 * t.y * t.z⟩

/-- The triple of the sum of two points. -/
def add [DecidableEq F] (t u : Triple F) : Triple F :=
  if t.z = 0 then u
  else if u.z = 0 then t
  else
    let ut := t.x * (u.z * u.z)
    let st := t.y * (u.z * u.z * u.z)
    let h := u.x * (t.z * t.z) - ut
    let r := u.y * (t.z * t.z * t.z) - st
    if h = 0 then if r = 0 then t.double else ⟨1, 1, 0⟩
    else
      let x := r * r - (h * h * h + 2 * (ut * (h * h)))
      ⟨x, r * (ut * (h * h) - x) - st * (h * h * h), h * (t.z * u.z)⟩

variable {t u : Triple F} {P Q : (curve b).Point}

theorem gives_zero_iff : t.Gives (0 : (curve b).Point) ↔ t.z = 0 := Iff.rfl

variable [DecidableEq F]

/-- **The double of a triple gives twice the point.** -/
theorem Gives.double (h : t.Gives P) : t.double.Gives (P + P) := by
  cases P with
  | zero =>
    have hz : t.z = 0 := h
    have hzero : (.zero : (curve b).Point) + .zero = 0 := add_zero _
    rw [hzero, gives_zero_iff, Triple.double, hz, mul_zero]
  | some x y hxy =>
    obtain ⟨hz, hx, hy⟩ := h
    by_cases htwo : y = (curve b).negY x y
    · rw [Point.add_self_of_Y_eq htwo, gives_zero_iff]
      simp only [Triple.double, hy]
      linear_combination t.z ^ 4 * eq_negY_iff.mp htwo
    · rw [Point.add_self_of_Y_ne htwo]
      have hdouble : 2 * y ≠ 0 := eq_negY_iff.not.mp htwo
      have htwo' : (2 : F) ≠ 0 := left_ne_zero_of_mul hdouble
      have hy' : y ≠ 0 := right_ne_zero_of_mul hdouble
      refine ⟨?_, ?_, ?_⟩
      · simp only [Triple.double, hy]
        have hne : 2 * y * t.z ^ 4 ≠ 0 := mul_ne_zero hdouble (pow_ne_zero _ hz)
        intro hzero
        exact hne (by linear_combination hzero)
      · rw [slope_self htwo]
        simp only [Triple.double, addX, curve, hx, hy]
        field_simp
        ring
      · rw [slope_self htwo]
        simp only [Triple.double, addY, negAddY, negY, addX, curve, hx, hy]
        field_simp
        ring

/-- **The sum of two triples gives the sum of the points.** -/
theorem Gives.add (ht : t.Gives P) (hu : u.Gives Q) : (t.add u).Gives (P + Q) := by
  cases P with
  | zero =>
    have hz : t.z = 0 := ht
    have hzero : (.zero : (curve b).Point) + Q = Q := zero_add Q
    rwa [hzero, Triple.add, if_pos hz]
  | some x y hxy =>
    cases Q with
    | zero =>
      have hz : u.z = 0 := hu
      have hzero : (.some x y hxy : (curve b).Point) + .zero = .some x y hxy := add_zero _
      rwa [hzero, Triple.add, if_neg ht.1, if_pos hz]
    | some x' y' hxy' =>
      obtain ⟨hz, hx, hy⟩ := ht
      obtain ⟨hz', hx', hy'⟩ := hu
      have hzz : t.z * u.z ≠ 0 := mul_ne_zero hz hz'
      have hh : u.x * (t.z * t.z) - t.x * (u.z * u.z) = (x' - x) * (t.z * u.z) ^ 2 := by
        rw [hx, hx']
        ring
      have hr : u.y * (t.z * t.z * t.z) - t.y * (u.z * u.z * u.z) =
          (y' - y) * (t.z * u.z) ^ 3 := by
        rw [hy, hy']
        ring
      rw [Triple.add, if_neg hz, if_neg hz']
      simp only [hh, hr, mul_eq_zero, pow_eq_zero_iff, hzz, or_false, ne_eq, OfNat.ofNat_ne_zero,
        not_false_eq_true, sub_eq_zero]
      split_ifs with hxx hyy
      · obtain rfl : x' = x := hxx
        obtain rfl : y' = y := hyy
        exact Gives.double ⟨hz, hx, hy⟩
      · obtain rfl : x' = x := hxx
        rw [Point.add_of_Y_eq rfl (eq_negY_of_ne hxy.1 hxy'.1 hyy), gives_zero_iff]
      · have hsub : x' - x ≠ 0 := sub_ne_zero.mpr hxx
        rw [Point.add_of_X_ne (Ne.symm hxx)]
        refine ⟨mul_ne_zero (mul_ne_zero hsub (pow_ne_zero _ hzz)) hzz, ?_, ?_⟩
        · rw [slope_of_ne hxx]
          simp only [addX, curve, hx]
          field_simp
          ring
        · rw [slope_of_ne hxx]
          simp only [addY, negAddY, negY, addX, curve, hx, hy]
          field_simp
          ring

end Triple

end SelfCert.Weierstrass
