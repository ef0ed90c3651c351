import SelfCert.Proofs.Curve.Ladder
import SelfCert.Proofs.Curve.Primes
import SelfCert.Proofs.Curve.Weierstrass
import SelfCert.Proofs.Number.Residue

/-!
# Multiples of points of secp256k1

The points of secp256k1 over the field of residues form a group. Triples of numbers stand for its
points (`Secp256k1.Jacobian.Gives`), and doubling, adding and multiplying them is done in the group
(`Secp256k1.Jacobian.Gives.mul`).
-/

namespace SelfCert.Secp256k1

instance : Fact p.Prime := ⟨prime_p⟩

/-- The group of points. -/
abbrev Group := (Weierstrass.curve (7 : ZMod p)).Point

theorem p_pos : 0 < p := prime_p.pos

namespace Jacobian

/-- The residues of the coordinates. -/
def triple (a : Jacobian) : Weierstrass.Triple (ZMod p) := ⟨a.x, a.y, a.z⟩

/-- Whether coordinates stand for a point. The last one has to be reduced, so that it is zero only
if its residue is. -/
structure Gives (a : Jacobian) (P : Group) : Prop where
  lt : a.z < p
  gives : a.triple.Gives P

theorem triple_double (a : Jacobian) : a.double.triple = a.triple.double := by
  have hs : ∀ n k, Modular.sub p n k ≤ p := fun n k => (Modular.sub_lt p_pos n k).le
  simp only [triple, double, Weierstrass.Triple.double, Modular.cast_sub_mod p_pos,
    Modular.cast_sub (hs _ _), ZMod.natCast_mod, Nat.cast_mul, Nat.cast_ofNat]

theorem triple_add {a b : Jacobian} (ha : a.z < p) (hb : b.z < p) :
    (a.add b).triple = a.triple.add b.triple := by
  have hs : ∀ n k, Modular.sub p n k ≤ p := fun n k => (Modular.sub_lt p_pos n k).le
  -- All tests for zero are made on reduced numbers.
  have hzero : ∀ n k, Modular.sub p n (k % p) = 0 ↔ (n : ZMod p) - k = 0 := fun n k => by
    rw [← Modular.cast_eq_zero_iff (Modular.sub_lt p_pos n _), Modular.cast_sub_mod p_pos]
  simp only [add, Weierstrass.Triple.add, apply_ite triple]
  refine if_congr (Modular.cast_eq_zero_iff ha).symm rfl
    (if_congr (Modular.cast_eq_zero_iff hb).symm rfl
      (if_congr ?_ (if_congr ?_ (triple_double a) ?_) ?_))
  · simp only [hzero, triple, ZMod.natCast_mod, Nat.cast_mul]
  · simp only [hzero, triple, ZMod.natCast_mod, Nat.cast_mul]
  · simp [triple, zero]
  · simp only [triple, Modular.cast_sub_mod p_pos, Modular.cast_sub (hs _ _), ZMod.natCast_mod,
      Nat.cast_mul, Nat.cast_add, Nat.cast_ofNat]

/-! ### The group -/

variable {a b : Jacobian} {P Q : Group}

theorem gives_zero : zero.Gives 0 where
  lt := p_pos
  gives := Nat.cast_zero

/-- The last coordinate is zero exactly for the zero of the group. -/
theorem Gives.eq_zero_iff (h : a.Gives P) : P = 0 ↔ a.z = 0 := by
  rw [← Modular.cast_eq_zero_iff h.lt]
  cases P with
  | zero => exact iff_of_true rfl h.gives
  | some x y hxy => exact iff_of_false (WeierstrassCurve.Affine.Point.some_ne_zero hxy) h.gives.1

theorem Gives.double (h : a.Gives P) : a.double.Gives (P + P) where
  lt := Nat.mod_lt _ p_pos
  gives := by
    rw [triple_double]
    exact h.gives.double

theorem z_add_lt (ha : a.z < p) (hb : b.z < p) : (a.add b).z < p := by
  simp only [add]
  split_ifs
  · exact hb
  · exact ha
  · exact Nat.mod_lt _ p_pos
  · exact p_pos
  · exact Nat.mod_lt _ p_pos

theorem Gives.add (ha : a.Gives P) (hb : b.Gives Q) : (a.add b).Gives (P + Q) where
  lt := z_add_lt ha.lt hb.lt
  gives := by
    rw [triple_add ha.lt hb.lt]
    exact ha.gives.add hb.gives

/-- **Multiples are computed in the group.** -/
theorem Gives.mul (ha : a.Gives P) (k : Nat) : (a.mul k).Gives (k • P) := by
  have hk : k < 2 ^ (k.log2 + 1) := Nat.lt_log2_self
  have h := gives_ladder Jacobian.mulOnto (fun _ _ _ => rfl) (fun _ _ _ _ => rfl) Gives.double
    Gives.add hk ha gives_zero
  rwa [zero_add] at h

end Jacobian

/-! ### Pairs of coordinates -/

/-- Whether a pair of reduced coordinates is that of a point. -/
structure Point.Gives (q : Point) (P : Group) : Prop where
  x_lt : q.x < p
  y_lt : q.y < p
  eq_some : ∃ h, P = .some (q.x : ZMod p) q.y h

variable {q q' : Point} {a : Jacobian} {P : Group}

theorem Point.Gives.toJacobian (h : q.Gives P) : q.toJacobian.Gives P := by
  obtain ⟨hxy, rfl⟩ := h.eq_some
  refine ⟨prime_p.one_lt, ?_⟩
  simp [Point.toJacobian, Jacobian.triple, Weierstrass.Triple.Gives]

/-- **What is left of a triple is the pair of coordinates**, unless it stands for zero. -/
theorem Jacobian.Gives.toPoint? (h : a.Gives P) (hP : P ≠ 0) :
    ∃ q, a.toPoint? = some q ∧ q.Gives P := by
  have hz : a.z ≠ 0 := h.eq_zero_iff.not.mp hP
  refine ⟨_, if_neg hz, Nat.mod_lt _ p_pos, Nat.mod_lt _ p_pos, ?_⟩
  cases P with
  | zero => exact absurd rfl hP
  | some x y hxy =>
    obtain ⟨hne, hx, hy⟩ := h.gives
    simp only [triple] at hne hx hy
    have hinverse : ((Modular.primeInverse p a.z : Nat) : ZMod p) = (a.z : ZMod p)⁻¹ :=
      Modular.cast_primeInverse prime_p (by decide) a.z
    have hx' : ((a.x * (Modular.primeInverse p a.z * Modular.primeInverse p a.z % p) % p : Nat) :
        ZMod p) = x := by
      simp only [ZMod.natCast_mod, Nat.cast_mul, hinverse, hx]
      field_simp
    have hy' : ((a.y * (Modular.primeInverse p a.z * Modular.primeInverse p a.z % p *
        Modular.primeInverse p a.z % p) % p : Nat) : ZMod p) = y := by
      simp only [ZMod.natCast_mod, Nat.cast_mul, hinverse, hy]
      field_simp
    subst hx' hy'
    exact ⟨hxy, rfl⟩

/-- The zero of the group has no pair of coordinates. -/
theorem Jacobian.Gives.toPoint?_eq_none (h : a.Gives 0) : a.toPoint? = none :=
  if_pos (h.eq_zero_iff.mp rfl)

/-- The discriminant of the curve is not zero, so that it has no singular points. -/
theorem discriminant_ne_zero : (Weierstrass.curve (7 : ZMod p)).Δ ≠ 0 := by
  have hvalue : (Weierstrass.curve (7 : ZMod p)).Δ = -((432 * 49 : Nat) : ZMod p) := by
    simp only [Weierstrass.curve, WeierstrassCurve.Δ, WeierstrassCurve.b₂, WeierstrassCurve.b₄,
      WeierstrassCurve.b₆, WeierstrassCurve.b₈]
    push_cast
    ring
  rw [hvalue, neg_ne_zero, ne_eq, Modular.cast_eq_zero_iff (by decide)]
  decide

/-- **A pair of coordinates that is on the curve is that of a point.** -/
theorem Point.exists_gives (h : q.isOnCurve) : ∃ P, q.Gives P := by
  simp only [Point.isOnCurve, Bool.and_eq_true, decide_eq_true_eq, beq_iff_eq] at h
  obtain ⟨⟨hx, hy⟩, heq⟩ := h
  have hequation : (Weierstrass.curve (7 : ZMod p)).Equation (q.x : ZMod p) q.y := by
    have hcast := congrArg (Nat.cast : Nat → ZMod p) heq
    simp only [rightSide, ZMod.natCast_mod, Nat.cast_mul, Nat.cast_add, Nat.cast_ofNat] at hcast
    rw [WeierstrassCurve.Affine.equation_iff]
    simp only [Weierstrass.curve]
    linear_combination hcast
  rw [WeierstrassCurve.Affine.equation_iff_nonsingular_of_Δ_ne_zero discriminant_ne_zero]
    at hequation
  exact ⟨.some _ _ hequation, hx, hy, hequation, rfl⟩

/-- A point and its opposite have the same first coordinate. -/
theorem Point.Gives.x_eq {Q : Group} (h : q.Gives P) (h' : q'.Gives Q) (hPQ : Q = P ∨ Q = -P) :
    q'.x = q.x := by
  obtain ⟨hxy, rfl⟩ := h.eq_some
  obtain ⟨hxy', rfl⟩ := h'.eq_some
  refine (Modular.cast_inj h'.x_lt h.x_lt).mp ?_
  rcases hPQ with heq | heq
  · exact (WeierstrassCurve.Affine.Point.some.inj heq).1
  · rw [WeierstrassCurve.Affine.Point.neg_some] at heq
    exact (WeierstrassCurve.Affine.Point.some.inj heq).1

theorem Point.Gives.ne_zero (h : q.Gives P) : P ≠ 0 := by
  obtain ⟨hxy, rfl⟩ := h.eq_some
  exact WeierstrassCurve.Affine.Point.some_ne_zero hxy

/-! ### The base point -/

theorem isOnCurve_generator : generator.isOnCurve := by
  decide

/-- The base point in the group. -/
noncomputable def base : Group := (Point.exists_gives isOnCurve_generator).choose

theorem gives_base : generator.Gives base :=
  (Point.exists_gives isOnCurve_generator).choose_spec

/-- **The base point has the order of the group.** -/
theorem order_nsmul_base : order • base = 0 := by
  have hz : (generator.toJacobian.mul order).z = 0 := by decide +kernel
  exact (gives_base.toJacobian.mul order).eq_zero_iff.mpr hz

/-- Multiples of the base point depend on the residue of the factor only. -/
theorem nsmul_base_eq_of_cast_eq {m n : Nat} (h : (m : ZMod order) = n) :
    m • base = n • base := by
  rw [ZMod.natCast_eq_natCast_iff'] at h
  rw [nsmul_eq_mod_nsmul m order_nsmul_base, h, ← nsmul_eq_mod_nsmul n order_nsmul_base]

theorem nsmul_base_eq_neg_of_cast_eq {m n : Nat} (h : (m : ZMod order) = -n) :
    m • base = -(n • base) := by
  have hsum : ((m + n : Nat) : ZMod order) = (0 : Nat) := by
    rw [Nat.cast_add, h, Nat.cast_zero, neg_add_cancel]
  rw [eq_neg_iff_add_eq_zero, ← add_nsmul, nsmul_base_eq_of_cast_eq hsum, zero_nsmul]

/-- **The multiple of the base point that is computed is the one in the group.** -/
theorem gives_of_mulGenerator?_eq_some {k : Nat} {q : Point} (h : mulGenerator? k = some q) :
    q.Gives (k • base) := by
  have hmul := gives_base.toJacobian.mul k
  by_cases hzero : k • base = 0
  · rw [hzero] at hmul
    rw [mulGenerator?, hmul.toPoint?_eq_none] at h
    cases h
  · obtain ⟨q', hq', hgives⟩ := hmul.toPoint? hzero
    rw [mulGenerator?, hq'] at h
    cases h
    exact hgives

end SelfCert.Secp256k1
