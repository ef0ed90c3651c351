import SelfCert.Proofs.Curve.Secp256k1
import SelfCert.Proofs.Number.Digits

/-!
# The byte forms of a point

A point of secp256k1 has a long form with both coordinates, and short ones that leave the second
coordinate to a square root, of which the parity is given. The field has an order of three modulo
four, so a power computes the root (`Secp256k1.sqrt_mul_self`), and no second coordinate is zero, so
the two roots differ in parity. A byte string is read as a point exactly if the point is on the curve
and the byte string is one of its forms (`Secp256k1.ofBytes?_eq_some_iff`).
-/

namespace SelfCert.Secp256k1

/-! ### Square roots -/

/-- What is computed of a square is one of its roots. -/
theorem sqrt_mul_self (y : ZMod p) :
    (y * y) ^ ((p + 1) / 4) = y ∨ (y * y) ^ ((p + 1) / 4) = -y := by
  refine sq_eq_sq_iff_eq_or_eq_neg.mp ?_
  by_cases hy : y = 0
  · rw [hy, mul_zero, zero_pow (by decide)]
  · have hexponent : 2 * ((p + 1) / 4 * 2) = p - 1 + 2 := by decide
    rw [← pow_two, ← pow_mul, ← pow_mul, hexponent, pow_add, ZMod.pow_card_sub_one_eq_one hy,
      one_mul]

/-- The opposite of seven is no cube. -/
theorem cube_add_seven_ne_zero (x : ZMod p) : x ^ 3 + 7 ≠ 0 := by
  intro hzero
  have hseven : ((7 : Nat) : ZMod p) ≠ 0 := by
    rw [ne_eq, Modular.cast_eq_zero_iff (by decide)]
    decide
  have hx : x ≠ 0 := by
    rintro rfl
    exact hseven (by simpa using hzero)
  have hcube : ((p - 7 : Nat) : ZMod p) = x ^ 3 := by
    rw [Modular.cast_modulus_sub (by decide)]
    push_cast
    linear_combination -hzero
  -- A third of the exponent that takes all residues to one would take the cube to one too.
  have hpow : ((Modular.pow p (p - 7) ((p - 1) / 3) : Nat) : ZMod p) = (1 : Nat) := by
    have hexponent : 3 * ((p - 1) / 3) = p - 1 := by decide
    rw [Modular.cast_pow, hcube, ← pow_mul, hexponent, ZMod.pow_card_sub_one_eq_one hx,
      Nat.cast_one]
  have hlt : Modular.pow p (p - 7) ((p - 1) / 3) < p := by
    rw [Modular.pow_eq]
    exact Nat.mod_lt _ p_pos
  have hone := (Modular.cast_inj hlt prime_p.one_lt).mp hpow
  exact absurd hone (by decide +kernel)

/-! ### Points -/

theorem cast_rightSide (x : Nat) : ((rightSide x : Nat) : ZMod p) = (x : ZMod p) ^ 3 + 7 := by
  simp only [rightSide, ZMod.natCast_mod, Nat.cast_add, Nat.cast_mul, Nat.cast_ofNat]
  ring

namespace Point

variable {q : Point}

theorem isOnCurve_iff :
    q.isOnCurve ↔ q.x < p ∧ q.y < p ∧ (q.y : ZMod p) * q.y = (q.x : ZMod p) ^ 3 + 7 := by
  have hlt : rightSide q.x < p := Nat.mod_lt _ p_pos
  have hsquare : q.y * q.y % p < p := Nat.mod_lt _ p_pos
  rw [isOnCurve, Bool.and_eq_true, Bool.and_eq_true, decide_eq_true_eq, decide_eq_true_eq,
    beq_iff_eq, ← Modular.cast_inj hsquare hlt, cast_rightSide, ZMod.natCast_mod, Nat.cast_mul, and_assoc]

/-- No point has the second coordinate zero. -/
theorem y_ne_zero (h : q.isOnCurve) : q.y ≠ 0 := by
  obtain ⟨-, -, heq⟩ := isOnCurve_iff.mp h
  intro hy
  rw [hy, Nat.cast_zero, mul_zero] at heq
  exact cube_add_seven_ne_zero _ heq.symm

end Point

/-- The square root that is computed. -/
def root (x : Nat) : Nat :=
  Modular.pow p (rightSide x) ((p + 1) / 4)

theorem root_lt (x : Nat) : root x < p := by
  rw [root, Modular.pow_eq]
  exact Nat.mod_lt _ p_pos

/-- The root is the second coordinate of a point or that of its opposite. -/
theorem root_eq {q : Point} (h : q.isOnCurve) : root q.x = q.y ∨ root q.x = p - q.y := by
  obtain ⟨-, hy, heq⟩ := Point.isOnCurve_iff.mp h
  have hpos := Nat.pos_of_ne_zero (Point.y_ne_zero h)
  have hroot := sqrt_mul_self (q.y : ZMod p)
  rw [heq, ← cast_rightSide, ← Modular.cast_pow] at hroot
  refine hroot.imp (Modular.cast_inj (root_lt q.x) hy).mp fun hneg => ?_
  rw [← Modular.cast_modulus_sub hy.le] at hneg
  exact (Modular.cast_inj (root_lt q.x) (by omega)).mp hneg

/-- Of a number and its opposite, the one of a given parity. -/
def withParity (y : Nat) (odd : Bool) : Nat :=
  if (y % 2 == 1) == odd then y else (p - y) % p

section WithParity

variable {y : Nat} {odd : Bool}

/-- Opposite numbers differ in parity, since the order of the field is odd. -/
theorem opposite_parity (hy : y < p) : ((p - y) % 2 == 1) = !(y % 2 == 1) := by
  have hodd : p % 2 = 1 := by decide
  rcases Nat.mod_two_eq_zero_or_one y with heven | hodd'
  · rw [heven, show (p - y) % 2 = 1 by omega]
    rfl
  · rw [hodd', show (p - y) % 2 = 0 by omega]
    rfl

/-- It has this parity, unless it is zero. -/
theorem parity_withParity (hy : y < p) (hne : withParity y odd ≠ 0) :
    (withParity y odd % 2 == 1) = odd := by
  unfold withParity at hne ⊢
  split_ifs at hne ⊢ with hparity
  · exact beq_iff_eq.mp hparity
  · have hpos : y ≠ 0 := by
      rintro rfl
      exact hne (Nat.mod_self p)
    rw [Nat.mod_eq_of_lt (show p - y < p by omega), opposite_parity hy, Bool.not_eq]
    exact fun heq => hparity (beq_iff_eq.mpr heq)

theorem withParity_self : withParity y (y % 2 == 1) = y :=
  if_pos (beq_self_eq_true _)

/-- The opposite of the opposite comes back. -/
theorem withParity_opposite (hy : y < p) :
    withParity (p - y) (y % 2 == 1) = y := by
  rw [withParity, opposite_parity hy, Nat.sub_sub_self hy.le, Nat.mod_eq_of_lt hy,
    if_neg (by simp)]

end WithParity

/-- **The lifted point is the one with this first coordinate and this parity of the second.** -/
theorem lift?_eq_some_iff {x : Nat} {odd : Bool} {q : Point} :
    lift? x odd = some q ↔ q.isOnCurve ∧ q.x = x ∧ (q.y % 2 == 1) = odd := by
  have hlift : lift? x odd =
      if x < p then
        if (Point.mk x (withParity (root x) odd)).isOnCurve then
          some ⟨x, withParity (root x) odd⟩
        else none
      else none := rfl
  rw [hlift]
  constructor
  · intro h
    have hlt := root_lt x
    generalize root x = y at h hlt
    split_ifs at h with hx hcurve
    obtain rfl := Option.some.inj h
    exact ⟨hcurve, rfl, parity_withParity hlt (Point.y_ne_zero hcurve)⟩
  · rintro ⟨hcurve, rfl, rfl⟩
    obtain ⟨hx, hlt, -⟩ := Point.isOnCurve_iff.mp hcurve
    have hy : withParity (root q.x) (q.y % 2 == 1) = q.y := by
      rcases root_eq hcurve with hsame | hopposite
      · rw [hsame, withParity_self]
      · rw [hopposite, withParity_opposite hlt]
    have hpoint : Point.mk q.x (withParity (root q.x) (q.y % 2 == 1)) = q :=
      congrArg (Point.mk q.x) hy
    rw [if_pos hx, hpoint, if_pos hcurve]

/-! ### Byte forms -/

namespace Point

/-- The form with the first coordinate and the parity of the second one. -/
def compressed (q : Point) : Bytes :=
  (if q.y % 2 = 1 then 3 else 2) :: Bytes.ofNat 32 q.x

/-- The form with the first coordinate only, which stands for an even second one. -/
def compact (q : Point) : Bytes :=
  5 :: Bytes.ofNat 32 q.x

/-- The byte forms of a point. -/
inductive IsForm : Point → Bytes → Prop where
  | uncompressed (q : Point) : IsForm q q.uncompressed
  | compressed (q : Point) : IsForm q q.compressed
  | compact {q : Point} : q.y % 2 = 0 → IsForm q q.compact

end Point

/-- Bytes spell a coordinate exactly if they are its bytes. -/
theorem toNat_eq_iff {bytes : Bytes} {n : Nat} (hlength : bytes.length = 32) (hn : n < p) :
    Bytes.toNat bytes = n ↔ bytes = Bytes.ofNat 32 n := by
  constructor
  · rintro rfl
    rw [← hlength, Bytes.ofNat_toNat]
  · rintro rfl
    rw [Bytes.toNat_ofNat]
    exact Nat.mod_eq_of_lt (hn.trans (by decide))

/-- A coordinate is lifted to the points that have it as their first one. -/
theorem lift?_toNat_eq_some_iff {coordinate : Bytes} (hlength : coordinate.length = 32) {odd : Bool}
    {q : Point} :
    lift? (Bytes.toNat coordinate) odd = some q ↔
      q.isOnCurve ∧ coordinate = Bytes.ofNat 32 q.x ∧ (q.y % 2 == 1) = odd := by
  rw [lift?_eq_some_iff]
  refine and_congr_right fun hcurve => and_congr_left fun _ => ?_
  rw [eq_comm, toNat_eq_iff hlength (Point.isOnCurve_iff.mp hcurve).1]

/-- How short forms are read. -/
theorem ofBytes?_short {coordinate : Bytes} (hlength : coordinate.length = 32) (mark : UInt8) :
    ofBytes? (mark :: coordinate) =
      if mark = 2 ∨ mark = 5 then lift? (Bytes.toNat coordinate) false
      else if mark = 3 then lift? (Bytes.toNat coordinate) true
      else none :=
  if_pos hlength

/-- What is read as a point is one of its forms. -/
theorem isForm_of_ofBytes?_eq_some {data : Bytes} {q : Point} (h : ofBytes? data = some q) :
    q.isOnCurve ∧ q.IsForm data := by
  cases data with
  | nil => cases h
  | cons mark coordinates =>
    by_cases hlength : coordinates.length = 32
    · rw [ofBytes?_short hlength] at h
      split_ifs at h with hmark hthree
      · obtain ⟨hcurve, rfl, hparity⟩ := (lift?_toNat_eq_some_iff hlength).mp h
        have heven : q.y % 2 ≠ 1 := by simpa using hparity
        refine ⟨hcurve, ?_⟩
        rcases hmark with rfl | rfl
        · have hform := Point.IsForm.compressed q
          rwa [Point.compressed, if_neg heven] at hform
        · exact .compact (by omega)
      · obtain ⟨hcurve, rfl, hparity⟩ := (lift?_toNat_eq_some_iff hlength).mp h
        have hform := Point.IsForm.compressed q
        rw [Point.compressed, if_pos (by simpa using hparity)] at hform
        rw [hthree]
        exact ⟨hcurve, hform⟩
    · rw [ofBytes?, if_neg hlength] at h
      split_ifs at h with hlong
      obtain ⟨hlong, rfl⟩ := hlong
      obtain ⟨hcurve, hq⟩ := Option.ite_none_right_eq_some.mp h
      obtain rfl := Option.some.inj hq
      obtain ⟨hx, hy, -⟩ := Point.isOnCurve_iff.mp hcurve
      have hfirst := (toNat_eq_iff (by rw [List.length_take]; omega) hx).mp rfl
      have hsecond := (toNat_eq_iff (by rw [List.length_drop]; omega) hy).mp rfl
      have hform := Point.IsForm.uncompressed
        ⟨Bytes.toNat (coordinates.take 32), Bytes.toNat (coordinates.drop 32)⟩
      rw [Point.uncompressed, ← hfirst, ← hsecond, List.cons_append,
        List.take_append_drop] at hform
      exact ⟨hcurve, hform⟩

/-- Each form of a point of the curve is read as the point. -/
theorem Point.IsForm.ofBytes?_eq {data : Bytes} {q : Point} (h : q.IsForm data)
    (hcurve : q.isOnCurve) : ofBytes? data = some q := by
  have hlength := Bytes.length_ofNat 32 q.x
  have hlift : lift? (Bytes.toNat (Bytes.ofNat 32 q.x)) (q.y % 2 == 1) = some q :=
    (lift?_toNat_eq_some_iff hlength).mpr ⟨hcurve, rfl, rfl⟩
  cases h with
  | uncompressed => exact ofBytes?_uncompressed hcurve
  | compressed =>
    rcases Nat.mod_two_eq_zero_or_one q.y with heven | hodd
    · rw [heven] at hlift
      rw [Point.compressed, if_neg (by omega), ofBytes?_short hlength]
      exact hlift
    · rw [hodd] at hlift
      rw [Point.compressed, if_pos hodd, ofBytes?_short hlength]
      exact hlift
  | compact heven =>
    rw [heven] at hlift
    rw [Point.compact, ofBytes?_short hlength]
    exact hlift

/-- **A byte string is read as a point exactly if the point is on the curve and the byte string is
one of its forms.** -/
theorem ofBytes?_eq_some_iff {data : Bytes} {q : Point} :
    ofBytes? data = some q ↔ q.isOnCurve ∧ q.IsForm data :=
  ⟨isForm_of_ofBytes?_eq_some, fun h => h.2.ofBytes?_eq h.1⟩

end SelfCert.Secp256k1
