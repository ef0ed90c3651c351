import Mathlib.NumberTheory.LegendreSymbol.Basic
import SelfCert.Key.Ed25519
import SelfCert.Proofs.Curve.Edwards
import SelfCert.Proofs.Curve.Ladder
import SelfCert.Proofs.Curve.Primes
import SelfCert.Proofs.Number.Residue

/-!
# Multiples of points of the Edwards curve

The points over the field of residues form a group. Extended coordinates stand for its points
(`Ed25519.Point.Gives`), and adding and multiplying them is done in the group
(`Ed25519.Point.Gives.mul`). The bytes of a point depend on the point of the group only, and are
read as that point again (`Ed25519.gives_of_ofBytes?_bytes`).
-/

namespace SelfCert.Ed25519

instance : Fact p.Prime := ⟨prime_p⟩

theorem p_pos : 0 < p := prime_p.pos

theorem rootOfMinusOne_mul_self : (rootOfMinusOne : ZMod p) * rootOfMinusOne = -1 := by
  have h : rootOfMinusOne * rootOfMinusOne % p = p - 1 := by decide +kernel
  rw [← Nat.cast_mul, ← ZMod.natCast_mod, h, Modular.cast_modulus_sub p_pos, Nat.cast_one]

theorem d_lt : d < p := Nat.mod_lt _ p_pos

/-- The constant of the curve is no square, by Euler's criterion. -/
theorem not_isSquare_d : ¬IsSquare (d : ZMod p) := by
  have hpow : Modular.pow p d (p / 2) = p - 1 := by decide +kernel
  have hd : (d : ZMod p) ≠ 0 := by
    rw [ne_eq, Modular.cast_eq_zero_iff d_lt]
    decide +kernel
  have hone : ((p - 1 : Nat) : ZMod p) ≠ (1 : Nat) :=
    (Modular.cast_inj (by decide) (by decide)).not.mpr (by decide)
  rwa [ZMod.euler_criterion p hd, ← Modular.cast_pow, hpow, ← Nat.cast_one]

theorem two_ne_zero : (2 : ZMod p) ≠ 0 := by
  rw [← Nat.cast_ofNat, ne_eq, Modular.cast_eq_zero_iff (by decide)]
  decide

theorem isSquare_neg_one : IsSquare (-1 : ZMod p) :=
  ⟨rootOfMinusOne, rootOfMinusOne_mul_self.symm⟩

/-- The curve over the field of residues. -/
def curve : Edwards.Curve (ZMod p) where
  d := d
  two_ne_zero := two_ne_zero
  isSquare_neg_one := isSquare_neg_one
  not_isSquare := not_isSquare_d

/-- The group of points. -/
abbrev Group := Edwards.Point curve

/-- Whether coordinates stand for a point. Those that are subtracted have to be reduced. -/
structure Point.Gives (a : Point) (P : Group) : Prop where
  x_lt : a.x < p
  t_lt : a.t < p
  z_ne_zero : (a.z : ZMod p) ≠ 0
  x_eq : (a.x : ZMod p) = P.x * a.z
  y_eq : (a.y : ZMod p) = P.y * a.z
  t_eq : (a.t : ZMod p) = P.x * P.y * a.z

variable {a b : Point} {P Q : Group}

/-- A point with given affine coordinates. -/
theorem gives_ofAffine {x y : Nat} (hlt : x < p) (hx : P.x = x) (hy : P.y = y) :
    (Point.ofAffine x y).Gives P where
  x_lt := hlt
  t_lt := Nat.mod_lt _ p_pos
  z_ne_zero := by simp [Point.ofAffine]
  x_eq := by simp [Point.ofAffine, hx]
  y_eq := by simp [Point.ofAffine, hy]
  t_eq := by simp [Point.ofAffine, hx, hy]

theorem gives_zero : zero.Gives 0 :=
  gives_ofAffine p_pos (by simp) (by simp)

/-- The four factors of a sum: two fractions, each up to a factor of its own. -/
theorem gives_add_of_factors {e f g h : Nat} {s s' : ZMod p} (hs : s ≠ 0) (hs' : s' ≠ 0)
    (he : (e : ZMod p) = s * (P.x * Q.y + Q.x * P.y))
    (hg : (g : ZMod p) = s * (1 + P.product Q))
    (hh : (h : ZMod p) = s' * (P.y * Q.y + P.x * Q.x))
    (hf : (f : ZMod p) = s' * (1 - P.product Q)) :
    Point.Gives ⟨e * f % p, g * h % p, f * g % p, e * h % p⟩ (P + Q) := by
  have hplus := P.one_add_ne_zero Q
  have hminus := P.one_sub_ne_zero Q
  refine ⟨Nat.mod_lt _ p_pos, Nat.mod_lt _ p_pos, ?_, ?_, ?_, ?_⟩
  · simp only [ZMod.natCast_mod, Nat.cast_mul, hf, hg]
    exact mul_ne_zero (mul_ne_zero hs' hminus) (mul_ne_zero hs hplus)
  · simp only [ZMod.natCast_mod, Nat.cast_mul, he, hf, hg, Edwards.Point.x_add]
    field_simp
  · simp only [ZMod.natCast_mod, Nat.cast_mul, hf, hg, hh, Edwards.Point.y_add]
    field_simp
  · simp only [ZMod.natCast_mod, Nat.cast_mul, he, hf, hg, hh, Edwards.Point.x_add,
      Edwards.Point.y_add]
    field_simp

namespace Point.Gives

theorem add (ha : a.Gives P) (hb : b.Gives Q) : (a.add b).Gives (P + Q) := by
  have hs : (2 * a.z * b.z : ZMod p) ≠ 0 :=
    mul_ne_zero (mul_ne_zero two_ne_zero ha.z_ne_zero) hb.z_ne_zero
  have hd : curve.d = d := rfl
  refine gives_add_of_factors hs hs ?_ ?_ ?_ ?_ <;>
    simp only [Modular.cast_sub_mod p_pos, Modular.cast_sub ha.x_lt.le, Modular.cast_sub hb.x_lt.le, ZMod.natCast_mod,
      Nat.cast_mul, Nat.cast_add, Nat.cast_ofNat, ha.x_eq, ha.y_eq, ha.t_eq, hb.x_eq, hb.y_eq,
      hb.t_eq, Edwards.Point.product, hd] <;>
    ring

theorem double (ha : a.Gives P) : a.double.Gives (P + P) := by
  have hs : (-a.z ^ 2 : ZMod p) ≠ 0 := neg_ne_zero.mpr (pow_ne_zero 2 ha.z_ne_zero)
  have hs' : (a.z ^ 2 : ZMod p) ≠ 0 := pow_ne_zero 2 ha.z_ne_zero
  have hP := P.equation
  refine gives_add_of_factors hs hs' ?_ ?_ ?_ ?_ <;>
    simp only [Modular.cast_sub_mod p_pos, ZMod.natCast_mod, Nat.cast_mul, Nat.cast_add, Nat.cast_ofNat, ha.x_eq,
      ha.y_eq, Edwards.Point.product]
  · ring
  · linear_combination -(a.z ^ 2 : ZMod p) * hP
  · ring
  · linear_combination -(a.z ^ 2 : ZMod p) * hP

theorem neg (ha : a.Gives P) : a.neg.Gives (-P) where
  x_lt := Nat.mod_lt _ p_pos
  t_lt := Nat.mod_lt _ p_pos
  z_ne_zero := ha.z_ne_zero
  x_eq := by
    simp only [Point.neg, ZMod.natCast_mod, Modular.cast_modulus_sub ha.x_lt.le, ha.x_eq,
      Edwards.Point.x_neg, neg_mul]
  y_eq := ha.y_eq
  t_eq := by
    simp only [Point.neg, ZMod.natCast_mod, Modular.cast_modulus_sub ha.t_lt.le, ha.t_eq,
      Edwards.Point.x_neg, Edwards.Point.y_neg, neg_mul]

/-- **Multiples are computed in the group.** -/
theorem mul (ha : a.Gives P) (k : Nat) : (a.mul k).Gives (k • P) := by
  have hk : k < 2 ^ (k.log2 + 1) := Nat.lt_log2_self
  have h := gives_ladder Point.mulOnto (fun _ _ _ => rfl) (fun _ _ _ _ => rfl) double add hk ha
    gives_zero
  rwa [zero_add] at h

end Point.Gives

/-! ### Byte form -/

/-- The bytes of a point of the group. -/
def bytes (P : Group) : Bytes :=
  Bytes.ofNatLittle 32 (P.y.val + P.x.val % 2 * 2 ^ 255)

/-- A quotient that is computed is reduced and is the quotient. -/
theorem val_eq_of_cast_eq {n z : Nat} {x : ZMod p} (hz : (z : ZMod p) ≠ 0)
    (h : (n : ZMod p) = x * z) : n * Modular.primeInverse p z % p = x.val := by
  have hx : x = (n * Modular.primeInverse p z : Nat) := by
    rw [Nat.cast_mul, Modular.cast_primeInverse prime_p (by decide), h, mul_inv_cancel_right₀ hz]
  rw [hx, ZMod.val_natCast]

/-- **The bytes depend on the point of the group only.** -/
theorem Point.Gives.toBytes (ha : a.Gives P) : a.toBytes = bytes P := by
  rw [Point.toBytes, bytes]
  simp only [val_eq_of_cast_eq ha.z_ne_zero ha.x_eq, val_eq_of_cast_eq ha.z_ne_zero ha.y_eq]

theorem length_bytes (P : Group) : (bytes P).length = 32 :=
  Bytes.length_ofNatLittle _ _

/-- A root that is found is one. -/
theorem mul_sq_of_rootOfRatio?_eq_some {u v root : Nat} (hu : u < p)
    (h : rootOfRatio? u v = some root) : root < p ∧ (v : ZMod p) * root ^ 2 = u := by
  have hcheck : ∀ n : Nat, ((v * (n * n % p) % p : Nat) : ZMod p) = v * n ^ 2 := fun n => by
    rw [ZMod.natCast_mod, Nat.cast_mul, ZMod.natCast_mod, Nat.cast_mul, sq]
  unfold rootOfRatio? at h
  simp only at h
  generalize hcandidate : u * (v * v % p * v % p) % p *
    Modular.pow p (u * (v * v % p * v % p * (v * v % p * v % p) % p * v % p)) ((p - 5) / 8) % p =
      candidate at h
  split_ifs at h with hplus hminus
  · cases h
    exact ⟨hcandidate ▸ Nat.mod_lt _ p_pos, by rw [← hcheck, hplus]⟩
  · -- The candidate is a root of the opposite.
    obtain rfl := Option.some.inj h
    have hopposite := hcheck candidate
    rw [hminus, ZMod.natCast_mod, Modular.cast_modulus_sub hu.le] at hopposite
    refine ⟨Nat.mod_lt _ p_pos, ?_⟩
    rw [ZMod.natCast_mod, Nat.cast_mul, mul_pow, sq (rootOfMinusOne : ZMod p),
      rootOfMinusOne_mul_self]
    linear_combination hopposite

/-- What a reading takes for the second coordinate. -/
def readY (bytes : Bytes) : Nat := bytes.toNatLittle % 2 ^ 255 % p

/-- **A point that is read** has one of the two first coordinates that its second one leaves. -/
theorem exists_root_of_ofBytes?_eq_some {bytes : Bytes} (h : Point.ofBytes? bytes = some a) :
    ∃ root < p, (curve.d * (readY bytes : ZMod p) ^ 2 + 1) * root ^ 2 = (readY bytes) ^ 2 - 1 ∧
      a = .ofAffine (if root % 2 = bytes.toNatLittle / 2 ^ 255 then root else (p - root) % p)
        (readY bytes) := by
  unfold Point.ofBytes? at h
  simp only [Option.ite_none_right_eq_some] at h
  obtain ⟨root, hroot, rfl⟩ := Option.map_eq_some_iff.mp h.2
  obtain ⟨hlt, hvalue⟩ := mul_sq_of_rootOfRatio?_eq_some (Modular.sub_lt p_pos _ _) hroot
  refine ⟨root, hlt, ?_, rfl⟩
  have hone : 1 ≤ p := p_pos
  rw [Modular.cast_sub hone] at hvalue
  simp only [ZMod.natCast_mod, Nat.cast_mul, Nat.cast_add, Nat.cast_one] at hvalue
  simp only [readY, curve, ZMod.natCast_mod]
  linear_combination hvalue

/-- **What is read stands for a point.** -/
theorem exists_gives_of_ofBytes?_eq_some {bytes : Bytes} (h : Point.ofBytes? bytes = some a) :
    ∃ P : Group, a.Gives P := by
  obtain ⟨root, hlt, hroot, rfl⟩ := exists_root_of_ofBytes?_eq_some h
  split_ifs
  · exact ⟨⟨root, readY bytes, by linear_combination -hroot⟩, gives_ofAffine hlt rfl rfl⟩
  · have hneg : (((p - root) % p : Nat) : ZMod p) = -root := by
      rw [ZMod.natCast_mod, Modular.cast_modulus_sub hlt.le]
    exact ⟨⟨-root, readY bytes, by linear_combination -hroot⟩,
      gives_ofAffine (Nat.mod_lt _ p_pos) hneg.symm rfl⟩

/-- A first coordinate is one of two, and their parities differ unless they are zero. -/
theorem eq_of_sq_eq {root : Nat} {x : ZMod p} (hlt : root < p) (h : (root : ZMod p) ^ 2 = x ^ 2) :
    (if root % 2 = x.val % 2 then root else (p - root) % p) = x.val := by
  have hodd : p % 2 = 1 := by decide
  have hx := x.val_lt
  obtain heq | hneg := sq_eq_sq_iff_eq_or_eq_neg.mp h
  · rw [← heq, ZMod.val_natCast, Nat.mod_eq_of_lt hlt, if_pos rfl]
  · have hx' : x = ((p - root : Nat) : ZMod p) := by
      rw [Modular.cast_modulus_sub hlt.le, hneg, neg_neg]
    rw [hx', ZMod.val_natCast]
    rcases Nat.eq_zero_or_pos root with rfl | hpos
    · simp
    · rw [Nat.mod_eq_of_lt (by omega : p - root < p), if_neg (by omega)]

theorem toNatLittle_bytes (P : Group) :
    (bytes P).toNatLittle = P.y.val + P.x.val % 2 * 2 ^ 255 := by
  have hy : P.y.val < 2 ^ 255 := P.y.val_lt.trans_le (by decide)
  have hfit : P.y.val + P.x.val % 2 * 2 ^ 255 < 256 ^ 32 := by omega
  rw [bytes, Bytes.toNatLittle_ofNatLittle, Nat.mod_eq_of_lt hfit]

theorem readY_bytes (P : Group) : readY (bytes P) = P.y.val := by
  have hy : P.y.val < 2 ^ 255 := P.y.val_lt.trans_le (by decide)
  rw [readY, toNatLittle_bytes, Nat.add_mul_mod_self_right, Nat.mod_eq_of_lt hy,
    Nat.mod_eq_of_lt P.y.val_lt]

/-- The factor that the second coordinate leaves to the square of the first one is not zero. -/
theorem mul_sq_add_one_ne_zero (y : ZMod p) : curve.d * y ^ 2 + 1 ≠ 0 := by
  intro h
  have hy : y ≠ 0 := by
    rintro rfl
    simp at h
  refine curve.not_isSquare_neg ⟨y⁻¹, ?_⟩
  field_simp
  linear_combination -h

/-- **Bytes of a point are read as that point.** -/
theorem gives_of_ofBytes?_bytes (h : Point.ofBytes? (bytes P) = some a) : a.Gives P := by
  obtain ⟨root, hlt, hroot, rfl⟩ := exists_root_of_ofBytes?_eq_some h
  have hy : (P.y.val : ZMod p) = P.y := ZMod.natCast_zmod_val P.y
  have hx : (P.x.val : ZMod p) = P.x := ZMod.natCast_zmod_val P.x
  have hyval : P.y.val < 2 ^ 255 := P.y.val_lt.trans_le (by decide)
  have hparity : (bytes P).toNatLittle / 2 ^ 255 = P.x.val % 2 := by
    rw [toNatLittle_bytes, Nat.add_mul_div_right _ _ (by decide), Nat.div_eq_of_lt hyval,
      Nat.zero_add]
  rw [readY_bytes, hy] at hroot
  have hsq : (root : ZMod p) ^ 2 = P.x ^ 2 := by
    refine mul_left_cancel₀ (mul_sq_add_one_ne_zero P.y) ?_
    linear_combination hroot + P.equation
  rw [readY_bytes, hparity, eq_of_sq_eq hlt hsq]
  exact gives_ofAffine P.x.val_lt hx.symm hy.symm

/-! ### The base point -/

theorem exists_gives_base : ∃ P : Group, base.Gives P := by
  rw [base]
  generalize Bytes.ofNatLittle 32 _ = encoded
  cases h : Point.ofBytes? encoded with
  | none => exact ⟨0, gives_zero⟩
  | some a => exact exists_gives_of_ofBytes?_eq_some h

/-- The base point in the group. -/
noncomputable def basePoint : Group := exists_gives_base.choose

theorem gives_base : base.Gives basePoint := exists_gives_base.choose_spec

/-- A point whose coordinates are those of zero is zero. -/
theorem Point.Gives.eq_zero (ha : a.Gives P) (hx : a.x = 0) (hy : a.y = a.z) : P = 0 := by
  have hx' := ha.x_eq
  have hy' := ha.y_eq
  rw [hx, Nat.cast_zero, eq_comm, mul_eq_zero_iff_right ha.z_ne_zero] at hx'
  rw [hy, eq_comm, mul_eq_right₀ ha.z_ne_zero] at hy'
  exact Edwards.Point.ext hx' hy'

/-- **The base point has the order of the group of multipliers.** -/
theorem order_nsmul_basePoint : order • basePoint = 0 :=
  (gives_base.mul order).eq_zero (by decide +kernel) (by decide +kernel)

theorem mod_nsmul_basePoint (n : Nat) : (n % order) • basePoint = n • basePoint :=
  (nsmul_eq_mod_nsmul n order_nsmul_basePoint).symm

/-! ### Signatures -/

theorem publicOfSeed_eq (seed : Bytes) :
    publicOfSeed seed = bytes ((Secret.ofSeed seed).scalar • basePoint) :=
  (gives_base.mul _).toBytes

/-- The number of a signature takes the multiple of the public point away from its own multiple, and
leaves the point of the signature. -/
theorem toBytes_add_neg_mul {scalar r k : Nat} (ha : a.Gives (scalar • basePoint)) :
    ((base.mul ((r + k * scalar) % order)).add (a.neg.mul k)).toBytes = (base.mul r).toBytes := by
  have hgroup : ((r + k * scalar) % order) • basePoint + k • -(scalar • basePoint) =
      r • basePoint := by
    rw [mod_nsmul_basePoint, add_nsmul, mul_nsmul', smul_neg, add_neg_cancel_right]
  rw [((gives_base.mul _).add (ha.neg.mul k)).toBytes, (gives_base.mul r).toBytes, hgroup]

/-- **A signature verifies under the public point of its seed**, if the point can be read. -/
theorem verify_sign {seed : Bytes} (h : (Point.ofBytes? (publicOfSeed seed)).isSome)
    (message : Bytes) : verify (publicOfSeed seed) message (sign seed message) := by
  obtain ⟨a, ha⟩ := Option.isSome_iff_exists.mp h
  have hgives : a.Gives ((Secret.ofSeed seed).scalar • basePoint) :=
    gives_of_ofBytes?_bytes (publicOfSeed_eq seed ▸ ha)
  have hlength : ∀ n, (base.mul n).toBytes.length = 32 := fun n => by
    rw [(gives_base.mul n).toBytes, length_bytes]
  have horder : ∀ n, n % order % 256 ^ 32 = n % order := fun n =>
    Nat.mod_eq_of_lt ((Nat.mod_lt n (by decide)).trans (by decide))
  have hless : ∀ n, n % order < order := fun n => Nat.mod_lt n (by decide)
  rw [verify, ha]
  simp only [sign, List.length_append, hlength, Bytes.length_ofNatLittle,
    List.take_left' (hlength _), List.drop_left' (hlength _), Bytes.toNatLittle_ofNatLittle, horder,
    hless, toBytes_add_neg_mul hgives]
  simp

end SelfCert.Ed25519

namespace SelfCert

/-- **A signature of a key verifies.** -/
theorem Ed25519PrivateKey.verify_sign (key : Ed25519PrivateKey) (message : Bytes) :
    key.publicKey.verify message (key.sign message) := by
  have hpoint := key.publicKey.isPoint
  rw [key.isPublic] at hpoint
  rw [Ed25519PublicKey.verify, key.isPublic, sign]
  exact Ed25519.verify_sign hpoint message

end SelfCert
