import SelfCert.Key.Ecc
import SelfCert.Proofs.Curve.Secp256k1
import SelfCert.Proofs.Der

/-!
# Signatures over secp256k1 verify

A signature `(r, s)` belongs to a message if `s` times the secret multiplier is the number of the
message plus `r` times the secret number, up to the sign (`Ecdsa.verify_of_cast_mul_eq`). What
signing makes is such a pair, so it verifies, unless one of the two numbers is zero
(`EccPrivateKey.verify_sign_iff`).
-/

namespace SelfCert

namespace Ecdsa

open Secp256k1

instance : Fact order.Prime := ⟨prime_order⟩

theorem order_pos : 0 < order := prime_order.pos

variable {q : Point} {message : Bytes} {sig : Signature} {secret k : Nat}

/-! ### Verifying -/

/-- **What belongs to a message.** The two multiples that are added make the secret multiple of the
base point or its opposite, and both have the first coordinate that `r` was made of. -/
theorem verify_of_cast_mul_eq (hq : q.Gives (secret • base)) {point : Point}
    (hpoint : point.Gives (k • base)) (hr : sig.r = point.x % order)
    (hs : (sig.s : ZMod order) ≠ 0)
    (hmul : (sig.s * k : ZMod order) = messageNumber message + sig.r * secret ∨
      (sig.s * k : ZMod order) = -((messageNumber message : ZMod order) + sig.r * secret)) :
    verify q message sig := by
  obtain ⟨u, hu⟩ : ∃ u, u = messageNumber message * Modular.primeInverse order sig.s % order :=
    ⟨_, rfl⟩
  obtain ⟨v, hv⟩ : ∃ v, v = sig.r * Modular.primeInverse order sig.s % order := ⟨_, rfl⟩
  have hinverse : ((Modular.primeInverse order sig.s : Nat) : ZMod order) =
      (sig.s : ZMod order)⁻¹ := Modular.cast_primeInverse prime_order (by decide) sig.s
  have hsum : ((u + v * secret : Nat) : ZMod order) =
      (sig.s : ZMod order)⁻¹ * (messageNumber message + sig.r * secret) := by
    simp only [hu, hv, Nat.cast_add, Nat.cast_mul, ZMod.natCast_mod, hinverse]
    ring
  have hgives : ((generator.toJacobian.mul u).add (q.toJacobian.mul v)).Gives
      ((u + v * secret) • base) := by
    have hassoc : v • secret • base = (v * secret) • base := by
      rw [mul_comm, mul_nsmul]
    have hadd := (gives_base.toJacobian.mul u).add (hq.toJacobian.mul v)
    rwa [hassoc, ← add_nsmul] at hadd
  have hopposite : (u + v * secret) • base = k • base ∨
      (u + v * secret) • base = -(k • base) := by
    rcases hmul with hmul | hmul
    · refine .inl (nsmul_base_eq_of_cast_eq ?_)
      rw [hsum, ← hmul, inv_mul_cancel_left₀ hs]
    · refine .inr (nsmul_base_eq_neg_of_cast_eq ?_)
      rw [hsum, ← neg_eq_iff_eq_neg.mpr hmul, mul_neg, inv_mul_cancel_left₀ hs]
  have hne : (u + v * secret) • base ≠ 0 := by
    rcases hopposite with h | h
    · rw [h]
      exact hpoint.ne_zero
    · rw [h]
      exact neg_ne_zero.mpr hpoint.ne_zero
  obtain ⟨found, hfound, hfoundGives⟩ := hgives.toPoint? hne
  have hx : found.x = point.x := hpoint.x_eq hfoundGives hopposite
  unfold verify
  simp only [← hu, ← hv, hfound]
  rw [hx, hr]
  exact beq_self_eq_true (point.x % order)

/-! ### Signing -/

/-- The secret multiplier is never zero. -/
theorem isScalar_scalar (tries : Nat) (g : Drbg) : isScalar (g.scalar tries) := by
  induction tries generalizing g with
  | zero =>
    have hone : isScalar 1 := by decide
    exact hone
  | succ tries ih =>
    rw [Drbg.scalar]
    split_ifs with h
    · exact h
    · exact ih _

/-- How a signature is made: of a secret multiplier, and with `s` in the lower half. -/
theorem exists_sign_eq (secret : Nat) (message : Bytes) :
    ∃ k r s : Nat, isScalar k ∧ sign secret message = Signature.lower ⟨r, s⟩ ∧
      (r = 0 ∨ ∃ point, mulGenerator? k = some point ∧ r = point.x % order) ∧
      s = Modular.primeInverse order k *
        ((messageNumber message + r * secret) % order) % order := by
  refine ⟨(Drbg.start secret message).scalar 16, _, _, isScalar_scalar 16 _, rfl, ?_, rfl⟩
  cases mulGenerator? ((Drbg.start secret message).scalar 16) with
  | none => exact .inl rfl
  | some point => exact .inr ⟨point, rfl, rfl⟩

theorem cast_ne_zero_of_isScalar {n : Nat} (h : isScalar n) : (n : ZMod order) ≠ 0 := by
  simp only [isScalar, Bool.and_eq_true, decide_eq_true_eq] at h
  rw [ne_eq, Modular.cast_eq_zero_iff h.2]
  omega

/-- **What is made verifies**, if neither number is zero. -/
theorem verify_sign (hq : q.Gives (secret • base)) (message : Bytes)
    (h : (sign secret message).isInRange) : verify q message (sign secret message) := by
  obtain ⟨k, r, s, hk, hsign, hr, hs⟩ := exists_sign_eq secret message
  rw [hsign] at h ⊢
  have hlower : (Signature.lower ⟨r, s⟩).r = r := by
    unfold Signature.lower
    split_ifs <;> rfl
  obtain ⟨hrange, hrange'⟩ := Bool.and_eq_true_iff.mp h
  rw [hlower] at hrange
  have hk' := cast_ne_zero_of_isScalar hk
  have hcast : (s * k : ZMod order) = messageNumber message + r * secret := by
    rw [hs, ZMod.natCast_mod, Nat.cast_mul, ZMod.natCast_mod,
      Modular.cast_primeInverse prime_order (by decide)]
    push_cast
    field_simp
  obtain ⟨point, hpoint, hr⟩ : ∃ point, mulGenerator? k = some point ∧ r = point.x % order := by
    refine hr.resolve_left ?_
    rintro rfl
    exact cast_ne_zero_of_isScalar hrange Nat.cast_zero
  refine verify_of_cast_mul_eq hq (gives_of_mulGenerator?_eq_some hpoint) (hlower.trans hr)
    (cast_ne_zero_of_isScalar hrange') ?_
  rw [hlower]
  have hless : s ≤ order := by
    rw [hs]
    exact (Nat.mod_lt _ order_pos).le
  unfold Signature.lower
  split_ifs
  · refine .inr ?_
    rw [Modular.cast_modulus_sub hless, neg_mul, hcast]
  · exact .inl hcast

/-! ### Byte forms -/

namespace Signature

/-- A number below the order takes at most 35 bytes. -/
theorem length_integer_le {n : Nat} (h : n < order) : (Der.integer n).length ≤ 35 := by
  have hwidth : Bytes.width n ≤ 32 := Bytes.width_le_of_lt (h.trans (by decide))
  have hcontent := Der.length_integerContent_le n
  rw [Der.integer, Der.length_element_of_lt _ (by omega)]
  omega

/-- A signature is read back from its sequence if its numbers are in range, and not at all
otherwise. -/
theorem ofDer?_toDer (hr : sig.r < order) (hs : sig.s < order) :
    ofDer? sig.toDer = if sig.isInRange then some sig else none := by
  have hlength : ([sig.r, sig.s].map Der.integer).flatten.length ≤ 70 := by
    have hr := length_integer_le hr
    have hs := length_integer_le hs
    simp only [List.map_cons, List.map_nil, List.flatten_cons, List.flatten_nil,
      List.length_append, List.length_nil]
    omega
  have hmax : 70 < Der.maxLength := by decide
  have hnaturals : Der.naturals? 2 ([sig.r, sig.s].map Der.integer).flatten =
      some [sig.r, sig.s] := Der.naturals?_flatten (hlength.trans hmax.le)
  have hwhole : Der.wholeSequence? sig.toDer =
      some ([sig.r, sig.s].map Der.integer).flatten :=
    Der.wholeSequence?_sequence (hlength.trans_lt hmax)
  rw [ofDer?, hwhole, Option.bind_some, hnaturals]
  rfl

/-- With a zero among its numbers, the sequence is too short to be taken for 64 bytes. -/
theorem length_toDer_lt (hr : sig.r < order) (hs : sig.s < order) (h : ¬sig.isInRange) :
    sig.toDer.length < 64 := by
  have hlength := length_integer_le hr
  have hlength' := length_integer_le hs
  have hshort : (Der.integer 0).length = 3 := by decide
  have hzero : sig.r = 0 ∨ sig.s = 0 := by
    simp only [isInRange, isScalar, Bool.and_eq_true, decide_eq_true_eq] at h
    omega
  have hsum : (Der.integer sig.r).length + (Der.integer sig.s).length ≤ 38 := by
    rcases hzero with hzero | hzero
    · rw [hzero] at hlength ⊢
      omega
    · rw [hzero] at hlength' ⊢
      omega
  have hcontent : [Der.integer sig.r, Der.integer sig.s].flatten.length ≤ 38 := by
    simpa using hsum
  rw [toDer, Der.sequence, Der.length_element_of_lt _ (by omega)]
  omega

theorem ofBytes?_toDer (hr : sig.r < order) (hs : sig.s < order) :
    ofBytes? sig.toDer = if sig.isInRange then some sig else none := by
  rw [ofBytes?, ofDer?_toDer hr hs]
  split_ifs with h
  · rfl
  · have hlength := length_toDer_lt hr hs h
    rw [Option.none_or, ofRaw?, if_neg (by omega)]

end Signature

/-- What is made has reduced numbers, and the second one in the lower half. -/
theorem sign_lt (secret : Nat) (message : Bytes) :
    (sign secret message).r < order ∧ (sign secret message).s ≤ order / 2 := by
  obtain ⟨k, r, s, -, hsign, hr, hs⟩ := exists_sign_eq secret message
  have hodd : order = 2 * (order / 2) + 1 := by decide
  have hless : s < order := by
    rw [hs]
    exact Nat.mod_lt _ order_pos
  have hr' : r < order := by
    rcases hr with rfl | ⟨point, -, rfl⟩
    · exact order_pos
    · exact Nat.mod_lt _ order_pos
  rw [hsign]
  unfold Signature.lower
  split_ifs with hhigh
  · exact ⟨hr', by simp only at hhigh ⊢; omega⟩
  · exact ⟨hr', not_lt.mp hhigh⟩

end Ecdsa

namespace EccPrivateKey

/-- **A signature verifies exactly if both of its numbers are in range**, which is to say that
neither is zero. -/
theorem verify_sign_iff (key : EccPrivateKey) (message : Bytes) :
    key.publicKey.verify message (key.sign message) ↔
      (Ecdsa.sign key.secret message).isInRange := by
  obtain ⟨hr, hs⟩ := Ecdsa.sign_lt key.secret message
  have hless : Secp256k1.order / 2 < Secp256k1.order := by decide
  rw [EccPublicKey.verify, sign, Ecdsa.Signature.ofBytes?_toDer hr (hs.trans_lt hless)]
  split_ifs with h
  · have hlower : (Ecdsa.sign key.secret message).lower = Ecdsa.sign key.secret message :=
      if_neg (not_lt.mpr hs)
    have hgives := Secp256k1.gives_of_mulGenerator?_eq_some key.isMultiple
    simp only [hlower]
    exact iff_of_true (Ecdsa.verify_sign hgives message h) h
  · exact iff_of_false not_false h

end EccPrivateKey

end SelfCert
