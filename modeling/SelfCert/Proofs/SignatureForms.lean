import SelfCert.Proofs.Ecdsa

/-!
# The forms of a signature

A signature over secp256k1 is read from the sequence of its two numbers, which has one encoding, or
from 64 bytes (`Ecdsa.Signature.ofBytes?_eq_some_iff`). The numbers `s` and `order - s` are lowered
to the same one. So whether a signature belongs to a message does not depend on which of the two
stands in it, nor on the form it is written in, unless its 64 bytes happen to be a sequence too.
-/

namespace SelfCert

namespace Ecdsa

open Secp256k1

namespace Signature

variable {sig : Signature} {bytes : Bytes}

/-! ### Reading either form -/

theorem isInRange_iff :
    sig.isInRange ↔ (0 < sig.r ∧ sig.r < order) ∧ 0 < sig.s ∧ sig.s < order := by
  simp [isInRange, isScalar]

theorem ofPair?_eq_some_iff {r s : Nat} :
    ofPair? r s = some sig ↔ sig.isInRange ∧ sig = ⟨r, s⟩ := by
  unfold ofPair?
  simp only
  split_ifs with h
  · rw [Option.some.injEq]
    exact ⟨fun heq => ⟨heq ▸ h, heq.symm⟩, fun heq => heq.2.symm⟩
  · refine iff_of_false nofun ?_
    rintro ⟨hrange, rfl⟩
    exact h hrange

/-- **A sequence is only read from its encoding**, and only if the numbers are in range. -/
theorem ofDer?_eq_some_iff : ofDer? bytes = some sig ↔ sig.isInRange ∧ bytes = sig.toDer := by
  constructor
  · intro h
    unfold ofDer? at h
    split at h
    · next r s hread =>
      obtain ⟨hrange, rfl⟩ := ofPair?_eq_some_iff.mp h
      obtain ⟨content, hwhole, hnumbers⟩ := Option.bind_eq_some_iff.mp hread
      refine ⟨hrange, ?_⟩
      rw [Der.eq_of_wholeSequence?_eq_some hwhole, Der.eq_of_naturals?_eq_some hnumbers]
      rfl
    · cases h
  · rintro ⟨hrange, rfl⟩
    obtain ⟨⟨-, hr⟩, -, hs⟩ := isInRange_iff.mp hrange
    rw [ofDer?_toDer hr hs, if_pos hrange]

/-- Below the order, a number is read back from its 32 bytes. -/
theorem toNat_ofNat_of_lt {n : Nat} (h : n < order) : Bytes.toNat (Bytes.ofNat 32 n) = n := by
  rw [Bytes.toNat_ofNat, Nat.mod_eq_of_lt (h.trans (by decide))]

theorem ofRaw?_eq_some_iff : ofRaw? bytes = some sig ↔ sig.isInRange ∧ bytes = sig.toRaw := by
  constructor
  · intro h
    unfold ofRaw? at h
    split_ifs at h with hlength
    obtain ⟨hrange, rfl⟩ := ofPair?_eq_some_iff.mp h
    have htake : (bytes.take 32).length = 32 := List.length_take_of_le (by omega)
    have hdrop : (bytes.drop 32).length = 32 := by rw [List.length_drop, hlength]
    refine ⟨hrange, ?_⟩
    have hfirst := Bytes.ofNat_toNat (bytes.take 32)
    have hsecond := Bytes.ofNat_toNat (bytes.drop 32)
    rw [htake] at hfirst
    rw [hdrop] at hsecond
    rw [toRaw, hfirst, hsecond, List.take_append_drop]
  · rintro ⟨hrange, rfl⟩
    obtain ⟨⟨-, hr⟩, -, hs⟩ := isInRange_iff.mp hrange
    have hlength : sig.toRaw.length = 64 := by simp [toRaw]
    have htake : sig.toRaw.take 32 = Bytes.ofNat 32 sig.r :=
      List.take_left' (Bytes.length_ofNat _ _)
    have hdrop : sig.toRaw.drop 32 = Bytes.ofNat 32 sig.s :=
      List.drop_left' (Bytes.length_ofNat _ _)
    rw [ofRaw?, if_pos hlength, htake, hdrop, toNat_ofNat_of_lt hr, toNat_ofNat_of_lt hs]
    exact ofPair?_eq_some_iff.mpr ⟨hrange, rfl⟩

/-- The halves of the 64 bytes are the two numbers. -/
theorem isScalar_halves (h : sig.isInRange) (hraw : bytes = sig.toRaw) :
    bytes.length = 64 ∧ isScalar (Bytes.toNat (bytes.take 32)) ∧
      isScalar (Bytes.toNat (bytes.drop 32)) := by
  have hread := ofRaw?_eq_some_iff.mpr ⟨h, hraw⟩
  unfold ofRaw? at hread
  split_ifs at hread with hlength
  obtain ⟨-, heq⟩ := ofPair?_eq_some_iff.mp hread
  rw [heq, isInRange, Bool.and_eq_true_iff] at h
  exact ⟨hlength, h⟩

/-- Whether a byte string is the sequence of some signature. -/
def IsSequence (bytes : Bytes) : Prop :=
  ∃ sig : Signature, sig.isInRange ∧ bytes = sig.toDer

theorem ofDer?_eq_none_iff : ofDer? bytes = none ↔ ¬IsSequence bytes := by
  rw [← not_iff_not, not_not, ← ne_eq, Option.ne_none_iff_exists']
  exact exists_congr fun sig => ofDer?_eq_some_iff

/-- **What is read as a signature**: its sequence, and its 64 bytes unless they are the sequence of
a signature themselves. -/
theorem ofBytes?_eq_some_iff : ofBytes? bytes = some sig ↔
    sig.isInRange ∧ (bytes = sig.toDer ∨ ¬IsSequence bytes ∧ bytes = sig.toRaw) := by
  rw [ofBytes?, Option.or_eq_some_iff, ofDer?_eq_some_iff, ofDer?_eq_none_iff, ofRaw?_eq_some_iff]
  tauto

/-! ### The lower half -/

/-- The signature with the opposite of `s`. -/
def opposite (sig : Signature) : Signature := ⟨sig.r, order - sig.s⟩

theorem isInRange_opposite (h : sig.isInRange) : sig.opposite.isInRange := by
  rw [isInRange_iff] at h ⊢
  simp only [opposite]
  omega

/-- **Of a signature and its opposite one is in the lower half**, as the order is odd, and both are
lowered to that one. -/
theorem lower_opposite (h : sig.isInRange) : sig.opposite.lower = sig.lower := by
  obtain ⟨-, hpos, hless⟩ := isInRange_iff.mp h
  have hodd : order = 2 * (order / 2) + 1 := by decide
  unfold lower opposite
  simp only
  split_ifs with hopposite hhigh
  · omega
  · rw [Nat.sub_sub_self hless.le]
  · rfl
  · omega

end Signature

end Ecdsa

namespace EccPublicKey

open Ecdsa

variable (key : EccPublicKey) (message : Bytes) {sig : Signature}

/-- A form that is read as a signature is judged as the signature in the lower half. -/
theorem verify_of_ofBytes?_eq_some {bytes : Bytes} (h : Signature.ofBytes? bytes = some sig) :
    key.verify message bytes = Ecdsa.verify key.point message sig.lower := by
  rw [verify, h]

theorem verify_toDer (h : sig.isInRange) :
    key.verify message sig.toDer = Ecdsa.verify key.point message sig.lower :=
  key.verify_of_ofBytes?_eq_some message (Signature.ofBytes?_eq_some_iff.mpr ⟨h, .inl rfl⟩)

theorem verify_toRaw (h : sig.isInRange) (hraw : ¬Signature.IsSequence sig.toRaw) :
    key.verify message sig.toRaw = Ecdsa.verify key.point message sig.lower :=
  key.verify_of_ofBytes?_eq_some message
    (Signature.ofBytes?_eq_some_iff.mpr ⟨h, .inr ⟨hraw, rfl⟩⟩)

/-- A byte string in neither form is refused. -/
theorem verify_eq_false {bytes : Bytes}
    (h : ∀ sig : Signature, sig.isInRange → bytes ≠ sig.toDer ∧ bytes ≠ sig.toRaw) :
    key.verify message bytes = false := by
  have hnone : Signature.ofBytes? bytes = none := by
    refine Option.eq_none_iff_forall_ne_some.mpr fun sig hsig => ?_
    obtain ⟨hrange, heq | ⟨-, heq⟩⟩ := Signature.ofBytes?_eq_some_iff.mp hsig
    · exact (h sig hrange).1 heq
    · exact (h sig hrange).2 heq
  rw [verify, hnone]

end EccPublicKey

open Ecdsa in
/-- **The forms of a signature agree.** Whether a pair of numbers in range belongs to a message is
decided by the pair in the lower half, and the answer is the same for the sequence of the pair, for
the sequence of its opposite and for the 64 bytes of both. Only where the 64 bytes are the sequence
of some signature, they are read as that one. A byte string that is neither the sequence of a
signature nor 64 bytes of two numbers in range is refused. -/
theorem signature_forms_agree (key : EccPublicKey) (message : Bytes) :
    (∀ sig : Signature, sig.isInRange →
      key.verify message sig.toDer = Ecdsa.verify key.point message sig.lower ∧
      key.verify message sig.opposite.toDer = key.verify message sig.toDer ∧
      ∀ form ∈ [sig.toRaw, sig.opposite.toRaw],
        (¬Signature.IsSequence form →
          key.verify message form = key.verify message sig.toDer) ∧
        ∀ other : Signature, other.isInRange → form = other.toDer →
          key.verify message form = Ecdsa.verify key.point message other.lower) ∧
    ∀ bytes : Bytes, ¬Signature.IsSequence bytes →
      ¬(bytes.length = 64 ∧ isScalar (Bytes.toNat (bytes.take 32)) ∧
        isScalar (Bytes.toNat (bytes.drop 32))) →
      key.verify message bytes = false := by
  refine ⟨fun sig hrange => ?_, fun bytes hder hraw => ?_⟩
  · have hopposite := Signature.isInRange_opposite hrange
    have hder := key.verify_toDer message hrange
    refine ⟨hder, ?_, fun form hform => ⟨fun hnot => ?_, ?_⟩⟩
    · rw [hder, key.verify_toDer message hopposite, Signature.lower_opposite hrange]
    · rw [hder]
      simp only [List.mem_cons, List.not_mem_nil, or_false] at hform
      rcases hform with rfl | rfl
      · exact key.verify_toRaw message hrange hnot
      · rw [key.verify_toRaw message hopposite hnot, Signature.lower_opposite hrange]
    · rintro other hother rfl
      exact key.verify_toDer message hother
  · refine key.verify_eq_false message fun sig hrange => ⟨?_, ?_⟩
    · exact fun heq => hder ⟨sig, hrange, heq⟩
    · exact fun heq => hraw (Signature.isScalar_halves hrange heq)

open Ecdsa in
/-- The statement for the base point and a pair whose 64 bytes are the sequence of another pair. The
64 bytes of its opposite are not, and 64 zeros are nothing. -/
theorem signature_forms_agree_overlap :
    ∃ (key : EccPublicKey) (sig other : Signature), sig.isInRange ∧ other.isInRange ∧
      sig ≠ other ∧ sig.toRaw = other.toDer ∧ ¬Signature.IsSequence sig.opposite.toRaw ∧
      key.verify [] sig.toRaw = Ecdsa.verify key.point [] other.lower ∧
      key.verify [] sig.opposite.toRaw = key.verify [] sig.toDer ∧
      ¬Signature.IsSequence (List.replicate 64 0) ∧
      key.verify [] (List.replicate 64 0) = false := by
  let key : EccPublicKey := ⟨Secp256k1.generator.uncompressed, Secp256k1.generator,
    Secp256k1.ofBytes?_uncompressed (by decide)⟩
  let other : Signature := ⟨2 ^ 224, 2 ^ 224⟩
  let sig : Signature := ⟨0x303e021d01 * 2 ^ 216, 0x21d01 * 2 ^ 224⟩
  have hsig : sig.isInRange := by decide
  have hother : other.isInRange := by decide
  have hraw : sig.toRaw = other.toDer := by decide +kernel
  have hopposite : ¬Signature.IsSequence sig.opposite.toRaw :=
    Signature.ofDer?_eq_none_iff.mp (by decide +kernel)
  have hzeros : ¬Signature.IsSequence (List.replicate 64 0) :=
    Signature.ofDer?_eq_none_iff.mp (by decide)
  obtain ⟨hread, hrefused⟩ := signature_forms_agree key []
  obtain ⟨-, -, hforms⟩ := hread sig hsig
  exact ⟨key, sig, other, hsig, hother, by decide, hraw, hopposite,
    (hforms _ List.mem_cons_self).2 other hother hraw,
    (hforms _ (List.mem_cons_of_mem _ List.mem_cons_self)).1 hopposite, hzeros,
    hrefused _ hzeros (by decide)⟩

end SelfCert
