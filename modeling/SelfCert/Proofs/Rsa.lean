import Mathlib.FieldTheory.Finite.Basic
import SelfCert.Proofs.Number.Digits
import SelfCert.Proofs.Number.Modular
import SelfCert.Rsa.Basic

/-!
# RSA signatures verify

If the two factors of a private key are prime, raising to the secret exponent, done modulo each
factor and put together, is undone by raising to the public one (`Rsa.PrivateKey.pow_power`). The
padded digest is below the modulus, so every signature of such a key verifies, as long as the
padding fits at all (`Rsa.PrivateKey.verify_sign`). Of other keys those signatures verify that are
not empty (`Rsa.PrivateKey.verify_sign_iff`).
-/

namespace SelfCert.Rsa

/-! ### Padding -/

/-- The digest mark and a digest. -/
private theorem length_tail (message : Bytes) :
    (digestMark ++ Sha256.digest message).length = 51 := by
  rw [List.length_append, Sha256.length_digest]
  rfl

/-- Where the padding fits, it fills the size of the modulus and leaves its first byte empty. -/
theorem exists_padded?_eq_some {size : Nat} (hsize : 62 ≤ size) (message : Bytes) :
    ∃ padded, padded? size message = some padded ∧ padded.length = size ∧
      Bytes.toNat padded < 256 ^ (size - 1) := by
  have htail := length_tail message
  refine ⟨_, if_neg (by rw [htail]; omega), ?_, ?_⟩
  · simp only [List.length_cons, List.length_append, List.length_replicate, htail]
    omega
  · let rest := 0x01 :: List.replicate (size - (digestMark ++ Sha256.digest message).length - 3)
      0xff ++ 0x00 :: (digestMark ++ Sha256.digest message)
    have hrest : rest.length = size - 1 := by
      simp only [rest, List.length_cons, List.length_append, List.length_replicate, htail]
      omega
    calc Bytes.toNat (0x00 :: rest) = Bytes.toNat rest := by rw [Bytes.toNat_cons]; simp
      _ < 256 ^ rest.length := Bytes.toNat_lt rest
      _ = 256 ^ (size - 1) := by rw [hrest]

/-! ### Powers -/

/-- A power whose exponent leaves one modulo `p - 1` is the number itself modulo the prime `p`. -/
theorem pow_modEq_self {p : Nat} (hp : p.Prime) {k : Nat} (hk : k % (p - 1) = 1) (n : Nat) :
    n ^ k ≡ n [MOD p] := by
  have : Fact p.Prime := ⟨hp⟩
  rw [← ZMod.natCast_eq_natCast_iff, Nat.cast_pow, ← Nat.mod_add_div k (p - 1), hk, pow_add,
    pow_one, pow_mul]
  by_cases hn : (n : ZMod p) = 0
  · rw [hn, zero_mul]
  · rw [ZMod.pow_card_sub_one_eq_one hn, one_pow, mul_one]

/-- The two exponents undo each other modulo a prime, also if the secret one is reduced for it. -/
theorem pow_modEq_of_cancels {p : Nat} (hp : p.Prime) {e d : Nat} (hcancels : e * d % (p - 1) = 1)
    {n x : Nat} (hx : x ≡ n ^ (d % (p - 1)) [MOD p]) : x ^ e ≡ n [MOD p] := by
  have hreduced : d % (p - 1) * e % (p - 1) = 1 := by
    rw [Nat.mod_mul_mod, Nat.mul_comm, hcancels]
  calc x ^ e ≡ (n ^ (d % (p - 1))) ^ e [MOD p] := hx.pow e
    _ = n ^ (d % (p - 1) * e) := (pow_mul _ _ _).symm
    _ ≡ n [MOD p] := pow_modEq_self hp hreduced n

namespace PrivateKey

/-- What makes the two exponents of a private key undo each other. -/
structure HasPrimeFactors (key : PrivateKey) : Prop where
  first : key.first.Prime
  second : key.second.Prime
  modulus : key.first * key.second = key.publicKey.modulus
  cancelsFirst : key.publicKey.exponent * key.secret % (key.first - 1) = 1
  cancelsSecond : key.publicKey.exponent * key.secret % (key.second - 1) = 1
  coefficient : key.second * key.coefficient ≡ 1 [MOD key.first]

/-- Whether the factors of a private key make its modulus, which is not zero. -/
structure IsSplit (key : PrivateKey) : Prop where
  modulus : key.first * key.second = key.publicKey.modulus
  ne_zero : key.publicKey.modulus ≠ 0

variable {key : PrivateKey}

theorem HasPrimeFactors.isSplit (h : key.HasPrimeFactors) : key.IsSplit where
  modulus := h.modulus
  ne_zero := by
    rw [← h.modulus]
    exact Nat.mul_ne_zero h.first.ne_zero h.second.ne_zero

/-- The power is put together from the powers modulo the factors. -/
theorem power_modEq_first (h : key.HasPrimeFactors) (n : Nat) :
    key.power n ≡ n ^ key.reduced key.first [MOD key.first] := by
  have hpos : 0 < key.first := h.first.pos
  let m := Modular.pow key.first n (key.reduced key.first)
  let m' := Modular.pow key.second n (key.reduced key.second)
  let difference := (m + (key.first - m' % key.first)) % key.first
  have hm : m ≡ n ^ key.reduced key.first [MOD key.first] := by
    rw [show m = _ from Modular.pow_eq _ _ _]
    exact Nat.mod_modEq _ _
  -- The difference of the two powers is taken without going below zero.
  have hnegative : key.first - m' % key.first + m' ≡ 0 [MOD key.first] := by
    have hmod : m' % key.first < key.first := Nat.mod_lt _ hpos
    have hdiv := Nat.mod_add_div m' key.first
    refine Nat.modEq_zero_iff_dvd.mpr ⟨1 + m' / key.first, ?_⟩
    rw [mul_add, mul_one]
    omega
  have hdifference : difference + m' ≡ m [MOD key.first] :=
    calc difference + m' ≡ m + (key.first - m' % key.first) + m' [MOD key.first] :=
        (Nat.mod_modEq _ _).add_right _
      _ = m + (key.first - m' % key.first + m') := Nat.add_assoc _ _ _
      _ ≡ m + 0 [MOD key.first] := hnegative.add_left _
  calc key.power n
      = difference * key.coefficient % key.first * key.second + m' := rfl
    _ ≡ difference * key.coefficient * key.second + m' [MOD key.first] :=
        ((Nat.mod_modEq _ _).mul_right _).add_right _
    _ = difference * (key.second * key.coefficient) + m' := by ring
    _ ≡ difference * 1 + m' [MOD key.first] := (h.coefficient.mul_left _).add_right _
    _ = difference + m' := by rw [mul_one]
    _ ≡ m [MOD key.first] := hdifference
    _ ≡ n ^ key.reduced key.first [MOD key.first] := hm

theorem power_modEq_second (key : PrivateKey) (n : Nat) :
    key.power n ≡ n ^ key.reduced key.second [MOD key.second] := by
  have hm : Modular.pow key.second n (key.reduced key.second) ≡
      n ^ key.reduced key.second [MOD key.second] := by
    rw [Modular.pow_eq]
    exact Nat.mod_modEq _ _
  exact (Nat.ModEq.add_right _ (Nat.modEq_zero_iff_dvd.mpr (dvd_mul_left _ _))).trans
    (by rwa [Nat.zero_add])

theorem HasPrimeFactors.coprime (h : key.HasPrimeFactors) : key.first.Coprime key.second := by
  refine (Nat.coprime_primes h.first h.second).mpr fun heq => ?_
  -- A factor has no inverse modulo itself.
  have hzero : key.second * key.coefficient ≡ 0 [MOD key.first] :=
    Nat.modEq_zero_iff_dvd.mpr (heq ▸ dvd_mul_right _ _)
  have hdvd : key.first ∣ 1 := Nat.modEq_zero_iff_dvd.mp (h.coefficient.symm.trans hzero)
  exact h.first.one_lt.ne' (Nat.dvd_one.mp hdvd)

/-- **The public exponent undoes the secret one.** -/
theorem pow_power (h : key.HasPrimeFactors) {n : Nat} (hn : n < key.publicKey.modulus) :
    Modular.pow key.publicKey.modulus (key.power n) key.publicKey.exponent = n := by
  have hfirst : key.power n ^ key.publicKey.exponent ≡ n [MOD key.first] :=
    pow_modEq_of_cancels h.first h.cancelsFirst (power_modEq_first h n)
  have hsecond : key.power n ^ key.publicKey.exponent ≡ n [MOD key.second] :=
    pow_modEq_of_cancels h.second h.cancelsSecond (power_modEq_second key n)
  -- The factors are different primes, so what holds modulo both holds modulo their product.
  have hboth : key.power n ^ key.publicKey.exponent ≡ n [MOD key.publicKey.modulus] :=
    h.modulus ▸ (Nat.modEq_and_modEq_iff_modEq_mul h.coprime).mp ⟨hfirst, hsecond⟩
  rw [Modular.pow_eq, hboth, Nat.mod_eq_of_lt hn]

/-! ### Signatures -/

/-- The power is below the modulus, if the factors make it. -/
theorem power_lt (h : key.IsSplit) (n : Nat) : key.power n < key.publicKey.modulus := by
  have hne : key.first * key.second ≠ 0 := h.modulus ▸ h.ne_zero
  have hfirst : 0 < key.first := Nat.pos_of_ne_zero (left_ne_zero_of_mul hne)
  have hsecond : 0 < key.second := Nat.pos_of_ne_zero (right_ne_zero_of_mul hne)
  have hless : Modular.pow key.second n (key.reduced key.second) < key.second := by
    rw [Modular.pow_eq]
    exact Nat.mod_lt _ hsecond
  rw [← h.modulus, power]
  refine (Nat.add_lt_add_left hless _).trans_le ?_
  rw [← Nat.succ_mul]
  exact Nat.mul_le_mul_right _ (Nat.mod_lt _ hfirst)

/-- **A signature verifies exactly if it is not empty**: a key that cannot sign, since its modulus is
too small or its factors are not prime, makes an empty one. -/
theorem verify_sign_iff (h : key.IsSplit) (message : Bytes) :
    key.publicKey.verify message (key.sign message) ↔ key.sign message ≠ [] := by
  by_cases hsize : key.publicKey.size < 62
  · simp [PublicKey.verify_eq_false_of_size_lt hsize, sign_eq_nil_of_size_lt hsize]
  · obtain ⟨padded, hpadded, hlength, -⟩ := exists_padded?_eq_some (not_lt.mp hsize) message
    have hpower := power_lt h (Bytes.toNat padded)
    have hfits : key.power (Bytes.toNat padded) < 256 ^ key.publicKey.size :=
      hpower.trans (Bytes.lt_pow_width _)
    rw [sign, PublicKey.verify, hpadded]
    simp only
    split_ifs with hback
    · refine iff_of_true ?_ fun hnil => ?_
      · simp only [Bytes.length_ofNat, Bytes.toNat_ofNat, Nat.mod_eq_of_lt hfits, hback, hpower,
          decide_true, beq_self_eq_true, Bool.and_true, Bool.true_and]
        rw [beq_iff_eq, ← hlength, Bytes.ofNat_toNat]
      · have hzero := congrArg List.length hnil
        rw [Bytes.length_ofNat, List.length_nil] at hzero
        omega
    · have hzero : 0 ≠ key.publicKey.size := by omega
      simp [hzero]

/-- **Signatures of a key with prime factors verify**, as long as the padding fits. -/
theorem verify_sign (h : key.HasPrimeFactors) (hsize : 62 ≤ key.publicKey.size) (message : Bytes) :
    key.publicKey.verify message (key.sign message) := by
  obtain ⟨padded, hpadded, -, hless⟩ := exists_padded?_eq_some hsize message
  -- The padding begins with a zero byte, which keeps it below the modulus.
  have hn : Bytes.toNat padded < key.publicKey.modulus :=
    hless.trans_le (Bytes.pow_width_sub_one_le h.isSplit.ne_zero)
  rw [verify_sign_iff h.isSplit, sign, hpadded]
  simp only [pow_power h hn, if_true]
  intro hnil
  have hzero := congrArg List.length hnil
  rw [Bytes.length_ofNat, List.length_nil] at hzero
  omega

/-- The factors of numbers that were put together to a key make its modulus, which is odd. -/
theorem isSplit_of_ofNumbers?_eq_some {publicKey : PublicKey} {secret first second : Nat}
    (h : ofNumbers? publicKey secret first second = some key) : key.IsSplit := by
  unfold ofNumbers? at h
  simp only [Option.ite_none_right_eq_some, Bool.and_eq_true, beq_iff_eq] at h
  obtain ⟨⟨⟨⟨hsound, hmodulus⟩, -⟩, -⟩, h⟩ := h
  obtain ⟨coefficient, -, rfl⟩ := Option.map_eq_some_iff.mp h
  simp only [PublicKey.isSound, Bool.and_eq_true, beq_iff_eq] at hsound
  have hodd : publicKey.modulus ≠ 0 := by omega
  exact ⟨hmodulus, hodd⟩

/-- Numbers that were put together to a key have the properties, if the factors are prime. -/
theorem hasPrimeFactors_of_ofNumbers?_eq_some {publicKey : PublicKey} {secret first second : Nat}
    (h : ofNumbers? publicKey secret first second = some key) (hfirst : first.Prime)
    (hsecond : second.Prime) : key.publicKey = publicKey ∧ key.HasPrimeFactors := by
  unfold ofNumbers? at h
  simp only [Option.ite_none_right_eq_some, Bool.and_eq_true, beq_iff_eq] at h
  obtain ⟨⟨⟨⟨-, hmodulus⟩, hcancelsFirst⟩, hcancelsSecond⟩, h⟩ := h
  obtain ⟨coefficient, hcoefficient, rfl⟩ := Option.map_eq_some_iff.mp h
  exact ⟨rfl, hfirst, hsecond, hmodulus, hcancelsFirst, hcancelsSecond,
    Modular.mul_modEq_one_of_inverse?_eq_some hfirst.pos hcoefficient⟩

end PrivateKey

end SelfCert.Rsa
