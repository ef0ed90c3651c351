import Mathlib.Logic.Basic
import Mathlib.Tactic.SplitIfs
import SelfCert.Cipher.Aes

/-!
# AES decrypts what it encrypts

Each step of a round has an inverse: the substitution by its table (`Aes.unsub_sub`), the shift of
the rows, the sum with a key, and the mixing of a column, because doubling is additive
(`Aes.double_xor`). So the rounds are undone one by one, whatever the round keys are
(`Aes.unrounds_rounds`), and blocks are decrypted (`Aes.decrypt_encrypt`).
-/

namespace SelfCert.Aes

/-! ### Bytes -/

/-- **The substitution is undone.** -/
theorem unsub_sub (b : UInt8) : unsub (sub b) = b := by
  have hall : (List.range 256).all fun n => unsub (sub (.ofNat n)) = .ofNat n := by decide +kernel
  have hb := List.all_eq_true.mp hall b.toNat (List.mem_range.mpr b.toNat_lt)
  rw [UInt8.ofNat_toNat] at hb
  exact of_decide_eq_true hb

/-- What is added twice goes away. -/
theorem xor_xor_cancel (x y : UInt8) : x ^^^ y ^^^ y = x := by
  rw [UInt8.xor_assoc, UInt8.xor_self, UInt8.xor_zero]

theorem xor_cancel_left (x y : UInt8) : x ^^^ (x ^^^ y) = y := by
  rw [← UInt8.xor_assoc, UInt8.xor_self, UInt8.zero_xor]

theorem xor_left_comm (x y z : UInt8) : x ^^^ (y ^^^ z) = y ^^^ (x ^^^ z) := by
  rw [← UInt8.xor_assoc, UInt8.xor_comm x, UInt8.xor_assoc]

theorem xor_xor_xor_comm (x y u v : UInt8) : (x ^^^ u) ^^^ (y ^^^ v) = (x ^^^ y) ^^^ (u ^^^ v) := by
  rw [UInt8.xor_assoc, xor_left_comm u, ← UInt8.xor_assoc]

theorem xor_xor_xor_cancel (x y u : UInt8) : (x ^^^ u) ^^^ (y ^^^ u) = x ^^^ y := by
  rw [xor_xor_xor_comm, UInt8.xor_self, UInt8.xor_zero]

/-- A byte is small if its highest bit is not set. -/
theorem lt_iff_msb {b : UInt8} : b < 0x80 ↔ b.toBitVec.msb = false := by
  rw [BitVec.msb_eq_false_iff_two_mul_lt, UInt8.lt_iff_toNat_lt, UInt8.toNat_toBitVec]
  have hconstant : (0x80 : UInt8).toNat = 128 := rfl
  omega

/-- Doubling shifts a byte and then adds a constant if the highest bit is lost. -/
theorem double_eq (b : UInt8) : double b = (b <<< 1) ^^^ bif b.toBitVec.msb then 0x1b else 0 := by
  unfold double
  split_ifs with hb
  · rw [lt_iff_msb.mp hb, cond_false, UInt8.xor_zero]
  · rw [lt_iff_msb, Bool.not_eq_false] at hb
    rw [hb, cond_true]

/-- **Doubling is additive.** -/
theorem double_xor (x y : UInt8) : double (x ^^^ y) = double x ^^^ double y := by
  have hmsb : (bif (x ^^^ y).toBitVec.msb then 0x1b else 0 : UInt8) =
      (bif x.toBitVec.msb then 0x1b else 0) ^^^ bif y.toBitVec.msb then 0x1b else 0 := by
    rw [UInt8.toBitVec_xor, BitVec.msb_xor]
    cases x.toBitVec.msb <;> cases y.toBitVec.msb <;> rfl
  rw [double_eq, double_eq, double_eq, hmsb, UInt8.shiftLeft_xor]
  simp only [UInt8.xor_assoc, xor_left_comm]

/-! ### Columns -/

namespace Column

theorem map_map_of_cancel {f g : UInt8 → UInt8} (h : ∀ b, g (f b) = b) (w : Column) :
    (w.map f).map g = w := by
  simp only [map, h]

theorem add_add_cancel (v w : Column) : (v.add w).add w = v := by
  simp only [add, xor_xor_cancel]

/-- The sum of the bytes of a column. -/
def sum (w : Column) : UInt8 := w.a ^^^ w.b ^^^ w.c ^^^ w.d

theorem sum_eq (w : Column) : w.sum = (w.a ^^^ w.c) ^^^ (w.b ^^^ w.d) := by
  simp only [sum, UInt8.xor_assoc, xor_left_comm]

/-- The bytes of a mixed column. -/
theorem mix_eq (w : Column) :
    w.mix = ⟨w.a ^^^ w.sum ^^^ double (w.a ^^^ w.b), w.b ^^^ w.sum ^^^ double (w.b ^^^ w.c),
      w.c ^^^ w.sum ^^^ double (w.c ^^^ w.d), w.d ^^^ w.sum ^^^ double (w.d ^^^ w.a)⟩ := rfl

/-! The bytes of a column play the same part, so it is enough to look at the first one. -/

theorem sum_rotate (w : Column) : w.rotate.sum = w.sum := by
  simp only [sum, rotate, UInt8.xor_comm, xor_left_comm]

theorem mix_rotate (w : Column) : w.rotate.mix = w.mix.rotate := by
  rw [mix_eq, mix_eq, sum_rotate]
  rfl

theorem unmix_rotate (w : Column) : w.rotate.unmix = w.unmix.rotate := by
  rw [unmix, unmix, ← mix_rotate]
  simp only [rotate, UInt8.xor_comm w.c]

theorem mix_a_xor_mix_b (w : Column) :
    w.mix.a ^^^ w.mix.b = w.a ^^^ w.b ^^^ double (w.a ^^^ w.c) := by
  simp only [mix_eq, double_xor, UInt8.xor_assoc, UInt8.xor_comm, xor_left_comm, xor_cancel_left,
    UInt8.xor_self, UInt8.zero_xor]

theorem mix_a_xor_mix_c (w : Column) :
    w.mix.a ^^^ w.mix.c = w.a ^^^ w.c ^^^ double w.sum := by
  have hsum : double w.sum = double (w.a ^^^ w.b) ^^^ double (w.c ^^^ w.d) := by
    rw [← double_xor, sum, UInt8.xor_assoc (w.a ^^^ w.b)]
  rw [mix_eq, hsum]
  simp only [UInt8.xor_assoc, UInt8.xor_comm, xor_left_comm, UInt8.xor_self, UInt8.zero_xor]

/-- The same for the other two bytes. -/
theorem mix_b_xor_mix_d (w : Column) :
    w.mix.b ^^^ w.mix.d = w.b ^^^ w.d ^^^ double w.sum := by
  have h := w.rotate.mix_a_xor_mix_c
  rw [mix_rotate, sum_rotate] at h
  exact h

/-- Mixing keeps the sum of the bytes. -/
theorem sum_mix (w : Column) : w.mix.sum = w.sum := by
  rw [sum_eq, mix_a_xor_mix_c, mix_b_xor_mix_d, sum_eq w, UInt8.xor_assoc, xor_left_comm (double _),
    UInt8.xor_self, UInt8.xor_zero]

/-- The two corrections before the last mixing, and their sum. -/
theorem corrections_mix (w : Column) :
    double (double (w.mix.a ^^^ w.mix.c)) =
        double (double (w.a ^^^ w.c)) ^^^ double (double (double w.sum)) ∧
      double (double (w.mix.a ^^^ w.mix.c)) ^^^ double (double (w.mix.b ^^^ w.mix.d)) =
        double (double w.sum) := by
  constructor
  · rw [mix_a_xor_mix_c, double_xor, double_xor]
  · rw [← double_xor, ← double_xor, ← sum_eq, sum_mix]

/-- **The first byte of a mixed column is recovered.** -/
theorem a_unmix_mix (w : Column) : w.mix.unmix.a = w.a := by
  obtain ⟨hu, huv⟩ := w.corrections_mix
  rw [unmix]
  generalize double (double (w.mix.a ^^^ w.mix.c)) = u at *
  generalize double (double (w.mix.b ^^^ w.mix.d)) = v at *
  have hsum : (⟨w.mix.a ^^^ u, w.mix.b ^^^ v, w.mix.c ^^^ u, w.mix.d ^^^ v⟩ : Column).sum =
      w.sum := by
    rw [sum_eq, xor_xor_xor_cancel, xor_xor_xor_cancel, ← sum_eq, sum_mix]
  have hdouble : double ((w.mix.a ^^^ u) ^^^ (w.mix.b ^^^ v)) = double (w.a ^^^ w.b) ^^^ u := by
    rw [xor_xor_xor_comm, mix_a_xor_mix_b, huv, double_xor, double_xor, UInt8.xor_assoc, ← hu]
  have ha : w.mix.a = w.a ^^^ w.sum ^^^ double (w.a ^^^ w.b) := rfl
  rw [mix_eq, hsum, hdouble, ha]
  simp only [UInt8.xor_comm, xor_left_comm, xor_cancel_left, UInt8.xor_self, UInt8.xor_zero]

/-- **The mixing of a column is undone.** -/
theorem unmix_mix (w : Column) : w.mix.unmix = w := by
  have hrotate (v : Column) : v.mix.unmix.rotate = v.rotate.mix.unmix := by
    rw [mix_rotate, unmix_rotate]
  have hb : w.mix.unmix.b = w.b := by
    have h := w.rotate.a_unmix_mix
    rwa [← hrotate] at h
  have hc : w.mix.unmix.c = w.c := by
    have h := w.rotate.rotate.a_unmix_mix
    rwa [← hrotate, ← hrotate] at h
  have hd : w.mix.unmix.d = w.d := by
    have h := w.rotate.rotate.rotate.a_unmix_mix
    rwa [← hrotate, ← hrotate, ← hrotate] at h
  have ha := w.a_unmix_mix
  generalize w.mix.unmix = v at *
  obtain ⟨a, b, c, d⟩ := v
  cases ha
  cases hb
  cases hc
  cases hd
  rfl

end Column

/-! ### Blocks -/

namespace Block

theorem map_map_of_cancel {f g : Column → Column} (h : ∀ w, g (f w) = w) (s : Block) :
    (s.map f).map g = s := by
  simp only [map, h]

theorem add_add_cancel (s t : Block) : (s.add t).add t = s := by
  simp only [add, Column.add_add_cancel]

theorem unshift_shift (s : Block) : s.shift.unshift = s := rfl

theorem map_unsub_map_sub (s : Block) : (s.map (·.map sub)).map (·.map unsub) = s :=
  map_map_of_cancel (Column.map_map_of_cancel unsub_sub) s

/-- A block is read back from its bytes. -/
theorem ofBytes_toBytes (s : Block) : ofBytes s.toBytes = s := rfl

end Block

/-- Four bytes make a column. -/
theorem exists_column {bytes : Bytes} {n : Nat} (h : bytes.length = n + 4) :
    ∃ (w : Column) (rest : Bytes), bytes = w.a :: w.b :: w.c :: w.d :: rest ∧ rest.length = n := by
  match bytes, h with
  | a :: b :: c :: d :: rest, h => exact ⟨⟨a, b, c, d⟩, rest, rfl, by simpa using h⟩

/-- Sixteen bytes make a block. -/
theorem Block.toBytes_ofBytes {bytes : Bytes} (h : bytes.length = 16) :
    (ofBytes bytes).toBytes = bytes := by
  obtain ⟨w0, twelve, rfl, h12⟩ := exists_column h
  obtain ⟨w1, eight, rfl, h8⟩ := exists_column h12
  obtain ⟨w2, four, rfl, h4⟩ := exists_column h8
  obtain ⟨w3, none, rfl, h0⟩ := exists_column h4
  obtain rfl := List.eq_nil_of_length_eq_zero h0
  rfl

/-! ### The cipher -/

theorem rounds_cons_cons (key next : Block) (more : List Block) (s : Block) :
    rounds (key :: next :: more) s =
      rounds (next :: more) ((((s.map (·.map sub)).shift).map Column.mix).add key) := rfl

theorem unrounds_singleton (key s : Block) :
    unrounds [key] s = ((s.add key).unshift).map (·.map unsub) := rfl

theorem unrounds_cons_cons (key next : Block) (more : List Block) (s : Block) :
    unrounds (key :: next :: more) s =
      ((((unrounds (next :: more) s).add key).map Column.unmix).unshift).map (·.map unsub) := rfl

/-- **The rounds are undone**, whatever the keys are. -/
theorem unrounds_rounds (keys : List Block) (s : Block) : unrounds keys (rounds keys s) = s := by
  -- On the keys: the last round is the one for a single key.
  induction keys generalizing s with
  | nil => rfl
  | cons key more ih =>
    cases more with
    | nil =>
      rw [rounds, unrounds_singleton, Block.add_add_cancel, Block.unshift_shift,
        Block.map_unsub_map_sub]
    | cons next more =>
      rw [rounds_cons_cons, unrounds_cons_cons, ih, Block.add_add_cancel,
        Block.map_map_of_cancel Column.unmix_mix, Block.unshift_shift, Block.map_unsub_map_sub]

/-- **Blocks are decrypted.** -/
theorem decryptBlock_encryptBlock (keys : List Block) (s : Block) :
    decryptBlock keys (encryptBlock keys s) = s := by
  cases keys with
  | nil => rfl
  | cons first more => rw [encryptBlock, decryptBlock, unrounds_rounds, Block.add_add_cancel]

/-- **Sixteen bytes are decrypted.** -/
theorem decrypt_encrypt (keys : List Block) {bytes : Bytes} (h : bytes.length = 16) :
    decrypt keys (encrypt keys bytes) = bytes := by
  rw [decrypt, encrypt, Block.ofBytes_toBytes, decryptBlock_encryptBlock, Block.toBytes_ofBytes h]

end SelfCert.Aes
