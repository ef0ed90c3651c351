import Mathlib.Tactic.Cases
import Mathlib.Tactic.SplitIfs
import SelfCert.Bytes

/-!
# Byte strings cut into blocks

A byte string that is not empty has a first block, and its other blocks are those of the rest
(`Bytes.blocks_of_ne_nil`). What holds of the empty string, and of a string when it holds of the
rest behind the first block, holds of all strings (`Bytes.block_induction`).
-/

namespace SelfCert.Bytes

variable {size : Nat}

/-! ### Exclusive or -/

@[simp] theorem length_xor (a b : Bytes) : (xor a b).length = min a.length b.length := by
  simp [xor]

/-- What a long enough string is added to twice comes back. -/
theorem xor_xor_cancel {a b : Bytes} (h : a.length ≤ b.length) : xor (xor a b) b = a := by
  induction a generalizing b with
  | nil => rfl
  | cons x a ih =>
    cases b with
    | nil => cases h
    | cons y b =>
      have hrest : xor (xor a b) b = a := ih (Nat.le_of_succ_le_succ h)
      simp only [xor, List.zipWith_cons_cons, UInt8.xor_assoc, UInt8.xor_self, UInt8.xor_zero,
        List.cons.injEq, true_and]
      exact hrest

/-! ### Blocks -/

theorem length_drop_cons_le (hsize : 0 < size) (b : UInt8) (rest : Bytes) :
    ((b :: rest).drop size).length ≤ rest.length := by
  rw [List.length_drop, List.length_cons]
  omega

/-- The bound of the number of blocks does not matter if it is at least the number of bytes. -/
theorem blocksUpTo_eq_blocksUpTo (hsize : 0 < size) {count other : Nat} {bytes : Bytes}
    (hcount : bytes.length ≤ count) (hother : bytes.length ≤ other) :
    blocksUpTo size count bytes = blocksUpTo size other bytes := by
  induction count generalizing other bytes with
  | zero =>
    obtain rfl := List.eq_nil_of_length_eq_zero (Nat.le_zero.mp hcount)
    cases other <;> rfl
  | succ count ih =>
    cases bytes with
    | nil => cases other <;> rfl
    | cons b rest =>
      cases other with
      | zero => cases hother
      | succ other =>
        have hdrop := length_drop_cons_le hsize b rest
        rw [List.length_cons] at hcount hother
        have hmore : blocksUpTo size count ((b :: rest).drop size) =
            blocksUpTo size other ((b :: rest).drop size) := ih (by omega) (by omega)
        rw [blocksUpTo, blocksUpTo, hmore]
        · exact List.cons_ne_nil _ _
        · exact List.cons_ne_nil _ _

/-- **A byte string is its first block and the blocks of the rest.** -/
theorem blocks_of_ne_nil (hsize : 0 < size) {bytes : Bytes} (h : bytes ≠ []) :
    blocks size bytes = bytes.take size :: blocks size (bytes.drop size) := by
  obtain ⟨b, rest, rfl⟩ := List.exists_cons_of_ne_nil h
  have hmore : blocksUpTo size rest.length ((b :: rest).drop size) =
      blocks size ((b :: rest).drop size) :=
    blocksUpTo_eq_blocksUpTo hsize (length_drop_cons_le hsize b rest) (Nat.le_refl _)
  rw [blocks, List.length_cons, blocksUpTo, hmore]
  exact List.cons_ne_nil _ _

/-- The blocks of a first block with a rest behind it. Unless there is no rest, the first block must
be a whole one. -/
theorem blocks_append (hsize : 0 < size) {block rest : Bytes} (hne : block ≠ [])
    (hle : block.length ≤ size) (hwhole : rest ≠ [] → block.length = size) :
    blocks size (block ++ rest) = block :: blocks size rest := by
  rw [blocks_of_ne_nil hsize (List.append_ne_nil_of_left_ne_nil hne rest)]
  by_cases hrest : rest = []
  · rw [hrest, List.append_nil, List.take_of_length_le hle, List.drop_of_length_le hle]
  · rw [List.take_left' (hwhole hrest), List.drop_left' (hwhole hrest)]

/-- **Induction from block to block.** -/
theorem block_induction {motive : Bytes → Prop} (hsize : 0 < size) (nil : motive [])
    (step : ∀ bytes, bytes ≠ [] → motive (bytes.drop size) → motive bytes) (bytes : Bytes) :
    motive bytes := by
  induction hlength : bytes.length using Nat.strongRecOn generalizing bytes with
  | ind n ih =>
    by_cases hne : bytes = []
    · rwa [hne]
    · have hpos := List.length_pos_iff.mpr hne
      refine step bytes hne (ih _ ?_ _ rfl)
      rw [List.length_drop]
      omega

end SelfCert.Bytes
