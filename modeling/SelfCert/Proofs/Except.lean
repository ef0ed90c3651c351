import Mathlib.Logic.Basic

/-!
# Computations that answer or refuse

When a computation that was put together answers, its parts did.
-/

namespace Except

variable {ε δ α β : Type}

/-- Steps one after the other answer exactly if the first does, and then the second. -/
theorem bind_eq_ok_iff {x : Except ε α} {f : α → Except ε β} {b : β} :
    x >>= f = .ok b ↔ ∃ a, x = .ok a ∧ f a = .ok b := by
  cases x <;> simp [bind, Except.bind]

/-- They refuse exactly if one of them does, the second after the first. -/
theorem bind_eq_error_iff {x : Except ε α} {f : α → Except ε β} {error : ε} :
    x >>= f = .error error ↔ x = .error error ∨ ∃ a, x = .ok a ∧ f a = .error error := by
  cases x <;> simp [bind, Except.bind]

theorem map_eq_ok_iff {x : Except ε α} {f : α → β} {b : β} :
    x.map f = .ok b ↔ ∃ a, x = .ok a ∧ f a = b := by
  cases x <;> simp [Except.map]

/-- Refusing for another reason is refusing all the same. -/
theorem mapError_eq_ok_iff {x : Except ε α} {f : ε → δ} {a : α} :
    x.mapError f = .ok a ↔ x = .ok a := by
  constructor
  · intro h
    cases x with
    | error error => cases h
    | ok value =>
      cases h
      rfl
  · rintro rfl
    rfl

/-- What is left of a refusal is nothing. -/
theorem toOption_eq_none_iff {x : Except ε α} : x.toOption = none ↔ ¬∃ a, x = .ok a := by
  cases x <;> simp [Except.toOption]

/-- What does not answer refuses. -/
theorem exists_eq_error {x : Except ε α} (h : ∀ a, x ≠ .ok a) : ∃ error, x = .error error := by
  cases x with
  | error error => exact ⟨error, rfl⟩
  | ok a => exact absurd rfl (h a)

end Except
