import SelfCert.Key.Basic

/-!
# What is found in the map of a key

The algorithm of a map is looked up in a registry (`KeyMap.resolveKind_eq_ok`), and a required field
is found if its text is not empty (`KeyMap.required_eq_ok`).
-/

namespace SelfCert.KeyMap

variable {map : KeyMap} {field text tag : String}

/-- The text of a field. -/
theorem string?_eq_some (h : Table.get? field map = some (.string text)) :
    map.string? field = some text := by
  rw [Json.Object.string?, h]
  rfl

/-- **A field whose text is not empty is found.** -/
theorem required_eq_ok (h : Table.get? field map = some (.string text)) (hne : text ≠ "") :
    map.required field = .ok text := by
  have hnonempty : text.isEmpty = false := String.isEmpty_eq_false_iff.mpr hne
  rw [required, string?_eq_some h]
  simp only [hnonempty, Bool.false_eq_true, if_false]

/-- **A map that names a registered tag is of the kind registered for it.** -/
theorem resolveKind_eq_ok {α : Type} {kinds : Registry α} {kind : α}
    (h : Table.get? "algorithm" map = some (.string tag))
    (hkind : Table.get? tag kinds = some kind) : map.resolveKind kinds = .ok kind := by
  rw [resolveKind, string?_eq_some h, Registry.resolveAny, Registry.resolve_of_get?_eq_some hkind]

end SelfCert.KeyMap
