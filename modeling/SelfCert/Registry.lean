import SelfCert.Table

/-!
# Registries

A registry says what is responsible for each tag. Under the tag `*` may stand what is responsible
for all the tags that have no entry of their own.
-/

namespace SelfCert

/-- What is responsible for each tag. -/
abbrev Registry (α : Type) := Table α

namespace Registry

variable {α : Type}

/-- The tag that stands for all tags without an entry. -/
def wildcard : String := "*"

/-- What is found under a tag, or else under another one. -/
def resolve (tag fallback : String) (registry : Registry α) : Option α :=
  (Table.get? tag registry).or (Table.get? fallback registry)

/-- What is found under a tag, if one is given, or else for all tags. -/
def resolveAny (tag : Option String) (registry : Registry α) : Option α :=
  match tag with
  | some tag => resolve tag wildcard registry
  | none => Table.get? wildcard registry

/-- A tag that has an entry is resolved to it. -/
theorem resolve_of_get?_eq_some {tag fallback : String} {registry : Registry α} {value : α}
    (h : Table.get? tag registry = some value) : resolve tag fallback registry = some value := by
  simp [resolve, h]

/-- A tag without an entry is resolved like the fallback. -/
theorem resolve_of_get?_eq_none {tag fallback : String} {registry : Registry α}
    (h : Table.get? tag registry = none) :
    resolve tag fallback registry = Table.get? fallback registry := by
  simp [resolve, h]

end Registry

end SelfCert
