/-!
# Tables

A table maps tags to values. It is kept as a list of entries in increasing order of the tags, each
tag once, so two tables with the same entries are equal and are listed in the same order. Strings
are ordered by code points, which is also the order of their UTF-8 bytes.
-/

namespace SelfCert

/-- Entries in increasing order of their tags. -/
abbrev Table (α : Type) := List (String × α)

namespace Table

variable {α : Type}

/-- The value under a tag. -/
def get? (tag : String) : Table α → Option α
  | [] => none
  | (key, value) :: rest => if key = tag then some value else get? tag rest

/-- Whether there is a value under a tag. -/
def contains (tag : String) (table : Table α) : Bool :=
  (get? tag table).isSome

/-- Puts a value under a tag, in place of the one that was there. -/
def insert (tag : String) (value : α) : Table α → Table α
  | [] => [(tag, value)]
  | (key, old) :: rest =>
    if tag = key then (tag, value) :: rest
    else if tag < key then (tag, value) :: (key, old) :: rest
    else (key, old) :: insert tag value rest

/-- Puts in the entries of a list one after the other, so that the last one for a tag stays. -/
def insertAll (entries : List (String × α)) (table : Table α) : Table α :=
  entries.foldl (fun table entry => insert entry.1 entry.2 table) table

/-- The table with the entries of a list; the last one for a tag stays. -/
def ofList (entries : List (String × α)) : Table α :=
  insertAll entries []

/-- The tags in increasing order. -/
def tags (table : Table α) : List String :=
  table.map Prod.fst

@[simp] theorem get?_nil (tag : String) : get? tag ([] : Table α) = none := rfl

/-- Reading a tag after a value was put under it. -/
@[simp] theorem get?_insert_self (tag : String) (value : α) (table : Table α) :
    get? tag (insert tag value table) = some value := by
  induction table with
  | nil => simp [insert, get?]
  | cons entry rest ih =>
    obtain ⟨key, old⟩ := entry
    by_cases same : tag = key
    · simp [insert, get?, same]
    · by_cases less : tag < key
      · simp [insert, get?, same, less]
      · have other : key ≠ tag := fun h => same h.symm
        simp [insert, get?, same, less, other, ih]

/-- Reading another tag than the one a value was put under. -/
theorem get?_insert_of_ne {tag other : String} (ne : other ≠ tag) (value : α) (table : Table α) :
    get? other (insert tag value table) = get? other table := by
  induction table with
  | nil => simp [insert, get?, ne.symm]
  | cons entry rest ih =>
    obtain ⟨key, old⟩ := entry
    by_cases same : tag = key
    · subst same
      simp [insert, get?, ne.symm]
    · by_cases less : tag < key
      · simp [insert, get?, same, less, ne.symm]
      · by_cases hit : key = other
        · subst hit
          simp [insert, get?, same, less]
        · simp [insert, get?, same, less, hit, ih]

end Table

end SelfCert
