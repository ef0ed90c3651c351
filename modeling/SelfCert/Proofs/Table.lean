import Mathlib.Data.List.Basic
import Mathlib.Data.String.Basic
import SelfCert.Table

/-!
# The entries of a table

What is found in a table is one of its entries, and putting a value in adds one entry at most. The
tags of a table increase (`Table.IsSorted`); this is what insertion keeps up, and a list of entries
that is sorted already is the table of its entries (`Table.ofList_eq_self`). So the size of a table
tells how many entries are left beside some that are known (`Table.IsSorted.length_eq`). Entries
with different tags can be put in in any order (`Table.insertAll_eq_of_perm`). An entry that may be
missing is put in by `Table.put`.
-/

namespace SelfCert.Table

variable {α : Type}

/-- What is found is an entry. -/
theorem mem_of_get?_eq_some {tag : String} {value : α} {table : Table α}
    (h : get? tag table = some value) : (tag, value) ∈ table := by
  induction table with
  | nil => cases h
  | cons entry rest ih =>
    obtain ⟨key, old⟩ := entry
    by_cases hit : key = tag
    · rw [get?, if_pos hit] at h
      cases h
      rw [hit]
      exact List.mem_cons_self
    · rw [get?, if_neg hit] at h
      exact List.mem_cons_of_mem _ (ih h)

/-- After a value was put in, the entries are the new one and old ones. -/
theorem eq_or_mem_of_mem_insert {tag : String} {value : α} {table : Table α} {entry : String × α}
    (h : entry ∈ insert tag value table) : entry = (tag, value) ∨ entry ∈ table := by
  induction table with
  | nil => exact .inl (List.mem_singleton.mp h)
  | cons first rest ih =>
    rw [insert] at h
    split_ifs at h with same less
    · exact (List.mem_cons.mp h).imp_right (List.mem_cons_of_mem _)
    · exact List.mem_cons.mp h
    · rcases List.mem_cons.mp h with rfl | h
      · exact .inr List.mem_cons_self
      · exact (ih h).imp_right (List.mem_cons_of_mem _)

/-- Nothing is found under a tag exactly if no entry has it. -/
theorem get?_cons_eq_none_iff {tag : String} {first : String × α} {rest : Table α} :
    get? tag (first :: rest) = none ↔ first.1 ≠ tag ∧ get? tag rest = none := by
  rw [get?]
  split_ifs with hit
  · simp [hit]
  · simp [hit]

/-- Putting a value under a new tag keeps all entries. -/
theorem mem_insert_of_get?_eq_none {tag : String} {value : α} {table : Table α}
    (hnew : get? tag table = none) {entry : String × α} (h : entry ∈ table) :
    entry ∈ insert tag value table := by
  induction table with
  | nil => cases h
  | cons first rest ih =>
    obtain ⟨hne, hnew⟩ := get?_cons_eq_none_iff.mp hnew
    rw [insert, if_neg hne.symm]
    split_ifs
    · exact List.mem_cons_of_mem _ h
    · rcases List.mem_cons.mp h with rfl | h
      · exact List.mem_cons_self
      · exact List.mem_cons_of_mem _ (ih hnew h)

theorem contains_of_get?_eq_some {tag : String} {value : α} {table : Table α}
    (h : get? tag table = some value) : contains tag table := by
  rw [contains, h, Option.isSome_some]

/-- The tags that are found are those of the entries. -/
theorem contains_iff_mem_tags {tag : String} {table : Table α} :
    contains tag table ↔ tag ∈ tags table := by
  induction table with
  | nil => simp [contains, tags]
  | cons first rest ih =>
    rw [contains] at ih
    rw [contains, get?, tags, List.map_cons, List.mem_cons, ← tags, ← ih]
    split_ifs with hit
    · simp [hit]
    · simp [Ne.symm hit]

/-! ### Reading after a list of entries was put in -/

section InsertAll

variable {tag : String} {value : α} {entries : List (String × α)}

/-- A tag that none of the entries has keeps its value. -/
theorem get?_insertAll_of_forall_ne (hne : ∀ entry ∈ entries, entry.1 ≠ tag) (table : Table α) :
    get? tag (insertAll entries table) = get? tag table := by
  induction entries generalizing table with
  | nil => rfl
  | cons first rest ih =>
    obtain ⟨hfirst, hrest⟩ := List.forall_mem_cons.mp hne
    exact (ih hrest _).trans (get?_insert_of_ne hfirst.symm first.2 table)

/-- Each of the entries is found if they have different tags. -/
theorem get?_insertAll_of_mem (hnodup : (entries.map Prod.fst).Nodup)
    (hmem : (tag, value) ∈ entries) (table : Table α) :
    get? tag (insertAll entries table) = some value := by
  induction entries generalizing table with
  | nil => cases hmem
  | cons first rest ih =>
    obtain ⟨hnotMem, hnodup⟩ := List.nodup_cons.mp hnodup
    rcases List.mem_cons.mp hmem with rfl | hmem
    · have hne : ∀ entry ∈ rest, entry.1 ≠ tag := by
        rintro entry hentry rfl
        exact hnotMem (List.mem_map.mpr ⟨entry, hentry, rfl⟩)
      exact (get?_insertAll_of_forall_ne hne _).trans (get?_insert_self tag value table)
    · exact ih hnodup hmem _

end InsertAll

/-! ### Entries that may be missing -/

/-- Puts a value under a tag, if there is one. -/
def put (tag : String) (value : Option α) (table : Table α) : Table α :=
  match value with
  | some value => Table.insert tag value table
  | none => table

section Put

variable {tag other : String} {value : Option α} {table : Table α}

theorem get?_put_of_ne (hne : other ≠ tag) :
    get? other (put tag value table) = get? other table := by
  cases value with
  | none => rfl
  | some value => exact get?_insert_of_ne hne value table

/-- What is found under a new tag is what was put there, if anything. -/
theorem get?_put_self (hnew : get? tag table = none) : get? tag (put tag value table) = value := by
  cases value with
  | none => exact hnew
  | some value => exact get?_insert_self tag value table

/-- A filter that drops all entries of a tag does not see what is put under it. -/
theorem filter_insert {keeps : String × α → Bool} (hdrops : ∀ value, keeps (tag, value) = false)
    (value : α) : (Table.insert tag value table).filter keeps = table.filter keeps := by
  induction table with
  | nil => simp [insert, hdrops]
  | cons first rest ih =>
    obtain ⟨key, old⟩ := first
    rw [insert]
    split_ifs with same less
    · subst same
      rw [List.filter_cons_of_neg (by simp [hdrops]), List.filter_cons_of_neg (by simp [hdrops])]
    · rw [List.filter_cons_of_neg (by simp [hdrops])]
    · rw [List.filter_cons, List.filter_cons, ih]

theorem filter_put {keeps : String × α → Bool} (hdrops : ∀ value, keeps (tag, value) = false) :
    (put tag value table).filter keeps = table.filter keeps := by
  cases value with
  | none => rfl
  | some value => exact filter_insert hdrops value

end Put

/-! ### Order -/

/-- Whether the tags of entries increase, so that each stands once. -/
def IsSorted (entries : List (String × α)) : Prop :=
  entries.Pairwise fun a b => a.1 < b.1

instance (entries : List (String × α)) : Decidable (IsSorted entries) :=
  inferInstanceAs (Decidable (entries.Pairwise fun a b => a.1 < b.1))

/-- Insertion keeps the order. -/
theorem IsSorted.insert {table : Table α} (h : IsSorted table) (tag : String) (value : α) :
    IsSorted (insert tag value table) := by
  induction table with
  | nil => exact List.pairwise_singleton _ _
  | cons first rest ih =>
    obtain ⟨hfirst, hrest⟩ := List.pairwise_cons.mp h
    rw [Table.insert]
    split_ifs with same less
    · subst same
      exact List.pairwise_cons.mpr ⟨hfirst, hrest⟩
    · refine List.pairwise_cons.mpr ⟨fun entry hentry => ?_, h⟩
      rcases List.mem_cons.mp hentry with rfl | hentry
      · exact less
      · exact less.trans (hfirst entry hentry)
    · have hmore : first.1 < tag := lt_of_le_of_ne (not_lt.mp less) (Ne.symm same)
      refine List.pairwise_cons.mpr ⟨fun entry hentry => ?_, ih hrest⟩
      rcases eq_or_mem_of_mem_insert hentry with rfl | hentry
      · exact hmore
      · exact hfirst entry hentry

theorem IsSorted.insertAll {table : Table α} (h : IsSorted table) (entries : List (String × α)) :
    IsSorted (insertAll entries table) := by
  induction entries generalizing table with
  | nil => exact h
  | cons first rest ih => exact ih (h.insert first.1 first.2)

theorem isSorted_ofList (entries : List (String × α)) : IsSorted (ofList entries) :=
  IsSorted.insertAll .nil entries

theorem IsSorted.put {table : Table α} (h : IsSorted table) (tag : String) (value : Option α) :
    IsSorted (put tag value table) := by
  cases value with
  | none => exact h
  | some value => exact h.insert tag value

/-- A value under a tag beyond all others comes last. -/
theorem insert_eq_append {tag : String} {table : Table α} (h : ∀ entry ∈ table, entry.1 < tag)
    (value : α) : Table.insert tag value table = table ++ [(tag, value)] := by
  induction table with
  | nil => rfl
  | cons first rest ih =>
    have hfirst : first.1 < tag := h first List.mem_cons_self
    rw [Table.insert, if_neg hfirst.ne', if_neg hfirst.not_gt,
      ih fun entry hentry => h entry (List.mem_cons_of_mem _ hentry), List.cons_append]

/-- Entries in order that continue a table are put behind it. -/
private theorem insertAll_eq_append {entries : List (String × α)} {table : Table α}
    (h : IsSorted (table ++ entries)) : insertAll entries table = table ++ entries := by
  induction entries generalizing table with
  | nil => rw [insertAll, List.foldl_nil, List.append_nil]
  | cons first rest ih =>
    have hlast : ∀ entry ∈ table, entry.1 < first.1 := fun entry hentry =>
      (List.pairwise_append.mp h).2.2 entry hentry first List.mem_cons_self
    have hassoc : table ++ first :: rest = (table ++ [first]) ++ rest := by simp
    rw [insertAll, List.foldl_cons, ← insertAll, insert_eq_append hlast, hassoc,
      ih (hassoc ▸ h)]

/-- **Entries in order are the table of these entries.** -/
theorem ofList_eq_self {entries : List (String × α)} (h : IsSorted entries) :
    ofList entries = entries :=
  insertAll_eq_append h

/-! ### Counting -/

section Count

variable {table : Table α} {keys : List String}

theorem IsSorted.nodup_tags (h : IsSorted table) : (tags table).Nodup :=
  List.pairwise_map.mpr (h.imp ne_of_lt)

/-- The entries under given tags are as many as those of the tags that are found. -/
theorem IsSorted.length_filter_mem (h : IsSorted table) (hkeys : keys.Nodup) :
    (table.filter fun entry => entry.1 ∈ keys).length =
      (keys.filter fun key => contains key table).length := by
  have hperm : ((tags table).filter fun key => key ∈ keys).Perm
      (keys.filter fun key => contains key table) := by
    rw [List.perm_ext_iff_of_nodup (h.nodup_tags.filter _) (hkeys.filter _)]
    intro key
    rw [List.mem_filter, List.mem_filter, contains_iff_mem_tags, decide_eq_true_iff, and_comm]
  rw [← hperm.length_eq, tags, List.filter_map, List.length_map]
  rfl

/-- **The size of a table** is the number of given tags that are found, with the number of entries
under other tags. -/
theorem IsSorted.length_eq (h : IsSorted table) (hkeys : keys.Nodup) :
    table.length = (keys.filter fun key => contains key table).length +
      (table.filter fun entry => entry.1 ∉ keys).length := by
  rw [← h.length_filter_mem hkeys, List.length_eq_length_filter_add fun entry => entry.1 ∈ keys]
  simp only [decide_not]

end Count

/-! ### Putting in in another order -/

/-- Values under two different tags can be put in in either order. -/
theorem insert_comm {tag other : String} (hne : tag ≠ other) (x y : α) (table : Table α) :
    Table.insert tag x (Table.insert other y table) =
      Table.insert other y (Table.insert tag x table) := by
  induction table with
  | nil =>
    rcases lt_or_gt_of_ne hne with less | more
    · simp [Table.insert, hne, hne.symm, less, less.not_gt]
    · simp [Table.insert, hne, hne.symm, more, more.not_gt]
  | cons first rest ih =>
    -- Each of the tags comes before the first entry, takes its place or goes further back.
    rcases lt_trichotomy tag first.1 with hx | hx | hx <;>
      rcases lt_trichotomy other first.1 with hy | hy | hy
    all_goals grind [Table.insert]

/-- **Entries with different tags can be put in in any order.** -/
theorem insertAll_eq_of_perm {entries others : List (String × α)} (hperm : entries.Perm others)
    (hnodup : (entries.map Prod.fst).Nodup) (table : Table α) :
    insertAll entries table = insertAll others table := by
  induction hperm generalizing table with
  | nil => rfl
  | cons entry _ ih =>
    exact ih (List.nodup_cons.mp hnodup).2 (Table.insert entry.1 entry.2 table)
  | swap a b rest =>
    have hne : a.1 ≠ b.1 := by
      intro heq
      have hnotMem := (List.nodup_cons.mp hnodup).1
      rw [List.map_cons, ← heq] at hnotMem
      exact hnotMem List.mem_cons_self
    simp only [insertAll, List.foldl_cons]
    rw [insert_comm hne]
  | trans hfirst _ ihFirst ihSecond =>
    exact (ihFirst hnodup table).trans (ihSecond ((hfirst.map _).nodup_iff.mp hnodup) table)

end SelfCert.Table
