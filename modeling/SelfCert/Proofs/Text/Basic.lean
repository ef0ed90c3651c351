import Mathlib.Data.List.TakeWhile
import Mathlib.Data.String.Basic
import SelfCert.Text.Classes
import SelfCert.Text.Search

/-!
# Searching, cutting, trimming and measuring text

A text has at least as many bytes as characters, and just as many if they are ASCII. A pattern is
found exactly where the text goes on with it (`Text.occursIn_iff`), a text is cut at a mark exactly
where the mark first stands, and trimming takes nothing but blanks.
-/

namespace SelfCert.Text

/-! ### Sizes -/

/-- A text whose characters take one byte each has as many bytes as characters. -/
theorem utf8Len_eq_length {text : List Char} (h : ∀ c ∈ text, c.utf8Size = 1) :
    String.utf8Len text = text.length := by
  induction text with
  | nil => rfl
  | cons c text ih =>
    rw [String.utf8Len_cons, ih fun d hd => h d (List.mem_cons_of_mem c hd),
      h c List.mem_cons_self, List.length_cons]

theorem utf8ByteSize_eq_length {s : String} (h : ∀ c ∈ s.toList, c.utf8Size = 1) :
    s.utf8ByteSize = s.toList.length := by
  rw [← String.utf8Len_toList, utf8Len_eq_length h]

/-- A text has at least as many bytes as characters. -/
theorem length_le_utf8ByteSize (s : String) : s.toList.length ≤ s.utf8ByteSize := by
  rw [← String.utf8Len_toList]
  induction s.toList with
  | nil => exact Nat.le_refl _
  | cons c text ih =>
    have hpos := c.utf8Size_pos
    rw [String.utf8Len_cons, List.length_cons]
    omega

/-! ### Searching -/

/-- A pattern occurs in a text exactly if the text goes on with it somewhere. -/
theorem occursIn_iff {pattern text : List Char} : occursIn pattern text ↔ pattern <:+: text := by
  induction text with
  | nil => cases pattern <;> simp [occursIn, cutBefore?]
  | cons c text ih =>
    rw [occursIn] at ih
    rw [occursIn, cutBefore?, List.infix_cons_iff, ← List.isPrefixOf_iff_prefix]
    split_ifs with hstart
    · simp [hstart]
    · rw [Option.isSome_map, ih]
      simp [hstart]

/-- A pattern that occurs in a text stands in front of or behind each character that it does not
hold. -/
theorem isInfix_or_isInfix {pattern before after : List Char} {c : Char} (hc : c ∉ pattern)
    (h : pattern <:+: before ++ c :: after) : pattern <:+: before ∨ pattern <:+: after := by
  obtain ⟨front, back, heq⟩ := h
  obtain ⟨more, rfl, -⟩ | ⟨more, hfront, hmore⟩ := List.append_eq_append_iff.mp heq
  · exact .inl ⟨front, more, rfl⟩
  cases more with
  | nil => exact .inl ⟨front, [], by rw [List.append_nil, hfront, List.append_nil]⟩
  | cons d more =>
    obtain ⟨rfl, rfl⟩ := List.cons.inj hmore
    -- The pattern ends behind the character, so it begins behind it, too.
    obtain ⟨rest, -, rfl⟩ | ⟨rest, -, hrest⟩ := List.append_eq_append_iff.mp hfront
    · exact absurd (List.mem_append_right _ List.mem_cons_self) hc
    · cases rest with
      | nil =>
        obtain rfl : c :: more = pattern := hrest
        exact absurd List.mem_cons_self hc
      | cons e rest =>
        obtain ⟨rfl, rfl⟩ := List.cons.inj hrest
        exact .inr ⟨rest, back, rfl⟩

/-- A pattern occurs nowhere in front of where its first character stands. -/
theorem isInfix_of_isInfix_append {c : Char} {pattern before after : List Char} (hc : c ∉ before)
    (h : c :: pattern <:+: before ++ after) : c :: pattern <:+: after := by
  induction before with
  | nil => exact h
  | cons d before ih =>
    rw [List.cons_append, List.infix_cons_iff] at h
    rcases h with hstart | hrest
    · rw [List.cons_prefix_cons] at hstart
      exact absurd (hstart.1 ▸ List.mem_cons_self) hc
    · exact ih (fun hmem => hc (List.mem_cons_of_mem d hmem)) hrest

/-- **A text is cut in front of a pattern that does not occur any earlier**, not even in part. -/
theorem cutBefore?_append {pattern before : List Char} (hne : pattern ≠ [])
    (h : ¬pattern <:+: before ++ pattern.dropLast) (after : List Char) :
    cutBefore? pattern (before ++ (pattern ++ after)) = some (before, pattern ++ after) := by
  induction before with
  | nil =>
    obtain ⟨c, rest, rfl⟩ := List.exists_cons_of_ne_nil hne
    rw [List.nil_append, List.cons_append, cutBefore?, if_pos]
    rw [List.isPrefixOf_iff_prefix]
    exact ⟨after, rfl⟩
  | cons c before ih =>
    have hlater : ¬pattern <:+: before ++ pattern.dropLast := fun hlater =>
      h (List.infix_cons_iff.mpr (.inr hlater))
    have hstart : ¬pattern <+: c :: (before ++ (pattern ++ after)) := by
      intro hstart
      -- An occurrence in front does not reach the end of the pattern behind it.
      have hfront : c :: before ++ pattern.dropLast <+: c :: (before ++ (pattern ++ after)) := by
        rw [List.cons_append, List.cons_prefix_cons, List.prefix_append_right_inj]
        exact ⟨rfl, pattern.dropLast_prefix.trans (List.prefix_append _ _)⟩
      have hlength : pattern.length ≤ (c :: before ++ pattern.dropLast).length := by
        rw [List.length_append, List.length_cons, List.length_dropLast]
        omega
      exact h (List.prefix_of_prefix_length_le hstart hfront hlength).isInfix
    rw [List.cons_append, cutBefore?, if_neg (mt List.isPrefixOf_iff_prefix.mp hstart), ih hlater]
    rfl

/-! ### Cutting -/

/-- A text is cut where the mark first stands. -/
theorem cutAt?_append {mark : Char} {before : List Char} (h : mark ∉ before) (after : List Char) :
    cutAt? mark (before ++ mark :: after) = some (before, after) := by
  induction before with
  | nil => simp [cutAt?]
  | cons c before ih =>
    have hc : c ≠ mark := fun hc => h (hc ▸ List.mem_cons_self)
    rw [List.cons_append, cutAt?, if_neg hc, ih fun hm => h (List.mem_cons_of_mem c hm)]
    rfl

/-- **The first part of a cut text reaches up to the mark and does not hold it.** -/
theorem cutAt?_eq_some_iff {mark : Char} {text before after : List Char} :
    cutAt? mark text = some (before, after) ↔ mark ∉ before ∧ text = before ++ mark :: after := by
  refine ⟨fun h => ⟨notMem_of_cutAt?_eq_some h, eq_of_cutAt?_eq_some h⟩, ?_⟩
  rintro ⟨hmark, rfl⟩
  exact cutAt?_append hmark after

/-- A text does not start with a pattern without the mark, if what stands in front of the mark does
not. -/
theorem afterStart?_append_eq_none {pattern before : List Char} {mark : Char}
    (hmark : mark ∉ pattern) (h : ¬pattern <+: before) (after : List Char) :
    afterStart? pattern (before ++ mark :: after) = none := by
  by_contra hne
  obtain ⟨rest, hrest⟩ := Option.ne_none_iff_exists'.mp hne
  rw [afterStart?_eq_some_iff] at hrest
  obtain ⟨more, hpattern, hmore⟩ | ⟨more, hbefore, -⟩ := List.append_eq_append_iff.mp hrest
  · -- The pattern reaches up to the mark at least, so it would hold the mark.
    cases more with
    | nil => exact h ⟨[], by rw [hpattern, List.append_nil, List.append_nil]⟩
    | cons c more =>
      rw [hpattern, (List.cons.inj hmore).1] at hmark
      exact hmark (List.mem_append_right _ List.mem_cons_self)
  · exact h ⟨more, hbefore.symm⟩

/-! ### Trimming -/

/-- Nothing is trimmed off a text without blanks. -/
theorem trim_eq_self {text : List Char} (h : ∀ c ∈ text, isBlank c = false) : trim text = text := by
  have hdrop : ∀ {cs : List Char}, (∀ c ∈ cs, isBlank c = false) → cs.dropWhile isBlank = cs := by
    intro cs hcs
    rw [List.dropWhile_eq_self_iff]
    intro hpos
    simp [hcs _ (List.getElem_mem hpos)]
  rw [trim, hdrop h, hdrop fun c hc => h c (List.mem_reverse.mp hc), List.reverse_reverse]

/-- Trimming takes nothing but blanks. -/
theorem mem_trim {text : List Char} {c : Char} (hblank : isBlank c = false) (h : c ∈ text) :
    c ∈ trim text := by
  have hdrop : ∀ {cs : List Char}, c ∈ cs → c ∈ cs.dropWhile isBlank := by
    intro cs hcs
    rw [← List.takeWhile_append_dropWhile (p := isBlank) (l := cs), List.mem_append] at hcs
    refine hcs.resolve_left fun htaken => ?_
    rw [List.mem_takeWhile_imp htaken] at hblank
    cases hblank
  rw [trim, List.mem_reverse]
  exact hdrop (List.mem_reverse.mpr (hdrop h))

end SelfCert.Text
