/-!
# Searching in text

Where a pattern first occurs in a text, and the part between two marks.
-/

namespace SelfCert.Text

/-- Cuts a text in front of the first occurrence of a pattern. -/
def cutBefore? (pattern : List Char) : List Char → Option (List Char × List Char)
  | [] => if pattern.isEmpty then some ([], []) else none
  | c :: rest =>
    if pattern.isPrefixOf (c :: rest) then some ([], c :: rest)
    else (cutBefore? pattern rest).map fun (before, found) => (c :: before, found)

/-- Whether a pattern occurs in a text. -/
def occursIn (pattern text : List Char) : Bool :=
  (cutBefore? pattern text).isSome

/-- The part between the first occurrence of an opening mark and the next occurrence of a closing
mark. The closing mark may begin within the opening one; then there is nothing between them. -/
def between? (opening closing text : List Char) : Option (List Char) :=
  match cutBefore? opening text with
  | none => none
  | some (_, found) =>
    (cutBefore? closing found).map fun (before, _) => before.drop opening.length

/-- The text behind a pattern that it starts with. -/
def afterStart? : List Char → List Char → Option (List Char)
  | [], text => some text
  | _ :: _, [] => none
  | p :: pattern, c :: text => if p = c then afterStart? pattern text else none

/-- Cuts a text at the first occurrence of a character, which neither part keeps. -/
def cutAt? (mark : Char) : List Char → Option (List Char × List Char)
  | [] => none
  | c :: rest =>
    if c = mark then some ([], rest)
    else (cutAt? mark rest).map fun (before, after) => (c :: before, after)

/-- A text starts with a pattern exactly if it is that pattern and what stands behind it. -/
theorem afterStart?_eq_some_iff {pattern text rest : List Char} :
    afterStart? pattern text = some rest ↔ text = pattern ++ rest := by
  induction pattern generalizing text with
  | nil => simp [afterStart?]
  | cons p pattern ih =>
    cases text with
    | nil => simp [afterStart?]
    | cons c text =>
      by_cases same : p = c
      · simp [afterStart?, same, ih]
      · simp [afterStart?, same, Ne.symm same]

/-- A text cut at a character is put together again with that character. -/
theorem eq_of_cutAt?_eq_some {mark : Char} {text before after : List Char}
    (h : cutAt? mark text = some (before, after)) : text = before ++ mark :: after := by
  induction text generalizing before with
  | nil => simp [cutAt?] at h
  | cons c rest ih =>
    by_cases same : c = mark
    · simp only [cutAt?, same, if_true, Option.some.injEq, Prod.mk.injEq] at h
      obtain ⟨rfl, rfl⟩ := h
      simp [same]
    · simp only [cutAt?, same, if_false, Option.map_eq_some_iff] at h
      obtain ⟨⟨b, a⟩, found, eq⟩ := h
      simp only [Prod.mk.injEq] at eq
      obtain ⟨rfl, rfl⟩ := eq
      simp [ih found]

/-- The first part of a text cut at a character does not hold it. -/
theorem notMem_of_cutAt?_eq_some {mark : Char} {text before after : List Char}
    (h : cutAt? mark text = some (before, after)) : mark ∉ before := by
  induction text generalizing before with
  | nil => simp [cutAt?] at h
  | cons c rest ih =>
    by_cases same : c = mark
    · simp only [cutAt?, same, if_true, Option.some.injEq, Prod.mk.injEq] at h
      obtain ⟨rfl, rfl⟩ := h
      simp
    · simp only [cutAt?, same, if_false, Option.map_eq_some_iff] at h
      obtain ⟨⟨b, a⟩, found, eq⟩ := h
      simp only [Prod.mk.injEq] at eq
      obtain ⟨rfl, rfl⟩ := eq
      simp [ih found, Ne.symm same]

/-- A text is not cut exactly when it does not hold the character. -/
theorem cutAt?_eq_none_iff {mark : Char} {text : List Char} :
    cutAt? mark text = none ↔ mark ∉ text := by
  induction text with
  | nil => simp [cutAt?]
  | cons c rest ih =>
    by_cases same : c = mark
    · simp [cutAt?, same]
    · simp [cutAt?, same, ih, Ne.symm same]

end SelfCert.Text
