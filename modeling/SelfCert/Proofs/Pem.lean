import SelfCert.Pem
import SelfCert.Proofs.Codec.Base64
import SelfCert.Proofs.Text.Basic

/-!
# Blocks are found and read back

Between the marks of a block stands its body, lines of Base64 text that are read as the bytes they
were written for (`Pem.decode?_body`). The lines hold no hyphen, and the marks hold no line feed, so
a mark is found only where marks stand: of blocks behind each other, each is found by its own label
if this label is not the end of another one (`Pem.find?_append_write`).
-/

namespace SelfCert.Pem

/-! ### Lines -/

/-- Text in lines, with a line feed between them. The first argument bounds their number. -/
def lines : Nat → List Char → List Char
  | 0, text => text
  | count + 1, text =>
    if text.length ≤ lineLength then text
    else text.take lineLength ++ '\n' :: lines count (text.drop lineLength)

/-- Whether a text has no line ends. -/
def IsLine (text : List Char) : Prop := ∀ c ∈ text, c ≠ '\n' ∧ c ≠ '\r'

variable {count : Nat} {text : List Char}

theorem IsLine.drop (h : IsLine text) (n : Nat) : IsLine (text.drop n) :=
  fun c hc => h c (List.mem_of_mem_drop hc)

/-- Lines hold what the text holds, and line feeds. -/
theorem eq_or_mem_of_mem_lines {c : Char} (h : c ∈ lines count text) : c = '\n' ∨ c ∈ text := by
  induction count generalizing text with
  | zero => exact .inr h
  | succ count ih =>
    rw [lines] at h
    split_ifs at h
    · exact .inr h
    · rcases List.mem_append.mp h with h | h
      · exact .inr (List.mem_of_mem_take h)
      · rcases List.mem_cons.mp h with rfl | h
        · exact .inl rfl
        · exact (ih h).imp_right List.mem_of_mem_drop

theorem lines_ne_nil (hne : text ≠ []) : lines count text ≠ [] := by
  cases count with
  | zero => exact hne
  | succ count =>
    rw [lines]
    split_ifs
    · exact hne
    · simp

private theorem drop_ne_nil (h : ¬text.length ≤ lineLength) : text.drop lineLength ≠ [] := by
  rw [ne_eq, List.drop_eq_nil_iff]
  exact h

private theorem length_drop_le (hcount : text.length ≤ count + 1) :
    (text.drop lineLength).length ≤ count := by
  rw [List.length_drop, lineLength]
  omega

/-- Full lines are lines with a line feed behind the last one. -/
theorem wrap_eq (hcount : text.length ≤ count) (hne : text ≠ []) :
    wrap count text = lines count text ++ ['\n'] := by
  induction count generalizing text with
  | zero => exact absurd (List.eq_nil_of_length_eq_zero (Nat.le_zero.mp hcount)) hne
  | succ count ih =>
    have hwrap : wrap (count + 1) text =
        text.take lineLength ++ '\n' :: wrap count (text.drop lineLength) := by
      cases text with
      | nil => exact absurd rfl hne
      | cons c rest => rfl
    rw [hwrap, lines]
    split_ifs with hshort
    · have hnone : wrap count [] = [] := by cases count <;> rfl
      rw [List.drop_of_length_le hshort, List.take_of_length_le hshort, hnone]
    · rw [ih (length_drop_le hcount) (drop_ne_nil hshort), List.append_assoc, List.cons_append]

/-! ### Line ends -/

/-- Nothing is trimmed off a line. -/
theorem IsLine.trimLineEnd_eq (h : IsLine text) : trimLineEnd text = text := by
  have hnone : beforeLineEnd? text = none := by
    have hreverse : ∀ c ∈ text.reverse, c ≠ '\n' ∧ c ≠ '\r' := fun c hc =>
      h c (List.mem_reverse.mp hc)
    unfold beforeLineEnd?
    split
    · next heq => exact absurd rfl (hreverse '\n' (heq ▸ List.mem_cons_self)).1
    · next heq => exact absurd rfl (hreverse '\n' (heq ▸ List.mem_cons_self)).1
    · next heq => exact absurd rfl (hreverse '\r' (heq ▸ List.mem_cons_self)).2
    · rfl
  rw [trimLineEnd, hnone, Option.getD_none]

/-- The line feed behind lines without carriage returns is taken off. -/
theorem beforeLineEnd?_append (h : '\r' ∉ text) :
    beforeLineEnd? (text ++ ['\n']) = some text := by
  have hreverse : '\r' ∉ text.reverse := fun hmem => h (List.mem_reverse.mp hmem)
  unfold beforeLineEnd?
  rw [List.reverse_append, List.reverse_singleton, List.singleton_append]
  split
  · next heq =>
    rw [(List.cons.inj heq).2] at hreverse
    exact absurd List.mem_cons_self hreverse
  · next heq => rw [← (List.cons.inj heq).2, List.reverse_reverse]
  · next heq => cases (List.cons.inj heq).1
  · next hnewline _ => exact absurd rfl (hnewline _)

/-! ### Joining lines -/

/-- A full line is put in front of what the lines behind it are joined to. -/
theorem unwrap?_append {bound : Nat} {line rest more : List Char}
    (hlength : line.length = lineLength) (hrest : rest ≠ [])
    (hmore : unwrap? bound rest = some more) (hne : more ≠ []) :
    unwrap? (bound + 1) (line ++ '\n' :: rest) = some (line ++ more) := by
  have hlong : ¬(line ++ '\n' :: rest).length ≤ lineLength := by
    rw [List.length_append, List.length_cons, hlength]
    omega
  rw [unwrap?]
  simp only [if_neg hlong, List.take_left' hlength, List.drop_left' hlength, afterLineEnd?]
  cases rest with
  | nil => exact absurd rfl hrest
  | cons c rest =>
    simp only [hmore]
    cases more with
    | nil => exact absurd rfl hne
    | cons d more => rfl

/-- **Lines are joined to the text that was cut.** -/
theorem unwrap?_lines (hline : IsLine text) (hcount : text.length ≤ count) {bound : Nat}
    (hbound : (lines count text).length < bound) : unwrap? bound (lines count text) = some text := by
  induction count generalizing text bound with
  | zero =>
    obtain rfl := List.eq_nil_of_length_eq_zero (Nat.le_zero.mp hcount)
    obtain ⟨bound, rfl⟩ := Nat.exists_eq_add_one_of_ne_zero (Nat.ne_zero_of_lt hbound)
    rfl
  | succ count ih =>
    obtain ⟨bound, rfl⟩ := Nat.exists_eq_add_one_of_ne_zero (Nat.ne_zero_of_lt hbound)
    rw [lines] at hbound ⊢
    split_ifs at hbound ⊢ with hshort
    · rw [unwrap?]
      simp only [if_pos hshort, hline.trimLineEnd_eq]
    · have hline' : (text.take lineLength).length = lineLength := by
        rw [List.length_take]
        omega
      have hdrop := drop_ne_nil hshort
      have hmore : unwrap? bound (lines count (text.drop lineLength)) =
          some (text.drop lineLength) := by
        refine ih (hline.drop _) (length_drop_le hcount) ?_
        rw [List.length_append, List.length_cons] at hbound
        omega
      rw [unwrap?_append hline' (lines_ne_nil hdrop) hmore hdrop, List.take_append_drop]

/-! ### Bodies -/

/-- What stands between the marks of a block. -/
def body (bytes : Bytes) : List Char :=
  '\n' :: wrap (Base64.digits bytes).length (Base64.digits bytes)

theorem toList_write (label : String) (bytes : Bytes) :
    (write label bytes).toList =
      (opening label).toList ++ (body bytes ++ ((closing label).toList ++ ['\n'])) := by
  simp [write, body]

/-- The digits of bytes make one line. -/
theorem isLine_digits (bytes : Bytes) : IsLine (Base64.digits bytes) := by
  have hfeed : '\n' ∉ '=' :: Base64.alphabet := by decide
  have hreturn : '\r' ∉ '=' :: Base64.alphabet := by decide
  intro c hc
  have hmem : c ∈ '=' :: Base64.alphabet := Base64.mem_of_mem_digits hc
  exact ⟨ne_of_mem_of_not_mem hmem hfeed, ne_of_mem_of_not_mem hmem hreturn⟩

/-- A body consists of digits, padding and line feeds. -/
theorem hyphen_notMem_wrap (bytes : Bytes) :
    '-' ∉ wrap (Base64.digits bytes).length (Base64.digits bytes) := by
  intro hmem
  have hdigits : '-' ∈ Base64.digits bytes := by
    by_cases hne : Base64.digits bytes = []
    · rw [hne] at hmem
      cases hmem
    · rw [wrap_eq (Nat.le_refl _) hne, List.mem_append] at hmem
      rcases hmem with hmem | hmem
      · exact (eq_or_mem_of_mem_lines hmem).resolve_left (by decide)
      · exact absurd hmem (by decide)
  exact absurd (Base64.mem_of_mem_digits hdigits) (by decide)

/-- **The body of a block is read as its bytes**, if there are any. -/
theorem decode?_body {bytes : Bytes} (hne : bytes ≠ []) : decode? (body bytes) = some bytes := by
  let text := Base64.digits bytes
  have hdigits : text ≠ [] := by
    intro h
    have hread := Base64.ofDigits?_digits bytes
    rw [show Base64.digits bytes = [] from h] at hread
    exact hne (Option.some.inj hread).symm
  have hreturn : '\r' ∉ lines text.length text := fun hmem =>
    (isLine_digits bytes _ ((eq_or_mem_of_mem_lines hmem).resolve_left (by decide))).2 rfl
  have hends : (afterLineEnd? (body bytes)).bind beforeLineEnd? = some (lines text.length text) := by
    rw [body, wrap_eq (Nat.le_refl _) hdigits, afterLineEnd?, Option.bind_some,
      beforeLineEnd?_append hreturn]
  have hjoin : unwrap? ((lines text.length text).length + 1) (lines text.length text) = some text :=
    unwrap?_lines (isLine_digits bytes) (Nat.le_refl _) (Nat.lt_succ_self _)
  have hlines : lines text.length text ≠ [] := lines_ne_nil hdigits
  rw [decode?, hends]
  split
  · next heq => cases heq
  · next heq => exact absurd (Option.some.inj heq) hlines
  · next heq =>
    rw [← Option.some.inj heq, hjoin, Option.bind_some]
    exact Base64.ofDigits?_digits bytes

/-! ### Finding -/

/-- A pattern that begins with a hyphen and holds no line feed does not occur in a body, so it
stands in what is in front of the body or behind it. -/
theorem isInfix_body_append {pattern front rest : List Char} (bytes : Bytes)
    (hline : '\n' ∉ '-' :: pattern) (h : '-' :: pattern <:+: front ++ (body bytes ++ rest)) :
    '-' :: pattern <:+: front ∨ '-' :: pattern <:+: rest := by
  rw [body, List.cons_append] at h
  exact (Text.isInfix_or_isInfix hline h).imp_right
    (Text.isInfix_of_isInfix_append (hyphen_notMem_wrap bytes))

theorem exists_opening_eq_cons (label : String) :
    ∃ pattern, (opening label).toList = '-' :: pattern :=
  ⟨"----BEGIN ".toList ++ (label.toList ++ "-----".toList), by simp [opening]⟩

theorem exists_closing_eq_cons (label : String) :
    ∃ pattern, (closing label).toList = '-' :: pattern :=
  ⟨"----END ".toList ++ (label.toList ++ "-----".toList), by simp [closing]⟩

/-- Whether the marks of a label are lines, and the closing one does not occur in the opening
one. -/
def IsLabel (label : String) : Prop :=
  '\n' ∉ (opening label).toList ∧ '\n' ∉ (closing label).toList ∧
    ¬Text.occursIn (closing label).toList (opening label).toList

instance (label : String) : Decidable (IsLabel label) :=
  inferInstanceAs (Decidable (_ ∧ _ ∧ _))

/-- **A block is found by its label**, whatever stands behind it, if its opening mark does not occur
earlier. -/
theorem find?_append_write {label front : String} (hlabel : IsLabel label)
    (hfront : ¬(opening label).toList <:+: front.toList ++ (opening label).toList.dropLast)
    (bytes : Bytes) (rest : String) :
    find? label (front ++ write label bytes ++ rest) = some (body bytes) := by
  obtain ⟨-, hline, hapart⟩ := hlabel
  obtain ⟨pattern, hpattern⟩ := exists_closing_eq_cons label
  have hopening : (opening label).toList ≠ [] := by
    obtain ⟨_, h⟩ := exists_opening_eq_cons label
    rw [h]
    exact List.cons_ne_nil _ _
  have hclosing : (closing label).toList ≠ [] := by
    rw [hpattern]
    exact List.cons_ne_nil _ _
  have hinside : ¬(closing label).toList <:+:
      ((opening label).toList ++ body bytes) ++ (closing label).toList.dropLast := by
    intro hinfix
    rw [List.append_assoc, hpattern] at hinfix
    rw [hpattern] at hline
    rcases isInfix_body_append bytes hline hinfix with hfound | hfound
    · rw [← hpattern] at hfound
      exact hapart (Text.occursIn_iff.mpr hfound)
    · -- A mark is longer than what is left of it without its last character.
      have hlength := hfound.length_le
      rw [List.length_dropLast, List.length_cons] at hlength
      omega
  have htext : (front ++ write label bytes ++ rest).toList = front.toList ++
      ((opening label).toList ++ (body bytes ++ ((closing label).toList ++ '\n' :: rest.toList))) := by
    simp [toList_write]
  rw [find?, Text.between?, htext, Text.cutBefore?_append hopening hfront]
  simp only
  rw [← List.append_assoc, Text.cutBefore?_append hclosing hinside, Option.map_some,
    List.drop_left' rfl]

/-- The first block with a label that a text holds: its marks and what stands between them. -/
def block? (label text : String) : Option String :=
  (find? label text).map fun inner => opening label ++ String.ofList inner ++ closing label

/-- A block whose body is found was written for the bytes, up to the line feed behind it. -/
theorem map_block?_eq {label text : String} {bytes : Bytes}
    (h : find? label text = some (body bytes)) :
    (block? label text).map (· ++ "\n") = some (write label bytes) := by
  rw [block?, h, Option.map_some, Option.map_some, Option.some_inj, ← String.toList_inj]
  simp [toList_write]

/-- A pattern that begins with a hyphen and holds no line feed occurs in a block only in its marks. -/
theorem isInfix_write_append {pattern rest : List Char} {label : String} {bytes : Bytes}
    (hline : '\n' ∉ '-' :: pattern) (h : '-' :: pattern <:+: (write label bytes).toList ++ rest) :
    '-' :: pattern <:+: (opening label).toList ∨
      '-' :: pattern <:+: (closing label).toList ++ '\n' :: rest := by
  rw [toList_write, List.append_assoc, List.append_assoc, List.append_assoc,
    List.singleton_append] at h
  exact isInfix_body_append bytes hline h

/-- **The second of two blocks is found by its label**, if its opening mark occurs neither in the
marks of the first one nor where they meet. -/
theorem find?_write_append_write {label other between : String} (hother : IsLabel other)
    (hopening : ¬Text.occursIn (opening other).toList (opening label).toList)
    (hclosing : ¬Text.occursIn (opening other).toList
      ((closing label).toList ++ '\n' :: (between.toList ++ (opening other).toList.dropLast)))
    (first second : Bytes) :
    find? other (write label first ++ between ++ write other second) = some (body second) := by
  have hfront : ¬(opening other).toList <:+:
      (write label first ++ between).toList ++ (opening other).toList.dropLast := by
    intro hinfix
    obtain ⟨pattern, hpattern⟩ := exists_opening_eq_cons other
    have hline : '\n' ∉ '-' :: pattern := hpattern ▸ hother.1
    rw [Text.occursIn_iff, hpattern] at hopening hclosing
    rw [String.toList_append, List.append_assoc, hpattern] at hinfix
    rcases isInfix_write_append hline hinfix with hfound | hfound
    · exact hopening hfound
    · exact hclosing hfound
  have hfound := find?_append_write hother hfront second ""
  rwa [String.append_empty] at hfound

end SelfCert.Pem
