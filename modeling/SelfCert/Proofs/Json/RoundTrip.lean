import SelfCert.Proofs.Json.Scalars
import SelfCert.Proofs.Table

/-!
# JSON texts are read back

The compact text of a value is read as that value, if the value is plain (`Json.IsPlain`): it holds
no floating-point numbers, its objects have their keys in order, and it is not nested too deep. The
proof is one induction on the plain value for the reader with any text behind
(`Json.IsPlain.readsBack`).
-/

namespace SelfCert.Json

/-- A value without floating-point numbers, nested at most so many levels deep, whose objects have
their keys in order. -/
inductive IsPlain : Nat → Json → Prop where
  | null (levels : Nat) : IsPlain levels .null
  | bool (levels : Nat) (b : Bool) : IsPlain levels (.bool b)
  | integer (levels : Nat) (n : Integer) : IsPlain levels (.number (.integer n))
  | string (levels : Nat) (s : String) : IsPlain levels (.string s)
  | array {levels : Nat} {items : List Json} (h : ∀ item ∈ items, IsPlain levels item) :
    IsPlain (levels + 1) (.array items)
  | object {levels : Nat} {fields : List (String × Json)} (sorted : Table.IsSorted fields)
    (h : ∀ field ∈ fields, IsPlain levels field.2) : IsPlain (levels + 1) (.object fields)

section Fields

variable {levels : Nat} {fields : Object}

/-- An object stays plain with a plain field more. -/
theorem IsPlain.insert (h : IsPlain (levels + 1) (.object fields)) (key : String) {value : Json}
    (hvalue : IsPlain levels value) :
    IsPlain (levels + 1) (.object (Table.insert key value fields)) := by
  cases h with
  | object sorted hfields =>
    refine .object (sorted.insert key value) fun field hfield => ?_
    rcases Table.eq_or_mem_of_mem_insert hfield with rfl | hfield
    · exact hvalue
    · exact hfields field hfield

/-- An object of plain fields is plain. -/
theorem isPlain_ofFields {entries : List (String × Json)}
    (h : ∀ entry ∈ entries, IsPlain levels entry.2) : IsPlain (levels + 1) (ofFields entries) := by
  suffices hall : ∀ fields, IsPlain (levels + 1) (.object fields) →
      IsPlain (levels + 1) (.object (Table.insertAll entries fields)) from
    hall [] (.object .nil nofun)
  induction entries with
  | nil => exact fun _ hfields => hfields
  | cons entry entries ih =>
    intro fields hfields
    obtain ⟨hentry, hentries⟩ := List.forall_mem_cons.mp h
    exact ih hentries _ (hfields.insert entry.1 hentry)

end Fields

/-! ### How texts begin -/

/-- The blanks of JSON. -/
def blanks : List Char := [' ', '\n', '\r', '\t']

/-- Nothing is skipped in front of another character. -/
theorem skipBlanks_cons {c : Char} (h : c ∉ blanks) (rest : List Char) :
    skipBlanks (c :: rest) = c :: rest := by
  simp only [blanks, List.mem_cons, List.not_mem_nil, or_false, not_or] at h
  rw [skipBlanks, List.dropWhile_cons_of_neg]
  simp [h]

/-- An integer begins with a minus sign or a digit. -/
theorem exists_integerText_eq_cons (n : Int) :
    ∃ c text, integerText n = c :: text ∧ (c = '-' ∨ (Radix.decimalDigit? c).isSome) := by
  unfold integerText
  split_ifs
  · exact ⟨'-', _, rfl, .inl rfl⟩
  · obtain ⟨c, text, htext, hc⟩ := exists_decimal_eq_cons n.natAbs
    exact ⟨c, text, htext, .inr hc⟩

/-- What an integer begins with is no other character. -/
private theorem notMem_of_startsInteger {c : Char} {others : List Char}
    (h : c = '-' ∨ (Radix.decimalDigit? c).isSome)
    (hothers : others.all fun d => d != '-' && (Radix.decimalDigit? d).isNone) : c ∉ others := by
  intro hc
  have hnot := List.all_eq_true.mp hothers c hc
  rw [Bool.and_eq_true, bne_iff_ne] at hnot
  rcases h with h | h
  · exact hnot.1 h
  · rw [Option.isNone_iff_eq_none.mp hnot.2] at h
    cases h

/-- Whether a value may begin with a character: a word, a string, an array, an object or an
integer does. -/
def startsValue (c : Char) : Bool :=
  ['n', 't', 'f', '"', '[', '\x7b', '-'].contains c || (Radix.decimalDigit? c).isSome

theorem notMem_of_startsValue {c : Char} (h : startsValue c) {others : List Char}
    (hothers : others.all fun d => !startsValue d) : c ∉ others := fun hc => by
  have hnot := List.all_eq_true.mp hothers c hc
  rw [h] at hnot
  cases hnot

/-- A plain value has a text, which begins like one. -/
theorem IsPlain.exists_startsValue {levels : Nat} {value : Json} (h : IsPlain levels value) :
    ∃ c text, value.text = c :: text ∧ startsValue c := by
  cases h with
  | null => exact ⟨_, _, by rw [Json.text], by decide⟩
  | bool _ b => cases b <;> exact ⟨_, _, by rw [Json.text], by decide⟩
  | integer _ n =>
    obtain ⟨c, text, htext, hc⟩ := exists_integerText_eq_cons n.value
    refine ⟨c, text, by rw [Json.text, Number.text, htext], ?_⟩
    rcases hc with rfl | hc
    · decide
    · rw [startsValue, hc, Bool.or_true]
  | string _ s => exact ⟨_, _, by rw [Json.text, quoted, List.cons_append], by decide⟩
  | array h => exact ⟨_, _, by rw [Json.text, List.cons_append], by decide⟩
  | object sorted h => exact ⟨_, _, by rw [Json.text, List.cons_append], by decide⟩

/-- No plain value begins with a blank or with the end of an array. -/
theorem IsPlain.exists_text_eq_cons {levels : Nat} {value : Json} (h : IsPlain levels value) :
    ∃ c text, value.text = c :: text ∧ c ∉ blanks ∧ c ≠ ']' := by
  obtain ⟨c, text, htext, hc⟩ := h.exists_startsValue
  have hclose : c ∉ [']'] := notMem_of_startsValue hc (by decide)
  exact ⟨c, text, htext, notMem_of_startsValue hc (by decide),
    fun h => hclose (List.mem_singleton.mpr h)⟩

/-! ### Values -/

/-- A number is read where nothing else begins. -/
theorem readValue_integer (n : Integer) (steps depth : Nat) {rest : List Char}
    (hrest : EndsNumber rest) :
    readValue (steps + 1) depth (integerText n.value ++ rest) =
      some (.number (.integer n), rest) := by
  have hread := readNumber_integerText n hrest
  obtain ⟨c, text, htext, hc⟩ := exists_integerText_eq_cons n.value
  have hnot : c ∉ ['n', 't', 'f', '"', '[', '\x7b'] := notMem_of_startsInteger hc (by decide)
  simp only [List.mem_cons, List.not_mem_nil, or_false, not_or] at hnot
  obtain ⟨hn, ht, hf, hquote, hbracket, hbrace⟩ := hnot
  rw [htext, List.cons_append] at hread ⊢
  rw [readValue, skipBlanks_cons (notMem_of_startsInteger hc (by decide))]
  -- The first character selects none of the cases before the one for numbers.
  split
  · next heq => exact absurd (List.cons.inj heq).1 hn
  · next heq => exact absurd (List.cons.inj heq).1 ht
  · next heq => exact absurd (List.cons.inj heq).1 hf
  · next heq => exact absurd (List.cons.inj heq).1 hquote
  · next heq => exact absurd (List.cons.inj heq).1 hbracket
  · next heq => exact absurd (List.cons.inj heq).1 hbrace
  · rw [hread]
    rfl

theorem readValue_string (s : String) (steps depth : Nat) (rest : List Char) :
    readValue (steps + 1) depth (quoted s ++ rest) = some (.string s, rest) := by
  have htext : quoted s ++ rest = '"' :: (s.toList.flatMap escape ++ '"' :: rest) := by
    simp [quoted]
  rw [htext, readValue, skipBlanks_cons (by decide)]
  simp only [readString_flatMap_escape, Option.map_some, String.ofList_toList]

/-- Whether the text of a value is read back, whatever stands behind it that does not go on with a
number. Each character of the text allows for two steps. -/
def ReadsBack (levels : Nat) (value : Json) : Prop :=
  ∀ steps rest, 2 * value.text.length ≤ steps + 1 → EndsNumber rest →
    readValue (steps + 1) levels (value.text ++ rest) = some (value, rest)

/-- Items that are read back on their own are read back up to the closing bracket. -/
theorem readItems_append {levels : Nat} {items : List Json} (hne : items ≠ [])
    (h : ∀ item ∈ items, ReadsBack levels item) {steps : Nat}
    (hsteps : 2 * (itemsText items).length ≤ steps) (rest : List Char) :
    readItems (steps + 2) levels (itemsText items ++ ']' :: rest) = some (items, rest) := by
  induction items generalizing steps with
  | nil => exact absurd rfl hne
  | cons x more ih =>
    have hx := h x List.mem_cons_self
    cases more with
    | nil =>
      rw [itemsText] at hsteps ⊢
      rw [readItems, hx steps _ (by omega) (endsNumber_cons (by decide) _)]
      simp only [skipBlanks_cons (by decide : ']' ∉ blanks)]
    | cons y more =>
      rw [itemsText, List.length_append, List.length_cons] at hsteps
      -- One step is lost to the next item, which the comma pays for.
      obtain ⟨steps, rfl⟩ : ∃ k, steps = k + 1 := ⟨steps - 1, by omega⟩
      have hmore : readItems (steps + 2) levels (itemsText (y :: more) ++ ']' :: rest) =
          some (y :: more, rest) :=
        ih (List.cons_ne_nil _ _) (fun item hitem => h item (List.mem_cons_of_mem _ hitem))
          (by omega)
      rw [itemsText, List.append_assoc, List.cons_append, readItems,
        hx (steps + 1) _ (by omega) (endsNumber_cons (by decide) _)]
      simp only [skipBlanks_cons (by decide : ',' ∉ blanks), hmore, Option.map_some]

/-- A field is read up to the character behind its value, which tells whether it is the last. -/
theorem readFields_cons (key : String) {value : Json} {c : Char} {steps levels : Nat}
    {rest : List Char} (hblank : c ∉ blanks)
    (hvalue : readValue steps levels (value.text ++ c :: rest) = some (value, c :: rest)) :
    readFields (steps + 1) levels (quoted key ++ ':' :: (value.text ++ c :: rest)) =
      if c = '\x7d' then some ([(key, value)], rest)
      else if c = ',' then
        (readFields steps levels rest).map fun found => ((key, value) :: found.1, found.2)
      else none := by
  have hquote : '"' ∉ blanks := by decide
  have hcolon : ':' ∉ blanks := by decide
  have htext : quoted key ++ ':' :: (value.text ++ c :: rest) =
      '"' :: (key.toList.flatMap escape ++ '"' :: ':' :: (value.text ++ c :: rest)) := by
    simp [quoted]
  rw [htext, readFields, skipBlanks_cons hquote]
  simp only [readString_flatMap_escape, skipBlanks_cons hcolon, hvalue, skipBlanks_cons hblank,
    String.ofList_toList]
  split_ifs with hlast hmore
  · subst hlast
    rfl
  · subst hmore
    rfl
  · split
    · next heq => exact absurd (List.cons.inj heq).1 hlast
    · next heq => exact absurd (List.cons.inj heq).1 hmore
    · rfl

/-- Fields whose values are read back on their own are read back up to the closing brace. -/
theorem readFields_append {levels : Nat} {fields : List (String × Json)} (hne : fields ≠ [])
    (h : ∀ field ∈ fields, ReadsBack levels field.2) {steps : Nat}
    (hsteps : 2 * (fieldsText fields).length ≤ steps) (rest : List Char) :
    readFields (steps + 2) levels (fieldsText fields ++ '\x7d' :: rest) = some (fields, rest) := by
  induction fields generalizing steps with
  | nil => exact absurd rfl hne
  | cons first more ih =>
    obtain ⟨key, x⟩ := first
    have hx : ReadsBack levels x := h (key, x) List.mem_cons_self
    cases more with
    | nil =>
      have htext : fieldsText [(key, x)] ++ '\x7d' :: rest =
          quoted key ++ ':' :: (x.text ++ '\x7d' :: rest) := by
        simp [fieldsText]
      simp only [fieldsText, List.length_append, List.length_cons] at hsteps
      have hvalue := hx steps ('\x7d' :: rest) (by omega) (endsNumber_cons (by decide) _)
      rw [htext, readFields_cons key (by decide) hvalue, if_pos rfl]
    | cons y more =>
      have htext : fieldsText ((key, x) :: y :: more) ++ '\x7d' :: rest =
          quoted key ++ ':' :: (x.text ++ ',' :: (fieldsText (y :: more) ++ '\x7d' :: rest)) := by
        simp [fieldsText]
      simp only [fieldsText, List.length_append, List.length_cons] at hsteps
      -- As for items, the comma pays for the step that is lost.
      obtain ⟨steps, rfl⟩ : ∃ k, steps = k + 1 := ⟨steps - 1, by omega⟩
      have hmore : readFields (steps + 2) levels (fieldsText (y :: more) ++ '\x7d' :: rest) =
          some (y :: more, rest) :=
        ih (List.cons_ne_nil _ _) (fun field hfield => h field (List.mem_cons_of_mem _ hfield))
          (by omega)
      have hvalue := hx (steps + 1) (',' :: (fieldsText (y :: more) ++ '\x7d' :: rest)) (by omega)
        (endsNumber_cons (by decide) _)
      rw [htext, readFields_cons key (by decide) hvalue, if_neg (by decide), if_pos rfl, hmore,
        Option.map_some]

/-- Items do not begin with a blank or the closing bracket, if no value does. -/
theorem exists_itemsText_eq_cons {levels : Nat} {items : List Json} (hne : items ≠ [])
    (h : ∀ item ∈ items, IsPlain levels item) :
    ∃ c text, itemsText items = c :: text ∧ c ∉ blanks ∧ c ≠ ']' := by
  obtain ⟨x, more, rfl⟩ := List.exists_cons_of_ne_nil hne
  obtain ⟨c, text, htext, hc⟩ := (h x List.mem_cons_self).exists_text_eq_cons
  cases more with
  | nil => exact ⟨c, text, by rw [itemsText, htext], hc⟩
  | cons y more => exact ⟨c, _, by rw [itemsText, htext, List.cons_append], hc⟩

/-- Between brackets nothing or items are read. -/
theorem readsBack_array {levels : Nat} {items : List Json}
    (hplain : ∀ item ∈ items, IsPlain levels item)
    (h : ∀ item ∈ items, ReadsBack levels item) : ReadsBack (levels + 1) (.array items) := by
  intro steps rest hsteps _
  have htext : (Json.array items).text ++ rest = '[' :: (itemsText items ++ ']' :: rest) := by
    simp [Json.text]
  simp only [Json.text, List.length_append, List.length_cons, List.length_nil] at hsteps
  rw [htext, readValue, skipBlanks_cons (by decide)]
  simp only
  by_cases hne : items = []
  · subst hne
    rfl
  · obtain ⟨steps, rfl⟩ : ∃ k, steps = k + 2 := ⟨steps - 2, by omega⟩
    have hitems : readItems (steps + 2) levels (itemsText items ++ ']' :: rest) =
        some (items, rest) := readItems_append hne h (by omega) rest
    obtain ⟨c, text, hc, hblank, hclose⟩ := exists_itemsText_eq_cons hne hplain
    rw [hc, List.cons_append] at hitems ⊢
    rw [skipBlanks_cons hblank]
    -- An array with items is not taken for an empty one.
    split
    · next heq => exact absurd (List.cons.inj heq).1 hclose
    · rw [hitems]
      rfl

/-- Between braces nothing or fields are read, and fields in order are the table of themselves. -/
theorem readsBack_object {levels : Nat} {fields : List (String × Json)}
    (sorted : Table.IsSorted fields) (h : ∀ field ∈ fields, ReadsBack levels field.2) :
    ReadsBack (levels + 1) (.object fields) := by
  intro steps rest hsteps _
  have htext : (Json.object fields).text ++ rest =
      '\x7b' :: (fieldsText fields ++ '\x7d' :: rest) := by
    simp [Json.text]
  simp only [Json.text, List.length_append, List.length_cons, List.length_nil] at hsteps
  rw [htext, readValue, skipBlanks_cons (by decide)]
  simp only
  by_cases hne : fields = []
  · subst hne
    rfl
  · obtain ⟨steps, rfl⟩ : ∃ k, steps = k + 2 := ⟨steps - 2, by omega⟩
    have hfields : readFields (steps + 2) levels (fieldsText fields ++ '\x7d' :: rest) =
        some (fields, rest) := readFields_append hne h (by omega) rest
    obtain ⟨text, hopen⟩ : ∃ text, fieldsText fields ++ '\x7d' :: rest = '"' :: text := by
      obtain ⟨⟨key, x⟩, more, rfl⟩ := List.exists_cons_of_ne_nil hne
      cases more <;> exact ⟨_, rfl⟩
    rw [hopen] at hfields ⊢
    rw [skipBlanks_cons (by decide)]
    split
    · next heq => exact absurd (List.cons.inj heq).1 (by decide)
    · rw [hfields, Option.map_some, Table.ofList_eq_self sorted]

/-- A plain value is read back. -/
theorem IsPlain.readsBack {levels : Nat} {value : Json} (h : IsPlain levels value) :
    ReadsBack levels value := by
  induction h with
  | null levels =>
    intro steps rest _ _
    rw [Json.text, readValue]
    rfl
  | bool levels b =>
    intro steps rest _ _
    cases b <;> rw [Json.text, readValue] <;> rfl
  | integer levels n =>
    intro steps rest _ hrest
    rw [Json.text, Number.text, readValue_integer n steps levels hrest]
  | string levels s =>
    intro steps rest _ _
    rw [Json.text, readValue_string]
  | array hplain ih => exact readsBack_array hplain ih
  | object sorted _ ih => exact readsBack_object sorted ih

/-! ### Whole texts -/

/-- **The text of a plain value is read as this value.** -/
theorem parse?_compact {value : Json} (h : IsPlain maxDepth value) :
    parse? value.compact = some value := by
  have hread := h.readsBack (2 * value.text.length) [] (by omega) endsNumber_nil
  rw [List.append_nil] at hread
  rw [parse?, compact, String.toList_ofList, parseList?, hread]
  rfl

/-- The text of a plain object is read as this object. -/
theorem parseObject?_compact {fields : Object} (h : IsPlain maxDepth (.object fields)) :
    parseObject? (Json.object fields).compact = some fields := by
  rw [parseObject?, parse?_compact h]
  rfl

end SelfCert.Json
