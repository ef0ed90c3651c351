import SelfCert.Identifier
import SelfCert.Proofs.AddressText
import SelfCert.Proofs.Except

/-!
# The text of an identifier

No issued address holds a mark, nor does a name or a terminal, so cutting the text of an identifier
at the first slash and then at the first at-sign gives its parts back (`Identifier.split_textOf`).
With the text of the address being read back as well, an identifier is what its text reads as
(`Identifier.parse_text`), and two identifiers with one text are equal.
-/

namespace SelfCert

/-! ### Texts without marks -/

theorem isUnmarked_iff {text : String} :
    isUnmarked text ↔ '@' ∉ text.toList ∧ '/' ∉ text.toList := by
  simp only [isUnmarked, List.all_eq_true, Bool.and_eq_true, bne_iff_ne]
  constructor
  · intro h
    exact ⟨fun hm => (h _ hm).1 rfl, fun hm => (h _ hm).2 rfl⟩
  · rintro ⟨hat, hslash⟩ c hc
    exact ⟨fun heq => hat (heq ▸ hc), fun heq => hslash (heq ▸ hc)⟩

theorem isPartText_iff {text : String} :
    isPartText text ↔ text ≠ "" ∧ '@' ∉ text.toList ∧ '/' ∉ text.toList := by
  rw [isPartText, Bool.and_eq_true, isUnmarked_iff, Bool.not_eq_true', String.isEmpty_eq_false_iff]

namespace Address

/-- A digit in either case is no mark. -/
private theorem digit_ne_mark {c : Char} (h : (Hex.digit? c).isSome) : c ≠ '@' ∧ c ≠ '/' := by
  constructor
  · rintro rfl
    exact absurd h (by decide)
  · rintro rfl
    exact absurd h (by decide)

/-- A text that agrees with a word up to the case of letters is no more empty than the word and has
no mark that the word does not have. -/
private theorem unmarked_of_lowerCase_eq {text word : String}
    (h : lowerCase text = lowerCase word) (hne : word ≠ "")
    (hword : '@' ∉ lowerCase word ∧ '/' ∉ lowerCase word) :
    text ≠ "" ∧ '@' ∉ text.toList ∧ '/' ∉ text.toList := by
  have hmark {mark : Char} (hlower : mark.toLower = mark) (hmark : mark ∉ lowerCase word) :
      mark ∉ text.toList := by
    intro hmem
    apply hmark
    rw [← h, ← hlower]
    exact List.mem_map_of_mem hmem
  refine ⟨?_, hmark (by decide) hword.1, hmark (by decide) hword.2⟩
  rintro rfl
  exact hne (String.toList_eq_nil_iff.mp (List.map_eq_nil_iff.mp h.symm))

/-- What is read as an address could be a name. -/
theorem isPartText_of_parse_eq_ok {text : String} {a : Address} (h : parse text = .ok a) :
    isPartText text := by
  rw [isPartText_iff]
  obtain ⟨-, hword⟩ | ⟨-, hword⟩ | ⟨digits, hhex, -⟩ | ⟨hmin, -, hbase58⟩ := parse_cases h
  · exact unmarked_of_lowerCase_eq hword (by decide) (by decide)
  · exact unmarked_of_lowerCase_eq hword (by decide) (by decide)
  · have hchars : ∀ c ∈ text.toList, c ≠ '@' ∧ c ≠ '/' := by
      intro c hc
      rw [hhex.toList_eq, List.mem_append] at hc
      obtain hmark | hdigit := hc
      · have hnotMem : '@' ∉ hexMark.toList ∧ '/' ∉ hexMark.toList := by decide
        exact ⟨ne_of_mem_of_not_mem hmark hnotMem.1, ne_of_mem_of_not_mem hmark hnotMem.2⟩
      · exact digit_ne_mark (hhex.isDigit c hdigit)
    refine ⟨?_, fun hm => (hchars _ hm).1 rfl, fun hm => (hchars _ hm).2 rfl⟩
    rintro rfl
    cases hhex.toList_eq
  · have halphabet := (eq_of_parseBase58_eq_ok hbase58).2.2
    refine ⟨?_, fun hm => (alphabet_facts (halphabet _ hm)).2.1 rfl,
      fun hm => (alphabet_facts (halphabet _ hm)).2.2 rfl⟩
    rintro rfl
    exact absurd hmin (by decide)

/-- The text of an issued address could be a name. -/
theorem Issued.isPartText_text {a : Address} (h : a.Issued) : isPartText a.text :=
  isPartText_of_parse_eq_ok h.parse_text

end Address

namespace Identifier

/-! ### Taking a text apart -/

/-- The text in front of the slash. -/
def frontOf (name : Option String) (address : String) : List Char :=
  match name with
  | some name => name.toList ++ '@' :: address.toList
  | none => address.toList

theorem toList_textOf_some (name : Option String) (address terminal : String) :
    (textOf name address (some terminal)).toList =
      frontOf name address ++ '/' :: terminal.toList := by
  cases name <;> simp [textOf, frontOf]

theorem toList_textOf_none (name : Option String) (address : String) :
    (textOf name address none).toList = frontOf name address := by
  cases name <;> simp [textOf, frontOf]

/-- What stands in front of the slash is cut at the at-sign into name and address. -/
private theorem cutAt?_frontOf {name : Option String} {address : String}
    (hname : ∀ text ∈ name, isPartText text) (haddress : isPartText address) :
    Text.cutAt? '@' (frontOf name address) =
      name.map fun name => (name.toList, address.toList) := by
  cases name with
  | none => simp [frontOf, Text.cutAt?_eq_none_iff.mpr (isPartText_iff.mp haddress).2.1]
  | some name =>
    have hat := (isPartText_iff.mp (hname name rfl)).2.1
    simp [frontOf, Text.cutAt?_append hat]

/-- What stands in front of the slash holds no slash. -/
theorem slash_notMem_frontOf {name : Option String} {address : String}
    (hname : ∀ text ∈ name, isPartText text) (haddress : isPartText address) :
    '/' ∉ frontOf name address := by
  have hslash := (isPartText_iff.mp haddress).2.2
  cases name with
  | none => exact hslash
  | some name =>
    have hslash' := (isPartText_iff.mp (hname name rfl)).2.2
    simp [frontOf, hslash, hslash']

/-- Texts of parts are taken apart again. -/
theorem split_textOf {name : Option String} {address : String} {terminal : Option String}
    (hname : ∀ text ∈ name, isPartText text) (haddress : isPartText address) :
    split (textOf name address terminal) = .ok ⟨name, address, terminal⟩ := by
  have hslash := slash_notMem_frontOf hname haddress
  have hfront := cutAt?_frontOf hname haddress
  have hne : address.toList ≠ [] := by
    simpa using (isPartText_iff.mp haddress).1
  have hnonempty : (textOf name address terminal).isEmpty = false := by
    rw [String.isEmpty_eq_false_iff]
    intro hempty
    cases name <;> cases terminal <;> simp_all [textOf]
  rw [split, if_neg (by simp [hnonempty])]
  cases terminal with
  | none =>
    simp only [toList_textOf_none, Text.cutAt?_eq_none_iff.mpr hslash, hfront]
    cases name <;> simp [frontOf, hne]
  | some terminal =>
    simp only [toList_textOf_some, Text.cutAt?_append hslash, hfront]
    cases name <;> simp [frontOf, hne]

/-! ### Parts and texts -/

private theorem checkPart_eq_none {part : IdentifierPart} {text : Option String}
    (h : ∀ t ∈ text, isPartText t) : checkPart part text = none := by
  cases text with
  | none => rfl
  | some t =>
    have ht := h t rfl
    simp only [isPartText, Bool.and_eq_true, Bool.not_eq_true'] at ht
    simp [checkPart, ht.1, ht.2]

/-- An identifier is made again from its parts. -/
theorem new_parts (id : Identifier) : new id.name id.address id.terminal = .ok id := by
  unfold new
  split
  · next error herror =>
    rw [checkPart_eq_none id.name_isPart] at herror
    cases herror
  · split
    · next error herror =>
      rw [checkPart_eq_none id.terminal_isPart] at herror
      cases herror
    · rfl

/-- What is made from parts has these parts. -/
theorem parts_of_new_eq_ok {name : Option String} {address : Address} {terminal : Option String}
    {id : Identifier} (h : new name address terminal = .ok id) :
    id.name = name ∧ id.address = address ∧ id.terminal = terminal := by
  unfold new at h
  split at h
  · cases h
  · split at h
    · cases h
    · cases h
      exact ⟨rfl, rfl, rfl⟩

/-- What is made from an issued address has it. -/
theorem issued_of_new_eq_ok {name : Option String} {address : Address} {terminal : Option String}
    {id : Identifier} (h : new name address terminal = .ok id) (issued : address.Issued) :
    id.address.Issued := by
  rw [(parts_of_new_eq_ok h).2.1]
  exact issued

/-- Reading, step by step. -/
theorem parse_eq (text : String) :
    parse text =
      match split text with
      | .error error => .error error
      | .ok parts =>
        match Address.parse parts.address with
        | .error error => .error (.address error)
        | .ok address => new parts.name address parts.terminal := by
  simp only [parse, parseAddress, bind, Except.bind]
  cases split text with
  | error error => rfl
  | ok parts =>
    dsimp only
    cases Address.parse parts.address <;> rfl

/-- **Identifier texts read back.** An identifier of an issued address is what its text reads as. -/
theorem parse_text {id : Identifier} (h : id.address.Issued) : parse id.text = .ok id := by
  have hsplit : split id.text = .ok ⟨id.name, id.address.text, id.terminal⟩ :=
    split_textOf id.name_isPart h.isPartText_text
  rw [parse_eq, hsplit]
  simp only [h.parse_text]
  exact new_parts id

/-- The text tells identifiers of issued addresses apart. -/
theorem eq_of_text_eq {a b : Identifier} (ha : a.address.Issued) (hb : b.address.Issued)
    (h : a.text = b.text) : a = b := by
  have hparse := parse_text ha
  rw [h, parse_text hb] at hparse
  exact (Except.ok.inj hparse).symm

/-- What is read has an issued address. -/
theorem issued_of_parse_eq_ok {text : String} {id : Identifier} (h : parse text = .ok id) :
    id.address.Issued := by
  obtain ⟨parts, -, h⟩ := Except.bind_eq_ok_iff.mp h
  obtain ⟨address, haddress, hnew⟩ := Except.bind_eq_ok_iff.mp h
  have hparse : Address.parse parts.address = .ok address := Except.mapError_eq_ok_iff.mp haddress
  exact issued_of_new_eq_ok hnew (.parse hparse)

end Identifier

end SelfCert
