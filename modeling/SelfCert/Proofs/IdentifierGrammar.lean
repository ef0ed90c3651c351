import SelfCert.Proofs.IdentifierText

/-!
# Which texts are identifiers

The text of an identifier is an address with an optional name and an at-sign in front of it and an
optional slash and terminal behind it (`Identifier.IsWrittenAs`). A text can be written like this in
one way at most (`Identifier.IsWrittenAs.eq`), and the reader finds it exactly if there is one
(`Identifier.parse_eq_ok_iff`). It replaces the spelling of the address by the text of the address
and keeps everything else (`identifier_grammar`).
-/

namespace SelfCert

namespace Identifier

/-- Whether a text can be a name or a terminal: it is not empty and holds neither of the marks. -/
def IsWord (text : String) : Prop :=
  text ≠ "" ∧ '@' ∉ text.toList ∧ '/' ∉ text.toList

/-- Whether a text consists of given parts: `[name "@"] address ["/" terminal]`. -/
structure IsWrittenAs (text : String) (parts : Split) : Prop where
  text_eq : text = textOf parts.name parts.address parts.terminal
  name : ∀ name ∈ parts.name, IsWord name
  terminal : ∀ terminal ∈ parts.terminal, IsWord terminal
  address : ∃ address, Address.parse parts.address = .ok address

/-! ### Cutting and putting together -/

/-- The two parts around the first at-sign are what stands in front of the slash. -/
theorem eq_frontOf_of_cutAt? {front name address : List Char}
    (h : Text.cutAt? '@' front = some (name, address)) :
    front = frontOf (some (String.ofList name)) (String.ofList address) := by
  rw [frontOf, String.toList_ofList, String.toList_ofList]
  exact Text.eq_of_cutAt?_eq_some h

/-- What a text is cut into is put together to the text again. -/
theorem textOf_of_split_eq_ok {text : String} {parts : Split} (h : split text = .ok parts) :
    text = textOf parts.name parts.address parts.terminal := by
  rw [← String.toList_inj]
  unfold split at h
  split_ifs at h with hempty
  rcases hslash : Text.cutAt? '/' text.toList with _ | ⟨front, terminal⟩
  · rw [hslash] at h
    rcases hat : Text.cutAt? '@' text.toList with _ | ⟨name, address⟩
    · simp only [hat] at h
      split_ifs at h
      cases h
      rw [toList_textOf_none, frontOf, String.ofList_toList]
    · simp only [hat] at h
      split_ifs at h
      cases h
      rw [toList_textOf_none]
      exact eq_frontOf_of_cutAt? hat
  · rw [hslash] at h
    rw [Text.eq_of_cutAt?_eq_some hslash]
    rcases hat : Text.cutAt? '@' front with _ | ⟨name, address⟩
    · simp only [hat] at h
      split_ifs at h
      cases h
      rw [toList_textOf_some, frontOf, String.toList_ofList, String.toList_ofList]
    · simp only [hat] at h
      split_ifs at h
      cases h
      rw [toList_textOf_some, String.toList_ofList, ← eq_frontOf_of_cutAt? hat]

/-! ### The grammar -/

theorem isWord_iff {text : String} : IsWord text ↔ isPartText text :=
  isPartText_iff.symm

/-- Cutting finds the parts that a text is written as. -/
theorem IsWrittenAs.split_eq {text : String} {parts : Split} (h : IsWrittenAs text parts) :
    split text = .ok parts := by
  obtain ⟨address, haddress⟩ := h.address
  rw [h.text_eq]
  exact split_textOf (fun name hname => isWord_iff.mp (h.name name hname))
    (Address.isPartText_of_parse_eq_ok haddress)

/-- **A text is written in one way at most.** -/
theorem IsWrittenAs.eq {text : String} {parts other : Split} (h : IsWrittenAs text parts)
    (hother : IsWrittenAs text other) : parts = other := by
  have heq := h.split_eq
  rw [hother.split_eq] at heq
  exact (Except.ok.inj heq).symm

/-- **A text reads as an identifier exactly if it is written as its name, a spelling of its address
and its terminal.** -/
theorem parse_eq_ok_iff {text : String} {id : Identifier} :
    parse text = .ok id ↔
      ∃ spelling, IsWrittenAs text ⟨id.name, spelling, id.terminal⟩ ∧
        Address.parse spelling = .ok id.address := by
  constructor
  · intro h
    obtain ⟨parts, hsplit, h⟩ := Except.bind_eq_ok_iff.mp h
    obtain ⟨address, hmap, hnew⟩ := Except.bind_eq_ok_iff.mp h
    have haddress : Address.parse parts.address = .ok address := Except.mapError_eq_ok_iff.mp hmap
    obtain ⟨hname, rfl, hterminal⟩ := parts_of_new_eq_ok hnew
    rw [hname, hterminal]
    refine ⟨parts.address, ⟨textOf_of_split_eq_ok hsplit, ?_, ?_, _, haddress⟩, haddress⟩
    · intro name hmem
      exact isWord_iff.mpr (id.name_isPart name (hname ▸ hmem))
    · intro terminal hmem
      exact isWord_iff.mpr (id.terminal_isPart terminal (hterminal ▸ hmem))
  · rintro ⟨spelling, hwritten, haddress⟩
    rw [parse_eq, hwritten.split_eq]
    simp only [haddress]
    exact id.new_parts

/-- A text that is written as parts reads as an identifier. -/
theorem IsWrittenAs.exists_parse_eq_ok {text : String} {parts : Split}
    (h : IsWrittenAs text parts) : ∃ id, parse text = .ok id := by
  obtain ⟨address, haddress⟩ := h.address
  let id : Identifier := ⟨parts.name, address, parts.terminal,
    fun name hname => isWord_iff.mp (h.name name hname),
    fun terminal hterminal => isWord_iff.mp (h.terminal terminal hterminal)⟩
  exact ⟨id, parse_eq_ok_iff.mpr ⟨parts.address, h, haddress⟩⟩

end Identifier

/-- **The grammar of identifiers.** A text reads as an identifier exactly if it can be written as
`[name "@"] address ["/" terminal]`, where name and terminal are not empty and hold no mark and the
address is accepted as one. There is one way at most to write it so. The identifier has the name and
the terminal of the text and the address that is spelled there, and its own text differs from the
one that was read in the spelling of the address at most; it reads as the identifier again. -/
theorem identifier_grammar (text : String) :
    ((∃ id, Identifier.parse text = .ok id) ↔ ∃ parts, Identifier.IsWrittenAs text parts) ∧
      (∀ parts other, Identifier.IsWrittenAs text parts → Identifier.IsWrittenAs text other →
        parts = other) ∧
      ∀ id parts, Identifier.parse text = .ok id → Identifier.IsWrittenAs text parts →
        id.name = parts.name ∧ id.terminal = parts.terminal ∧
          Address.parse parts.address = .ok id.address ∧
          text = Identifier.textOf parts.name parts.address parts.terminal ∧
          id.text = Identifier.textOf parts.name id.address.text parts.terminal ∧
          ∃ again, Identifier.parse id.text = .ok again ∧ again = id ∧ again.text = id.text := by
  refine ⟨⟨?_, ?_⟩, fun parts other h hother => h.eq hother, ?_⟩
  · rintro ⟨id, hparse⟩
    obtain ⟨spelling, hwritten, -⟩ := Identifier.parse_eq_ok_iff.mp hparse
    exact ⟨_, hwritten⟩
  · rintro ⟨parts, hwritten⟩
    exact hwritten.exists_parse_eq_ok
  · intro id parts hparse hwritten
    obtain ⟨spelling, hfound, haddress⟩ := Identifier.parse_eq_ok_iff.mp hparse
    obtain rfl := hwritten.eq hfound
    have hagain : Identifier.parse id.text = .ok id :=
      Identifier.parse_text (.parse haddress)
    exact ⟨rfl, rfl, haddress, hwritten.text_eq, rfl, id, hagain, rfl, rfl⟩

/-- The statement for a broadcast to anywhere with the word in upper case. -/
theorem identifier_grammar_anywhere :
    Identifier.IsWrittenAs "moky@ANYWHERE/phone" ⟨some "moky", "ANYWHERE", some "phone"⟩ ∧
      ∃ id, Identifier.parse "moky@ANYWHERE/phone" = .ok id ∧ id.name = some "moky" ∧
        id.terminal = some "phone" ∧ id.address = .anywhere ∧
        id.text = "moky@anywhere/phone" ∧ Identifier.parse id.text = .ok id := by
  have hwritten :
      Identifier.IsWrittenAs "moky@ANYWHERE/phone" ⟨some "moky", "ANYWHERE", some "phone"⟩ := by
    refine ⟨rfl, ?_, ?_, .anywhere, rfl⟩
    · rintro _ ⟨⟩
      exact ⟨by decide, by decide, by decide⟩
    · rintro _ ⟨⟩
      exact ⟨by decide, by decide, by decide⟩
  obtain ⟨haccepted, -, hparts⟩ := identifier_grammar "moky@ANYWHERE/phone"
  obtain ⟨id, hparse⟩ := haccepted.mpr ⟨_, hwritten⟩
  obtain ⟨hname, hterminal, haddress, -, htext, again, hagain, heq, -⟩ :=
    hparts id _ hparse hwritten
  have hanywhere : id.address = .anywhere := (Except.ok.inj haddress).symm
  rw [hanywhere] at htext
  exact ⟨hwritten, id, hparse, hname, hterminal, hanywhere, htext, heq ▸ hagain⟩

end SelfCert
