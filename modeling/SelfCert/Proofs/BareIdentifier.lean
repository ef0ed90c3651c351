import SelfCert.Proofs.Matching

/-!
# The text of an identifier tells its parts

The text of an identifier is a faithful name for it: it reads as the parts it was written from, and
only identifiers with the same parts share it (`Identifier.text_eq_iff`). What stands in front of
its first slash is the text of the identifier without its terminal (`Identifier.takeWhile_text`), so
the two ways to get rid of a terminal agree.
-/

namespace SelfCert

namespace Identifier

/-- In front of the first slash of a text of parts stands what is in front of the terminal. -/
theorem takeWhile_textOf {name : Option String} {address : String} (terminal : Option String)
    (hname : ∀ text ∈ name, isPartText text) (haddress : isPartText address) :
    (textOf name address terminal).toList.takeWhile (· ≠ '/') = frontOf name address := by
  have hfront : ∀ c ∈ frontOf name address, decide (c ≠ '/') = true := fun c hc =>
    decide_eq_true fun heq => slash_notMem_frontOf hname haddress (heq ▸ hc)
  cases terminal with
  | none => rw [toList_textOf_none, List.takeWhile_eq_self_iff.mpr hfront]
  | some terminal =>
    rw [toList_textOf_some, List.takeWhile_append_of_pos hfront, List.takeWhile_cons_of_neg,
      List.append_nil]
    decide

/-- Cutting the text of an identifier at its first slash leaves the text without the terminal. -/
theorem takeWhile_text {did : Identifier} (issued : did.address.Issued) :
    String.ofList (did.text.toList.takeWhile (· ≠ '/')) = did.withoutTerminal.text := by
  have hfront := takeWhile_textOf did.terminal did.name_isPart issued.isPartText_text
  rw [← toList_textOf_none] at hfront
  rw [text, hfront, String.ofList_toList]
  rfl

/-- Identifiers of issued addresses share a text exactly if they share all three parts. -/
theorem text_eq_iff {a b : Identifier} (ha : a.address.Issued) (hb : b.address.Issued) :
    a.text = b.text ↔
      a.name = b.name ∧ a.address.text = b.address.text ∧ a.terminal = b.terminal := by
  constructor
  · intro h
    rw [eq_of_text_eq ha hb h]
    exact ⟨rfl, rfl, rfl⟩
  · rintro ⟨hname, haddress, hterminal⟩
    rw [text, text, hname, haddress, hterminal]

end Identifier

/-- **Identifier texts are faithful.** Whatever parts an identifier is made from, its text reads as
an identifier with these parts. So identifiers share a text exactly if they share the name, the text
of the address and the terminal, and then their addresses agree in network and form too. Leaving
out the terminal is the same as reading the text up to its first slash, and happens once at most. -/
theorem identifier_text_is_faithful :
    (∀ (name : Option String) (address : Address) (terminal : Option String) (did : Identifier),
        address.Issued → Identifier.new name address terminal = .ok did →
          ∃ read, Identifier.parse did.text = .ok read ∧ read.name = name ∧
            read.address = address ∧ read.terminal = terminal) ∧
      (∀ a b : Identifier, a.Issued → b.Issued →
        (a.text = b.text ↔
            a.name = b.name ∧ a.address.text = b.address.text ∧ a.terminal = b.terminal) ∧
          (a.text = b.text → a.address = b.address)) ∧
      ∀ did : Identifier, did.Issued →
        Identifier.parse (String.ofList (did.text.toList.takeWhile (· ≠ '/'))) =
            .ok did.withoutTerminal ∧
          did.withoutTerminal.withoutTerminal = did.withoutTerminal := by
  refine ⟨fun name address terminal did issued hnew => ?_, fun a b ha hb => ⟨?_, fun h => ?_⟩,
    fun did issued => ⟨?_, rfl⟩⟩
  · have hparse : Identifier.parse did.text = .ok did :=
      Identifier.parse_text (Identifier.issued_of_new_eq_ok hnew issued)
    exact ⟨did, hparse, Identifier.parts_of_new_eq_ok hnew⟩
  · exact Identifier.text_eq_iff ha.address hb.address
  · rw [Identifier.eq_of_text_eq ha.address hb.address h]
  · rw [Identifier.takeWhile_text issued.address]
    exact Identifier.parse_text issued.withoutTerminal.address

/-- The statement for the phone of the founder, and for the founder beside it. -/
theorem identifier_text_is_faithful_founder :
    ∃ did : Identifier,
      Identifier.new (some "moky") .anywhere (some "phone") = .ok did ∧
      (∃ read, Identifier.parse did.text = .ok read ∧ read.name = some "moky" ∧
        read.address = .anywhere ∧ read.terminal = some "phone") ∧
      did.text ≠ Identifier.founder.text ∧
      Identifier.parse (String.ofList (did.text.toList.takeWhile (· ≠ '/'))) =
        .ok Identifier.founder := by
  obtain ⟨hread, htexts, hbare⟩ := identifier_text_is_faithful
  let did : Identifier := ⟨some "moky", .anywhere, some "phone", by decide, by decide⟩
  have hnew : Identifier.new (some "moky") .anywhere (some "phone") = .ok did := did.new_parts
  have issued : did.Issued := .new .anywhere hnew
  refine ⟨did, hnew, hread _ _ _ did .anywhere hnew, fun h => ?_, (hbare did issued).1⟩
  have hterminal : some "phone" = none := ((htexts did .founder issued .founder).1.mp h).2.2
  cases hterminal

end SelfCert
