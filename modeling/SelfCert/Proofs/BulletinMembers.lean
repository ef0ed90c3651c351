import SelfCert.Proofs.PortableDocument

/-!
# The members that a bulletin names

A bulletin names its founder and its assistants by their texts, and its view leaves out what is no
identifier. Reading a list of texts is a run of requests, answered as without a memory
(`Context.parseIdentifiers_after`), and the text of an issued identifier is always read as that
identifier. So of the members that a draft is given none is lost, added or moved, when it is signed,
sent and read elsewhere (`bulletins_keep_members`).
-/

namespace SelfCert

/-! ### Texts of identifiers -/

namespace Identifier

/-- The identifier that a text is read as. -/
def ofText? (text : String) : Option Identifier := (parse text).toOption

theorem ofText?_text {id : Identifier} (issued : id.address.Issued) :
    ofText? id.text = some id := by
  rw [ofText?, parse_text issued]
  rfl

/-- Issued identifiers are read from their texts, all of them and in their order. -/
theorem filterMap_ofText?_text {members : List Identifier}
    (issued : ∀ member ∈ members, member.address.Issued) :
    (members.map text).filterMap ofText? = members := by
  induction members with
  | nil => rfl
  | cons member members ih =>
    obtain ⟨hmember, hmembers⟩ := List.forall_mem_cons.mp issued
    rw [List.map_cons, List.filterMap_cons_some (ofText?_text hmember), ih hmembers]

end Identifier

/-! ### Reading with a memory -/

namespace Context

variable (requests : List Request)

/-- **Step.** Reading a text is a request, answered as without a memory. -/
theorem parseIdentifier_eq_after (text : String) :
    (after requests).parseIdentifier text =
      (Identifier.parse text, after (requests ++ [.parseIdentifier text])) := by
  rw [after_concat, ← parseIdentifier_after requests text]
  rfl

/-- **Run.** Reading texts one after the other is a run of requests. What is found are the
identifiers that the texts are read as without a memory. -/
theorem parseIdentifiers_after (texts : List String) :
    (after requests).parseIdentifiers texts =
      (texts.filterMap Identifier.ofText?, after (requests ++ texts.map .parseIdentifier)) := by
  induction texts generalizing requests with
  | nil => simp [parseIdentifiers]
  | cons text texts ih =>
    rw [parseIdentifiers, parseIdentifier_eq_after]
    cases hparse : Identifier.parse text with
    | ok member =>
      have hread : Identifier.ofText? text = some member := by
        rw [Identifier.ofText?, hparse]
        rfl
      simp [ih, List.filterMap_cons_some hread]
    | error error =>
      have hread : Identifier.ofText? text = none := by
        rw [Identifier.ofText?, hparse]
        rfl
      simp [ih, List.filterMap_cons_none hread]

theorem founder_after (bulletin : Bulletin) :
    (after requests).founder bulletin =
      (bulletin.founder.bind Identifier.ofText?,
        after (requests ++ (bulletin.founder.map .parseIdentifier).toList)) := by
  rw [founder]
  cases bulletin.founder with
  | none => rw [Option.map_none, Option.toList_none, List.append_nil, Option.bind_none]
  | some text =>
    simp only [parseIdentifier_eq_after]
    rfl

theorem assistants_after (bulletin : Bulletin) :
    (after requests).assistants bulletin =
      (bulletin.assistants.filterMap Identifier.ofText?,
        after (requests ++ bulletin.assistants.map .parseIdentifier)) :=
  parseIdentifiers_after requests bulletin.assistants

/-- A context that has read a document has served requests, no more. -/
theorem exists_parseDocument_after (value : Json) :
    ∃ later, (after requests).parseDocument value = (Document.parse value, after later) := by
  have hread := parseDocument_after requests value
  have hrest : ∃ later, ((after requests).parseDocument value).2 = after later := by
    unfold parseDocument
    split
    · exact ⟨requests, rfl⟩
    · split
      · exact ⟨requests, rfl⟩
      · next text _ =>
        rw [parseIdentifier_eq_after]
        cases Identifier.parse text <;> exact ⟨_, rfl⟩
  obtain ⟨later, hlater⟩ := hrest
  exact ⟨later, Prod.ext hread hlater⟩

end Context

/-! ### Drafts of bulletins -/

namespace Draft

variable (draft : Draft) (founder : Identifier) (assistants : List Identifier)

/-- The texts of the members leave the properties plain. -/
theorem isPlain_setAssistants {draft : Draft}
    (h : Json.IsPlain Json.maxDepth (.object draft.properties)) :
    Json.IsPlain Json.maxDepth
      (.object ((draft.setFounder founder).setAssistants assistants).properties) := by
  refine (h.insert "founder" (.string _ _)).insert "assistants" (.array fun item hitem => ?_)
  obtain ⟨member, -, rfl⟩ := List.mem_map.mp hitem
  exact .string _ _

/-- The time is not written over the members. -/
theorem get?_stamped_setAssistants (now : Int64) :
    let properties := (((draft.setFounder founder).setAssistants assistants).stamped now).properties
    Table.get? "founder" properties = some (.string founder.text) ∧
      Table.get? "assistants" properties =
        some (.array (assistants.map fun member => .string member.text)) := by
  rw [properties_stamped]
  split_ifs <;> simp [setFounder, setAssistants, set, Table.get?_insert_of_ne]

end Draft

/-! ### Views -/

namespace Document

variable {document : Document}

/-- What the view of a bulletin shows, whatever its properties are. -/
theorem bulletin?_eq_some (h : document.kind = .bulletin) :
    document.bulletin? = some ⟨document.properties.string? "founder",
      (((Table.get? "assistants" document.properties).bind Json.asArray?).getD []).filterMap
        Json.asString?⟩ :=
  if_pos h

/-- The view of a bulletin of which the members are texts of identifiers. -/
theorem bulletin?_eq_some_texts (h : document.kind = .bulletin) {founder : Identifier}
    {assistants : List Identifier}
    (hfounder : Table.get? "founder" document.properties = some (.string founder.text))
    (hassistants : Table.get? "assistants" document.properties =
      some (.array (assistants.map fun member => .string member.text))) :
    document.bulletin? = some ⟨some founder.text, assistants.map Identifier.text⟩ := by
  have htexts : (assistants.map fun member => Json.string member.text).filterMap Json.asString? =
      assistants.map Identifier.text := by
    rw [List.filterMap_map]
    exact congrFun List.filterMap_eq_map assistants
  rw [bulletin?_eq_some h, hassistants, Json.Object.string?, hfounder]
  simp only [Option.bind_some, Json.asArray?, Option.getD_some, htexts]
  rfl

/-- Signed bulletins are read back. -/
theorem parse_toJson_of_bulletin (issued : document.did.address.Issued)
    (hkind : document.kind = .bulletin) {encoding : Encoding} {bytes : Bytes}
    (hsignature : document.signature = some (.ofBytes encoding bytes)) :
    parse document.toJson = .ok document := by
  have named : document.kind.IsNamed := by
    rw [show document.kind = .ofTag "bulletin" from hkind]
    exact .ofTag "bulletin"
  have hportable : document.IsPortable := by
    refine ⟨by rw [hkind]; decide, ?_⟩
    rw [hsignature]
    rintro _ ⟨⟩ _ ⟨⟩
  exact hportable.parse_toJson issued named

end Document

/-! ### Main result -/

/-- **Bulletins keep their members.** A draft of a bulletin about an issued identifier, with plain
properties, is given a founder and a list of assistants, any number of them and repeated or not, and
signed by anybody. A standard context that served any requests reads the value of the document as
that document, views its founder, and views exactly its assistants in their order; each of these
leaves a context that served more requests, so they can follow on each other. Of a bulletin with any
list in the place of its assistants, what is viewed are the identifiers that the texts in this list
are read as, in the order of the list; whatever else it holds is left out. -/
theorem bulletins_keep_members {draft : Draft} (hkind : draft.kind = .bulletin)
    (about : draft.did.Issued) (hplain : Json.IsPlain Json.maxDepth (.object draft.properties))
    {founder : Identifier} (hfounder : founder.Issued) {assistants : List Identifier}
    (hassistants : ∀ member ∈ assistants, member.Issued) (signer : Bytes → Bytes) (now : Int64) :
    (∃ document bulletin,
      ((draft.setFounder founder).setAssistants assistants).signWith signer now = .ok document ∧
      document.bulletin? = some bulletin ∧
      (∀ there, ∃ later, (Context.after there).parseDocument document.toJson =
        (.ok document, Context.after later)) ∧
      ∀ there,
        (∃ later, (Context.after there).founder bulletin = (some founder, Context.after later)) ∧
        ∃ later, (Context.after there).assistants bulletin = (assistants, Context.after later)) ∧
    ∀ (document : Document) (items : List Json), document.kind = .bulletin →
      Table.get? "assistants" document.properties = some (.array items) →
      ∃ bulletin, document.bulletin? = some bulletin ∧
        ∀ there, ((Context.after there).assistants bulletin).1 =
          items.filterMap fun item =>
            item.asString?.bind fun text => (Identifier.parse text).toOption := by
  constructor
  · obtain ⟨content, hsign, -, hproperties, hsignature⟩ :=
      Draft.exists_signWith (Draft.isPlain_setAssistants founder assistants hplain) signer now
    obtain ⟨hfounderText, hassistantsText⟩ :=
      Draft.get?_stamped_setAssistants draft founder assistants now
    rw [← hproperties] at hfounderText hassistantsText
    let document : Document := ⟨draft.did, draft.kind, some content⟩
    have hview : document.bulletin? = some ⟨some founder.text, assistants.map Identifier.text⟩ :=
      Document.bulletin?_eq_some_texts hkind hfounderText hassistantsText
    have hread : Document.parse document.toJson = .ok document :=
      Document.parse_toJson_of_bulletin about.address hkind (congrArg some hsignature)
    refine ⟨document, _, hsign, hview, fun there => ?_, fun there => ⟨?_, ?_⟩⟩
    · obtain ⟨later, hparse⟩ := Context.exists_parseDocument_after there document.toJson
      rw [hread] at hparse
      exact ⟨later, hparse⟩
    · rw [Context.founder_after, Option.bind_some, Identifier.ofText?_text hfounder.address]
      exact ⟨_, rfl⟩
    · rw [Context.assistants_after, Identifier.filterMap_ofText?_text fun member hmember =>
        (hassistants member hmember).address]
      exact ⟨_, rfl⟩
  · intro document items hkind hitems
    refine ⟨_, Document.bulletin?_eq_some hkind, fun there => ?_⟩
    rw [Context.assistants_after, hitems, Option.bind_some, Json.asArray?, Option.getD_some,
      List.filterMap_filterMap]
    rfl

/-- The statement for a bulletin about everyone with two assistants, one of them twice, and for one
that was written by hand and names one assistant between a number and a text that is none. -/
theorem bulletins_keep_members_everyone :
    ∃ (document byHand : Document) (bulletin shown : Bulletin),
      (((Draft.new .everyone .bulletin).setFounder .founder).setAssistants
        [.anyone, .founder, .anyone]).signWith List.reverse 7 = .ok document ∧
      document.bulletin? = some bulletin ∧
      (∃ later, (Context.after [.parseAddress "anywhere"]).assistants bulletin =
        ([.anyone, .founder, .anyone], Context.after later)) ∧
      Table.get? "assistants" byHand.properties =
        some (.array [.null, .string "anyone@anywhere", .string "anyone@"]) ∧
      byHand.bulletin? = some shown ∧
      ((Context.after []).assistants shown).1 = [.anyone] := by
  let items : List Json := [.null, .string "anyone@anywhere", .string "anyone@"]
  have hwritten : Json.IsPlain Json.maxDepth (.object [("assistants", .array items)]) := by
    refine .object (by decide) fun field hfield => ?_
    obtain rfl := List.mem_singleton.mp hfield
    refine .array fun item hitem => ?_
    rcases List.mem_cons.mp hitem with rfl | hitem
    · exact .null _
    · rcases List.mem_pair.mp hitem with rfl | rfl <;> exact .string _ _
  let byHand : Document := ⟨.everyone, .bulletin,
    some ⟨_, _, .ofBytes .hex [1], Json.parseObject?_compact hwritten⟩⟩
  let draft : Draft := .new .everyone .bulletin
  have about : draft.did.Issued := .everyone
  have hplain : Json.IsPlain Json.maxDepth (.object draft.properties) := .object (by decide) nofun
  have hassistants : ∀ member ∈ [Identifier.anyone, .founder, .anyone], member.Issued := by
    simp [Identifier.Issued.anyone, Identifier.Issued.founder]
  obtain ⟨⟨document, bulletin, hsign, hview, -, hmembers⟩, hitems⟩ :=
    bulletins_keep_members rfl about hplain .founder hassistants List.reverse 7
  obtain ⟨shown, hshown, hnamed⟩ := hitems byHand items rfl rfl
  refine ⟨document, byHand, bulletin, shown, hsign, hview,
    (hmembers [.parseAddress "anywhere"]).2, rfl, hshown, ?_⟩
  rw [hnamed []]
  decide

end SelfCert
