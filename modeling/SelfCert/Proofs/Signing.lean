import SelfCert.Draft
import SelfCert.Proofs.DocumentWire

/-!
# What signing does to the properties

A draft is signed as the text of its properties, after the time was added where there was none. If
the properties are plain, this text is read as the same properties, so the document keeps them
(`Draft.exists_signWith`). It has a time then, so signing it again, any number of times, leaves its
text as it is (`Document.exists_signedAgain`). Properties with different names can be set in any
order, since a table lists them in its own (`Draft.foldl_set_eq_of_perm`).
-/

namespace SelfCert

namespace Draft

variable (draft : Draft)

/-! ### The time -/

/-- The properties of a draft with a time. -/
theorem properties_stamped (now : Int64) :
    (draft.stamped now).properties =
      if Table.contains "time" draft.properties then draft.properties
      else Table.insert "time" (.ofInt64 now) draft.properties := by
  unfold stamped
  split_ifs <;> rfl

/-- A draft that has a time is not given another one. -/
theorem stamped_eq_self {draft : Draft} (h : Table.contains "time" draft.properties)
    (now : Int64) : draft.stamped now = draft :=
  if_pos h

/-- Whatever the draft was, there is a time then. -/
theorem contains_time_stamped (now : Int64) :
    Table.contains "time" (draft.stamped now).properties := by
  rw [properties_stamped]
  split_ifs with h
  · exact h
  · rw [Table.contains, Table.get?_insert_self]
    rfl

/-- The time does not make properties nested deeper, and it keeps them in order. -/
theorem isPlain_stamped {draft : Draft}
    (h : Json.IsPlain Json.maxDepth (.object draft.properties)) (now : Int64) :
    Json.IsPlain Json.maxDepth (.object (draft.stamped now).properties) := by
  rw [properties_stamped]
  split_ifs
  · exact h
  · exact h.insert "time" (.integer _ _)

/-! ### Signing once -/

/-- **A draft with plain properties is signed.** The document holds the properties with the time, as
a text and as what that text reads as, and the signature of the text. -/
theorem exists_signWith {draft : Draft}
    (h : Json.IsPlain Json.maxDepth (.object draft.properties)) (signer : Bytes → Bytes)
    (now : Int64) :
    ∃ content : SignedText,
      draft.signWith signer now = .ok ⟨draft.did, draft.kind, some content⟩ ∧
      content.text = (Json.object content.properties).compact ∧
      content.properties = (draft.stamped now).properties ∧
      content.signature = .ofBytes .base64 (signer (Utf8.encode content.text)) := by
  have hread := Json.parseObject?_compact (isPlain_stamped h now)
  exact ⟨⟨(draft.stamped now).text, (draft.stamped now).properties, _, hread⟩,
    Document.new_eq_ok hread, rfl, rfl, rfl⟩

/-! ### Setting several properties -/

/-- Setting properties one after the other puts all of them in. -/
theorem foldl_set (entries : List (String × Json)) :
    entries.foldl (fun draft entry => draft.set entry.1 entry.2) draft =
      draft.setAll entries := by
  induction entries generalizing draft with
  | nil => rfl
  | cons entry rest ih => exact ih (draft.set entry.1 entry.2)

/-- **The order does not matter** in which properties with different names are set. -/
theorem foldl_set_eq_of_perm {entries others : List (String × Json)}
    (hperm : entries.Perm others) (hnodup : (entries.map Prod.fst).Nodup) :
    entries.foldl (fun draft entry => draft.set entry.1 entry.2) draft =
      others.foldl (fun draft entry => draft.set entry.1 entry.2) draft := by
  rw [foldl_set, foldl_set, setAll, setAll, Table.insertAll_eq_of_perm hperm hnodup]

end Draft

/-! ### Signing again -/

namespace Document

/-- A document that is taken for a draft and signed again, once with each of the signers and at the
time that comes with it. -/
def signedAgain (document : Document) :
    List ((Bytes → Bytes) × Int64) → Except DocumentError Document
  | [] => .ok document
  | (signer, now) :: more => do
    (← (Draft.ofDocument document).signWith signer now).signedAgain more

/-- Whether a document holds the text of its own properties, which are plain and have a time. This
is what signing yields, and it is all that signing again needs. -/
structure IsSettled (document : Document) : Prop where
  data_eq : document.data = some (Json.object document.properties).compact
  isPlain : Json.IsPlain Json.maxDepth (.object document.properties)
  hasTime : Table.contains "time" document.properties

/-- Whether a document says the same as another one: about the same identifier, of the same kind, in
the same text and with the same properties. Only the signatures may differ. -/
structure Agrees (a b : Document) : Prop where
  did : a.did = b.did
  kind : a.kind = b.kind
  data : a.data = b.data
  properties : a.properties = b.properties

theorem Agrees.refl (document : Document) : document.Agrees document :=
  ⟨rfl, rfl, rfl, rfl⟩

theorem Agrees.trans {a b c : Document} (hab : a.Agrees b) (hbc : b.Agrees c) : a.Agrees c :=
  ⟨hab.did.trans hbc.did, hab.kind.trans hbc.kind, hab.data.trans hbc.data,
    hab.properties.trans hbc.properties⟩

end Document

/-- What is signed is settled. -/
theorem Draft.exists_isSettled {draft : Draft}
    (h : Json.IsPlain Json.maxDepth (.object draft.properties)) (signer : Bytes → Bytes)
    (now : Int64) :
    ∃ document, draft.signWith signer now = .ok document ∧ document.IsSettled ∧
      document.did = draft.did ∧ document.kind = draft.kind ∧
      document.properties = (draft.stamped now).properties ∧
      document.signature = some (.ofBytes .base64
        (signer (Utf8.encode (Json.object document.properties).compact))) := by
  obtain ⟨content, hsign, htext, hproperties, hsignature⟩ := exists_signWith h signer now
  have hplain : Json.IsPlain Json.maxDepth (.object content.properties) := by
    rw [hproperties]
    exact isPlain_stamped h now
  have htime : Table.contains "time" content.properties := by
    rw [hproperties]
    exact draft.contains_time_stamped now
  rw [htext] at hsignature
  exact ⟨_, hsign, ⟨congrArg some htext, hplain, htime⟩, rfl, rfl, hproperties,
    congrArg some hsignature⟩

namespace Document

variable {document : Document}

/-- Signing a settled document again leaves it settled, and it says the same. -/
theorem IsSettled.exists_signWith (h : document.IsSettled) (signer : Bytes → Bytes)
    (now : Int64) :
    ∃ next, (Draft.ofDocument document).signWith signer now = .ok next ∧ next.IsSettled ∧
      next.Agrees document := by
  have hdraft : Json.IsPlain Json.maxDepth (.object (Draft.ofDocument document).properties) :=
    h.isPlain
  obtain ⟨next, hsign, hsettled, hdid, hkind, hproperties, -⟩ :=
    Draft.exists_isSettled hdraft signer now
  -- There is a time already, so the draft is signed as it is.
  rw [Draft.stamped_eq_self h.hasTime] at hproperties
  have hdata : next.data = document.data := by
    rw [hsettled.data_eq, h.data_eq, hproperties]
    rfl
  exact ⟨next, hsign, hsettled, hdid, hkind, hdata, hproperties⟩

/-- **Signing a settled document again, any number of times, leaves what it says.** -/
theorem IsSettled.exists_signedAgain (h : document.IsSettled)
    (signings : List ((Bytes → Bytes) × Int64)) :
    ∃ last, document.signedAgain signings = .ok last ∧ last.IsSettled ∧
      last.Agrees document := by
  induction signings generalizing document with
  | nil => exact ⟨document, rfl, h, .refl document⟩
  | cons signing more ih =>
    obtain ⟨signer, now⟩ := signing
    obtain ⟨next, hsign, hnext, hagrees⟩ := h.exists_signWith signer now
    obtain ⟨last, hmore, hlast, hagrees'⟩ := ih hnext
    have hagain : document.signedAgain ((signer, now) :: more) = .ok last := by
      rw [signedAgain, hsign]
      exact hmore
    exact ⟨last, hagain, hlast, hagrees'.trans hagrees⟩

end Document

/-! ### Main result -/

/-- **Signing keeps the properties.** A draft with plain properties is signed, whoever signs it and
whenever. The document has its identifier, its kind and its properties, and a time beside them if
there was none; it holds their text and the signature of that text. Signing it again, any number of
times, leaves all of this but the signature. Nor does it matter in which order properties with
different names were set. -/
theorem signing_keeps_properties {draft : Draft}
    (h : Json.IsPlain Json.maxDepth (.object draft.properties)) (signer : Bytes → Bytes)
    (now : Int64) :
    (∃ document, draft.signWith signer now = .ok document ∧
      document.did = draft.did ∧ document.kind = draft.kind ∧
      document.properties =
        (if Table.contains "time" draft.properties then draft.properties
          else Table.insert "time" (.ofInt64 now) draft.properties) ∧
      document.data = some (Json.object document.properties).compact ∧
      document.signature = some (.ofBytes .base64
        (signer (Utf8.encode (Json.object document.properties).compact))) ∧
      ∀ signings, ∃ last, document.signedAgain signings = .ok last ∧ last.Agrees document) ∧
    ∀ (start : Draft) (entries others : List (String × Json)), entries.Perm others →
      (entries.map Prod.fst).Nodup →
      (entries.foldl (fun draft entry => draft.set entry.1 entry.2) start).signWith signer now =
        (others.foldl (fun draft entry => draft.set entry.1 entry.2) start).signWith signer
          now := by
  constructor
  · obtain ⟨document, hsign, hsettled, hdid, hkind, hproperties, hsignature⟩ :=
      Draft.exists_isSettled h signer now
    rw [draft.properties_stamped now] at hproperties
    refine ⟨document, hsign, hdid, hkind, hproperties, hsettled.data_eq, hsignature, ?_⟩
    intro signings
    obtain ⟨last, hlast, -, hagrees⟩ := hsettled.exists_signedAgain signings
    exact ⟨last, hlast, hagrees⟩
  · intro start entries others hperm hnodup
    rw [start.foldl_set_eq_of_perm hperm hnodup]

/-- The statement for a draft with a name: it is signed with a time, which stays when others sign it
later, and a name and a picture can be set in both orders. -/
theorem signing_keeps_properties_founder :
    ∃ document last : Document,
      Draft.signWith ⟨.founder, .visa, [("name", .string "Moky")]⟩ List.reverse 7 =
        .ok document ∧
      document.data = some "\x7b\"name\":\"Moky\",\"time\":7\x7d" ∧
      document.signedAgain [(id, 8), (List.reverse, 9)] = .ok last ∧
      last.data = document.data ∧
      (((Draft.new .founder .visa).set "name" .null).set "avatar" .null).signWith
          List.reverse 7 =
        (((Draft.new .founder .visa).set "avatar" .null).set "name" .null).signWith
          List.reverse 7 := by
  let draft : Draft := ⟨.founder, .visa, [("name", .string "Moky")]⟩
  have hplain : Json.IsPlain Json.maxDepth (.object draft.properties) := by
    refine .object (by decide) fun field hfield => ?_
    rw [List.mem_singleton.mp hfield]
    exact .string _ _
  obtain ⟨⟨document, hsign, -, -, hproperties, hdata, -, hagain⟩, horder⟩ :=
    signing_keeps_properties hplain List.reverse 7
  obtain ⟨last, hlast, hagrees⟩ := hagain [(id, 8), (List.reverse, 9)]
  refine ⟨document, last, hsign, ?_, hlast, hagrees.data, ?_⟩
  · rw [hdata, hproperties]
    decide
  · exact horder (.new .founder .visa) [("name", .null), ("avatar", .null)]
      [("avatar", .null), ("name", .null)] (.swap _ _ []) (by decide)

end SelfCert
