import SelfCert.Proofs.Transparency

/-!
# Metas and the identifiers that belong to them

An identifier belongs to a meta exactly if the meta derives it, in the network of the identifier and
with its terminal (`Meta.belongsTo_iff`). The one direction needs the network of a derived address
to be the one it was derived for, the other one that the text of an address tells it apart.
-/

namespace SelfCert

/-- The identifiers that can be obtained: from parts with an issued address, from texts, from metas,
as one of the three fixed ones, by leaving out the terminal, and as an answer of a context. -/
inductive Identifier.Issued : Identifier → Prop where
  | new {name : Option String} {address : Address} {terminal : Option String} {did : Identifier} :
    address.Issued → Identifier.new name address terminal = .ok did → Issued did
  | parse {text : String} {did : Identifier} : Identifier.parse text = .ok did → Issued did
  | derive {m : Meta} {network : Entity} {terminal : Option String} {did : Identifier} :
    m.identifier network terminal = .ok did → Issued did
  | anyone : Issued anyone
  | everyone : Issued everyone
  | founder : Issued founder
  | withoutTerminal {did : Identifier} : Issued did → Issued did.withoutTerminal
  | serve {requests : List Request} {request : Request} {did : Identifier} :
    (request.serve (Context.after requests)).1 = .identifier (.ok did) → Issued did

namespace Meta

variable {m : Meta}

/-- What a meta derives is made of its seed and its address. -/
theorem exists_address_of_identifier_eq_ok {network : Entity} {terminal : Option String}
    {did : Identifier} (h : m.identifier network terminal = .ok did) :
    ∃ address, m.address network = .ok address ∧
      Identifier.new m.seed address terminal = .ok did := by
  obtain ⟨address, haddress, hnew⟩ := Except.bind_eq_ok_iff.mp h
  exact ⟨address, Except.mapError_eq_ok_iff.mp haddress, hnew⟩

theorem identifier_eq_new {network : Entity} {address : Address}
    (h : m.address network = .ok address) (terminal : Option String) :
    m.identifier network terminal = Identifier.new m.seed address terminal := by
  rw [identifier, h]
  rfl

theorem issued_of_address_eq_ok {network : Entity} {address : Address}
    (h : m.address network = .ok address) : address.Issued :=
  .derive (show Address.derive m.scheme m.key.data network = .ok address from h)

theorem issued_of_identifier_eq_ok {network : Entity} {terminal : Option String}
    {did : Identifier} (h : m.identifier network terminal = .ok did) : did.address.Issued := by
  obtain ⟨address, haddress, hnew⟩ := exists_address_of_identifier_eq_ok h
  exact Identifier.issued_of_new_eq_ok hnew (issued_of_address_eq_ok haddress)

end Meta

/-- The address of an identifier is issued. -/
theorem Identifier.Issued.address {did : Identifier} (h : did.Issued) : did.address.Issued := by
  induction h with
  | new issued hnew => exact issued_of_new_eq_ok hnew issued
  | parse hparse => exact issued_of_parse_eq_ok hparse
  | derive hderive => exact Meta.issued_of_identifier_eq_ok hderive
  | anyone => exact .anywhere
  | everyone => exact .everywhere
  | founder => exact .anywhere
  | withoutTerminal _ ih => exact ih
  | @serve requests request did hserve =>
    -- The answer is the one without a memory, which settles each kind of request.
    have hplain := Context.serve_after requests request
    rw [hserve] at hplain
    cases request with
    | parseAddress => cases hplain _ rfl
    | deriveAddress => cases hplain _ rfl
    | parseIdentifier text =>
      exact issued_of_parse_eq_ok (Answer.identifier.inj (hplain _ rfl)).symm
    | createIdentifier name address issued terminal =>
      exact issued_of_new_eq_ok (Answer.identifier.inj (hplain _ rfl)).symm issued
    | deriveIdentifier m network terminal =>
      exact Meta.issued_of_identifier_eq_ok (Answer.identifier.inj (hplain _ rfl)).symm
    | matchIdentifier => cases hplain _ rfl
    | reduceMemory => cases hserve

namespace Meta

variable {m : Meta}

/-- An identifier belongs to a meta exactly if the meta derives it in its network with its
terminal. -/
theorem belongsTo_iff {did : Identifier} (issued : did.address.Issued) :
    m.belongsTo did ↔ m.identifier did.network did.terminal = .ok did := by
  constructor
  · intro h
    simp only [belongsTo, Bool.and_eq_true, beq_iff_eq] at h
    obtain ⟨⟨-, hseed⟩, haddress⟩ := h
    split at haddress
    · next address hderive =>
      have htext : address.text = did.address.text := by simpa using haddress
      have hsame : address = did.address :=
        Address.eq_of_text_eq (issued_of_address_eq_ok hderive) issued htext
      rw [identifier_eq_new hderive, hseed, hsame]
      exact did.new_parts
    · cases haddress
  · intro h
    obtain ⟨address, haddress, hnew⟩ := exists_address_of_identifier_eq_ok h
    obtain ⟨hname, hsame, -⟩ := Identifier.parts_of_new_eq_ok hnew
    have hvalid : m.isValid := m.isConsistent
    simp [belongsTo, hvalid, hname, hsame, haddress]

/-- A derived identifier has the seed as its name and the given terminal, and it is in the network
it was derived for. -/
theorem parts_of_identifier_eq_ok {network : Entity} {terminal : Option String} {did : Identifier}
    (h : m.identifier network terminal = .ok did) :
    did.name = m.seed ∧ did.network = network ∧ did.terminal = terminal := by
  obtain ⟨address, haddress, hnew⟩ := exists_address_of_identifier_eq_ok h
  obtain ⟨hname, hsame, hterminal⟩ := Identifier.parts_of_new_eq_ok hnew
  rw [Identifier.network, hsame]
  exact ⟨hname, Address.network_eq_of_derive_eq_ok haddress, hterminal⟩

/-- Whatever a meta derives belongs to it. -/
theorem belongsTo_of_identifier_eq_ok {network : Entity} {terminal : Option String}
    {did : Identifier} (h : m.identifier network terminal = .ok did) : m.belongsTo did := by
  obtain ⟨-, hnetwork, hterminal⟩ := parts_of_identifier_eq_ok h
  rw [belongsTo_iff (issued_of_identifier_eq_ok h), hnetwork, hterminal]
  exact h

/-- A meta has addresses only in the eight networks of members and groups, and none at all under a
scheme of its own. -/
theorem le_and_ne_of_address_eq_ok {network : Entity} {address : Address}
    (h : m.address network = .ok address) :
    network.code ≤ 7 ∧ ∀ tag, m.scheme ≠ .custom tag := by
  -- Schemes of their own derive nothing, so they do not occur among the cases.
  rw [Meta.address] at h
  obtain ⟨hscheme, hderivable, -⟩ | ⟨hscheme, rfl, -⟩ | ⟨hscheme, rfl, -⟩ := Address.derive_cases h
  · exact ⟨of_decide_eq_true hderivable, by simp [hscheme]⟩
  · exact ⟨by decide, by simp [hscheme]⟩
  · exact ⟨by decide, by simp [hscheme]⟩

/-- What belongs to a meta is in a network the meta has an address in. -/
theorem exists_address_of_belongsTo {did : Identifier} (h : m.belongsTo did) :
    ∃ address, m.address did.network = .ok address := by
  simp only [belongsTo, Bool.and_eq_true] at h
  cases haddress : m.address did.network with
  | ok address => exact ⟨address, rfl⟩
  | error error =>
    rw [haddress] at h
    cases h.2

end Meta

/-- **Belonging undoes deriving.** Whatever a standard context served before, it finds that an
identifier belongs to a meta exactly if it derives an identifier of the same text from the meta, in
the network of the identifier and with its terminal; then that is the identifier itself. So every
identifier that is derived belongs to its meta, nothing in a network above the eighth does, and
nothing does under a scheme of its own. -/
theorem matches_iff_derives (requests later : List Request) (m : Meta) {did : Identifier}
    (issued : did.Issued) :
    (((Context.after requests).matchesIdentifier m did).1 = true ↔
        ∃ derived, ((Context.after requests).deriveIdentifier m did.network did.terminal).1 =
          .ok derived ∧ derived.text = did.text) ∧
      (((Context.after requests).matchesIdentifier m did).1 = true →
        ((Context.after requests).deriveIdentifier m did.network did.terminal).1 = .ok did) ∧
      (∀ network terminal derived,
        ((Context.after requests).deriveIdentifier m network terminal).1 = .ok derived →
          ((Context.after later).matchesIdentifier m derived).1 = true) ∧
      (7 < did.network.code → ((Context.after requests).matchesIdentifier m did).1 = false) ∧
      ∀ tag, m.scheme = .custom tag →
        ((Context.after requests).matchesIdentifier m did).1 = false := by
  simp only [Context.matchesIdentifier_after, Context.deriveIdentifier_after]
  refine ⟨⟨fun h => ?_, ?_⟩, fun h => (Meta.belongsTo_iff issued.address).mp h,
    fun network terminal derived h => Meta.belongsTo_of_identifier_eq_ok h, fun hnetwork => ?_,
    fun tag htag => ?_⟩
  · exact ⟨did, (Meta.belongsTo_iff issued.address).mp h, rfl⟩
  · rintro ⟨derived, hderive, htext⟩
    have hsame : derived = did :=
      Identifier.eq_of_text_eq (Identifier.Issued.derive hderive).address issued.address htext
    exact (Meta.belongsTo_iff issued.address).mpr (hsame ▸ hderive)
  · refine Bool.eq_false_of_not_eq_true fun h => ?_
    obtain ⟨address, haddress⟩ := Meta.exists_address_of_belongsTo h
    exact absurd (Meta.le_and_ne_of_address_eq_ok haddress).1 (UInt8.not_le.mpr hnetwork)
  · refine Bool.eq_false_of_not_eq_true fun h => ?_
    obtain ⟨address, haddress⟩ := Meta.exists_address_of_belongsTo h
    exact (Meta.le_and_ne_of_address_eq_ok haddress).2 tag htag

/-- The statement for a bare key of the standard scheme and the identifier of its first address. -/
theorem matches_iff_derives_bareKey :
    ∃ (m : Meta) (did : Identifier), did.Issued ∧ did.network = .user ∧
      ((Context.after []).deriveIdentifier m .user none).1 = .ok did ∧
      ((Context.after []).matchesIdentifier m did).1 = true := by
  let m : Meta := ⟨.standard, .rsa ⟨35, 5⟩, none, none, rfl⟩
  let did : Identifier := ⟨none, .ofKey m.key.data .user, none, by simp, by simp⟩
  have issued : did.Issued :=
    .new (show did.address.Issued from .ofKey m.key.data .user) did.new_parts
  have haddress : m.address .user = .ok did.address := rfl
  have hderive : ((Context.after []).deriveIdentifier m .user none).1 = .ok did := by
    rw [Context.deriveIdentifier_after, Meta.identifier_eq_new haddress]
    exact did.new_parts
  exact ⟨m, did, issued, rfl, hderive,
    (matches_iff_derives [] [] m issued).2.2.1 .user none did hderive⟩

end SelfCert
