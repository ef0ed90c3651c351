import SelfCert.Context
import SelfCert.Proofs.IdentifierText
import SelfCert.Proofs.Table

/-!
# Memory does not show

A context answers requests about addresses and identifiers with the help of a memory. The answers
are those that are computed without it (`Request.plain`), in every run of requests and whatever is
forgotten in between. The invariant is that a memory is sound (`Memory.IsSound`): an entry for a
text is what that text reads as, and an entry for a derivation is the address of every meta with the
same identity. Identifiers are kept under their own texts too, so the invariant rests on identifiers
being what their texts read as (`Identifier.parse_text`).
-/

namespace SelfCert

/-! ### Requests and answers -/

/-- What can be asked of a context about addresses and identifiers. -/
inductive Request where
  | parseAddress (text : String)
  | deriveAddress (m : Meta) (network : Entity)
  | parseIdentifier (text : String)
  | createIdentifier (name : Option String) (address : Address) (issued : address.Issued)
    (terminal : Option String)
  | deriveIdentifier (m : Meta) (network : Entity) (terminal : Option String)
  | matchIdentifier (m : Meta) (did : Identifier)
  | reduceMemory (walks : Walks)

/-- What is answered. -/
inductive Answer where
  | address (found : Except AddressError Address)
  | identifier (found : Except IdentifierError Identifier)
  | verdict (isMatch : Bool)
  | removed (count : Nat)

/-- Whether an answer is a refusal. -/
def Answer.isRefusal : Answer → Bool
  | address (.error _) => true
  | identifier (.error _) => true
  | verdict isMatch => !isMatch
  | _ => false

theorem Answer.exists_error_of_isRefusal {found : Except IdentifierError Identifier}
    (h : (Answer.identifier found).isRefusal) : ∃ error, found = .error error := by
  cases found with
  | error error => exact ⟨error, rfl⟩
  | ok _ => cases h

/-- Whether a meta belongs to an identifier, without a memory. -/
def Meta.belongsTo (m : Meta) (id : Identifier) : Bool :=
  m.isValid && m.seed == id.name &&
    match m.address id.network with
    | .ok address => address.text == id.address.text
    | .error _ => false

namespace Request

/-- The answer without a memory. There is none for how much a memory was reduced. -/
def plain : Request → Option Answer
  | parseAddress text => some (.address (Address.parse text))
  | deriveAddress m network => some (.address (m.address network))
  | parseIdentifier text => some (.identifier (Identifier.parse text))
  | createIdentifier name address _ terminal =>
    some (.identifier (Identifier.new name address terminal))
  | deriveIdentifier m network terminal => some (.identifier (m.identifier network terminal))
  | matchIdentifier m did => some (.verdict (m.belongsTo did))
  | reduceMemory _ => none

/-- The answer of a context, and the context afterwards. -/
def serve (context : Context) : Request → Answer × Context
  | parseAddress text => (context.parseAddress text).map .address id
  | deriveAddress m network => (context.deriveAddress m network).map .address id
  | parseIdentifier text => (context.parseIdentifier text).map .identifier id
  | createIdentifier name address _ terminal =>
    (context.createIdentifier name address terminal).map .identifier id
  | deriveIdentifier m network terminal =>
    (context.deriveIdentifier m network terminal).map .identifier id
  | matchIdentifier m did => (context.matchesIdentifier m did).map .verdict id
  | reduceMemory walks => (context.reduceMemory walks).map .removed id

/-- The answers to requests one after the other, and the context afterwards. -/
def serveAll (context : Context) : List Request → List Answer × Context
  | [] => ([], context)
  | request :: requests =>
    let (answer, context) := request.serve context
    (serveAll context requests).map (answer :: ·) id

end Request

/-- The standard context after it served requests. -/
def Context.after (requests : List Request) : Context :=
  (Request.serveAll .loaded requests).2

/-! ### Sound memories -/

namespace Memory

/-- What a memory holds is what would be computed without it. -/
structure IsSound (memory : Memory) : Prop where
  identifiers : ∀ entry ∈ memory.identifiers, Identifier.parse entry.1 = .ok entry.2
  parsed : ∀ entry ∈ memory.parsed, Address.parse entry.1 = .ok entry.2
  isDerivation : ∀ entry ∈ memory.derived, ∃ m network, entry.1 = derivation m network
  derived : ∀ entry ∈ memory.derived, ∀ m network, entry.1 = derivation m network →
    m.address network = .ok entry.2

/-- What a refused request may do to a memory: no identifier comes or goes, and no address goes. -/
structure AddsAddresses (before after : Memory) : Prop where
  identifiers : after.identifiers = before.identifiers
  parsed : ∀ entry ∈ before.parsed, entry ∈ after.parsed
  derived : ∀ entry ∈ before.derived, entry ∈ after.derived

variable {memory : Memory}

theorem AddsAddresses.refl (memory : Memory) : AddsAddresses memory memory :=
  ⟨rfl, fun _ h => h, fun _ h => h⟩

theorem isSound_empty : empty.IsSound := by
  constructor <;> intro entry h <;> cases h

/-- Metas with one identity have the same addresses. -/
theorem address_eq_of_derivation_eq {m m' : Meta} {network network' : Entity}
    (h : derivation m network = derivation m' network') :
    m.address network = m'.address network' := by
  simp only [derivation, Meta.identity, Derivation.mk.injEq, Meta.Identity.mk.injEq] at h
  obtain ⟨⟨hscheme, -, hdata, -, -⟩, rfl⟩ := h
  rw [Meta.address, Meta.address, hscheme, hdata]

/-! ### Addresses -/

theorem IsSound.parseAddress (hs : memory.IsSound) (text : String) :
    (memory.parseAddress text).1 = Address.parse text ∧ (memory.parseAddress text).2.IsSound ∧
      memory.AddsAddresses (memory.parseAddress text).2 := by
  unfold Memory.parseAddress
  split
  · next address hfound =>
    exact ⟨(hs.parsed _ (Table.mem_of_get?_eq_some hfound)).symm, hs, .refl memory⟩
  · next hnew =>
    split
    · next address hread =>
      refine ⟨hread.symm, { hs with parsed := fun entry h => ?_ },
        { AddsAddresses.refl memory with
          parsed := fun entry h => Table.mem_insert_of_get?_eq_none hnew h }⟩
      rcases Table.eq_or_mem_of_mem_insert h with rfl | h
      · exact hread
      · exact hs.parsed entry h
    · next error hread => exact ⟨hread.symm, hs, .refl memory⟩

/-- What is found under a derivation is kept under it. -/
private theorem mem_of_derived?_eq_some {key : Derivation} {address : Address}
    (h : memory.derived? key = some address) : (key, address) ∈ memory.derived := by
  obtain ⟨entry, hfound, rfl⟩ := Option.map_eq_some_iff.mp h
  have hkey : entry.1 = key := by simpa using List.find?_some hfound
  have hmem := List.mem_of_find?_eq_some hfound
  rwa [← hkey]

theorem IsSound.deriveAddress (hs : memory.IsSound) (m : Meta) (network : Entity) :
    (memory.deriveAddress m network).1 = m.address network ∧
      (memory.deriveAddress m network).2.IsSound ∧
      memory.AddsAddresses (memory.deriveAddress m network).2 := by
  unfold Memory.deriveAddress
  simp only
  split
  · next address hfound =>
    exact ⟨(hs.derived _ (mem_of_derived?_eq_some hfound) m network rfl).symm, hs, .refl memory⟩
  · split
    · next address hderive =>
      refine ⟨hderive.symm,
        { hs with
          isDerivation := fun entry h => ?_
          derived := fun entry h m' network' hkey => ?_ },
        { AddsAddresses.refl memory with derived := fun entry h => List.mem_cons_of_mem _ h }⟩
      · rcases List.mem_cons.mp h with rfl | h
        · exact ⟨m, network, rfl⟩
        · exact hs.isDerivation entry h
      · rcases List.mem_cons.mp h with rfl | h
        -- Another meta may look the new entry up, if its identity is the same.
        · rw [← address_eq_of_derivation_eq hkey]
          exact hderive
        · exact hs.derived entry h m' network' hkey
    · next error hderive => exact ⟨hderive.symm, hs, .refl memory⟩

/-! ### Identifiers -/

/-- Keeping an identifier under a text that is read as it. -/
theorem IsSound.remember (hs : memory.IsSound) {text : String} {id : Identifier}
    (h : Identifier.parse text = .ok id) : (memory.remember text id).IsSound where
  identifiers entry hentry := by
    rcases Table.eq_or_mem_of_mem_insert hentry with rfl | hentry
    · exact h
    · exact hs.identifiers entry hentry
  parsed := hs.parsed
  isDerivation := hs.isDerivation
  derived := hs.derived

/-- Parts with an issued address make the same identifier; a refusal changes nothing. -/
theorem IsSound.createIdentifier (hs : memory.IsSound) (name : Option String) {address : Address}
    (issued : address.Issued) (terminal : Option String) :
    (memory.createIdentifier name address terminal).1 = Identifier.new name address terminal ∧
      (memory.createIdentifier name address terminal).2.IsSound ∧
      (∀ error, Identifier.new name address terminal = .error error →
        (memory.createIdentifier name address terminal).2 = memory) := by
  unfold Memory.createIdentifier
  split
  · next error hnew => exact ⟨hnew.symm, hs, fun _ _ => rfl⟩
  · next id hnew =>
    -- A text that is known already was read as the same identifier, so its answer is the new one.
    have htext : Identifier.parse id.text = .ok id :=
      Identifier.parse_text (Identifier.issued_of_new_eq_ok hnew issued)
    split
    · next known hfound =>
      have hknown := hs.identifiers _ (Table.mem_of_get?_eq_some hfound)
      rw [htext] at hknown
      exact ⟨by rw [hnew, hknown], hs, fun _ _ => rfl⟩
    · refine ⟨hnew.symm, hs.remember htext, fun error herror => ?_⟩
      rw [hnew] at herror
      cases herror

/-- Reading an identifier; a refusal leaves the identifiers alone. -/
theorem IsSound.parseIdentifier (hs : memory.IsSound) (text : String) :
    (memory.parseIdentifier text).1 = Identifier.parse text ∧
      (memory.parseIdentifier text).2.IsSound ∧
      (∀ error, Identifier.parse text = .error error →
        memory.AddsAddresses (memory.parseIdentifier text).2) := by
  unfold Memory.parseIdentifier
  split
  · next known hfound =>
    exact ⟨(hs.identifiers _ (Table.mem_of_get?_eq_some hfound)).symm, hs, fun _ _ => .refl memory⟩
  · split
    · next error hsplit =>
      have hparse : Identifier.parse text = .error error := by rw [Identifier.parse_eq, hsplit]
      exact ⟨hparse.symm, hs, fun _ _ => .refl memory⟩
    · next parts hsplit =>
      obtain ⟨hanswer, hsound, hadds⟩ := hs.parseAddress parts.address
      split
      · next error rest hread =>
        rw [hread] at hanswer hsound hadds
        have hparse : Identifier.parse text = .error (.address error) := by
          rw [Identifier.parse_eq, hsplit]
          simp only [← hanswer]
        exact ⟨hparse.symm, hsound, fun _ _ => hadds⟩
      · next address rest hread =>
        rw [hread] at hanswer hsound hadds
        have hparse : Identifier.parse text = Identifier.new parts.name address parts.terminal := by
          rw [Identifier.parse_eq, hsplit]
          simp only [← hanswer]
        rw [hparse]
        split
        · next error hnew => exact ⟨hnew.symm, hsound, fun _ _ => hadds⟩
        · next id hnew =>
          -- It is kept under the text that was read and under its own.
          have htext : Identifier.parse text = .ok id := hparse.trans hnew
          have hown : Identifier.parse id.text = .ok id :=
            Identifier.parse_text (Identifier.issued_of_parse_eq_ok htext)
          refine ⟨hnew.symm, (hsound.remember htext).remember hown, fun error herror => ?_⟩
          rw [hnew] at herror
          cases herror

/-- The identifier of a meta; a refusal leaves the identifiers alone. -/
theorem IsSound.deriveIdentifier (hs : memory.IsSound) (m : Meta) (network : Entity)
    (terminal : Option String) :
    (memory.deriveIdentifier m network terminal).1 = m.identifier network terminal ∧
      (memory.deriveIdentifier m network terminal).2.IsSound ∧
      (∀ error, m.identifier network terminal = .error error →
        memory.AddsAddresses (memory.deriveIdentifier m network terminal).2) := by
  obtain ⟨hanswer, hsound, hadds⟩ := hs.deriveAddress m network
  unfold Memory.deriveIdentifier
  split
  · next error rest hderive =>
    rw [hderive] at hanswer hsound hadds
    have hidentifier : m.identifier network terminal = .error (.address error) := by
      rw [Meta.identifier, ← hanswer]
      rfl
    exact ⟨hidentifier.symm, hsound, fun _ _ => hadds⟩
  · next address rest hderive =>
    rw [hderive] at hanswer hsound hadds
    have hidentifier : m.identifier network terminal =
        Identifier.new m.seed address terminal := by
      rw [Meta.identifier, ← hanswer]
      rfl
    have issued : address.Issued := .derive (show Address.derive _ _ _ = _ from hanswer.symm)
    obtain ⟨hcreate, hcreateSound, hrefusal⟩ := hsound.createIdentifier m.seed issued terminal
    rw [hidentifier]
    refine ⟨hcreate, hcreateSound, fun error herror => ?_⟩
    rw [hrefusal error herror]
    exact hadds

/-! ### Forgetting -/

theorem mem_of_mem_thin {α : Type} {walk : Walk} {entries : List α} {entry : α}
    (h : entry ∈ walk.thin entries) : entry ∈ entries := by
  obtain ⟨⟨kept, place⟩, hmem, rfl⟩ := List.mem_map.mp h
  exact List.fst_mem_of_mem_zipIdx (List.mem_of_mem_filter hmem)

/-- What is left of a sound memory is sound, whatever walks decide what goes. -/
theorem IsSound.thin (hs : memory.IsSound) (walks : Walks) : (memory.thin walks).IsSound where
  identifiers entry h := hs.identifiers entry (mem_of_mem_thin h)
  parsed entry h := hs.parsed entry (mem_of_mem_thin h)
  isDerivation entry h := hs.isDerivation entry (mem_of_mem_thin h)
  derived entry h := hs.derived entry (mem_of_mem_thin h)

end Memory

/-! ### What serving one request does -/

/-- What an answer and the memory afterwards have to be: the answer is the one without a memory, the
memory is sound, and after a refusal it only gained addresses. -/
structure Memory.Serves (memory : Memory) (plain : Option Answer) (answer : Answer)
    (rest : Memory) : Prop where
  sound : rest.IsSound
  answer_eq : ∀ expected ∈ plain, answer = expected
  addsAddresses : answer.isRefusal → memory.AddsAddresses rest

theorem Memory.Serves.address {memory rest : Memory} {found plain : Except AddressError Address}
    (hanswer : found = plain) (hsound : rest.IsSound) (hadds : memory.AddsAddresses rest) :
    memory.Serves (some (.address plain)) (.address found) rest := by
  refine ⟨hsound, ?_, fun _ => hadds⟩
  rintro _ ⟨⟩
  exact congrArg Answer.address hanswer

theorem Memory.Serves.identifier {memory rest : Memory}
    {found plain : Except IdentifierError Identifier} (hanswer : found = plain)
    (hsound : rest.IsSound)
    (hadds : ∀ error, plain = .error error → memory.AddsAddresses rest) :
    memory.Serves (some (.identifier plain)) (.identifier found) rest := by
  refine ⟨hsound, ?_, fun hrefusal => ?_⟩
  · rintro _ ⟨⟩
    exact congrArg Answer.identifier hanswer
  · obtain ⟨error, herror⟩ := Answer.exists_error_of_isRefusal hrefusal
    exact hadds error (hanswer.symm.trans herror)

namespace Context

/-- The standard context with a given memory. -/
def holding (memory : Memory) : Context :=
  { loaded with memories := [memory] }

theorem holding_empty : holding .empty = loaded := rfl

variable {α : Type} (memory : Memory)

theorem withAddresses_holding (act : Memory → Except AddressError α × Memory) :
    (holding memory).withAddresses act = ((act memory).1, holding (act memory).2) := rfl

theorem withIdentifiers_holding (act : Memory → Except IdentifierError α × Memory) :
    (holding memory).withIdentifiers act = ((act memory).1, holding (act memory).2) := rfl

variable {memory}

/-- Whether a meta belongs to an identifier is answered rightly; it leaves the identifiers alone. -/
theorem matchesIdentifier_holding (hs : memory.IsSound) (m : Meta) (did : Identifier) :
    ∃ rest, (holding memory).matchesIdentifier m did = (m.belongsTo did, holding rest) ∧
      rest.IsSound ∧ memory.AddsAddresses rest := by
  obtain ⟨hanswer, hsound, hadds⟩ := hs.deriveAddress m did.network
  unfold matchesIdentifier Meta.belongsTo
  split_ifs with hname
  · rw [hname, Bool.true_and, deriveAddress, withAddresses_holding, ← hanswer]
    refine ⟨_, ?_, hsound, hadds⟩
    cases (memory.deriveAddress m did.network).1 <;> rfl
  · rw [Bool.eq_false_of_not_eq_true hname, Bool.false_and]
    exact ⟨memory, rfl, hs, .refl memory⟩

/-- **Step.** A request to a context with a sound memory is answered as without the memory, the
memory stays sound, and a refusal only adds addresses. -/
theorem serve_holding (hs : memory.IsSound) (request : Request) :
    ∃ answer rest, request.serve (holding memory) = (answer, holding rest) ∧
      memory.Serves request.plain answer rest := by
  cases request with
  | parseAddress text =>
    obtain ⟨hanswer, hsound, hadds⟩ := hs.parseAddress text
    exact ⟨_, _, rfl, .address hanswer hsound hadds⟩
  | deriveAddress m network =>
    obtain ⟨hanswer, hsound, hadds⟩ := hs.deriveAddress m network
    exact ⟨_, _, rfl, .address hanswer hsound hadds⟩
  | parseIdentifier text =>
    obtain ⟨hanswer, hsound, hadds⟩ := hs.parseIdentifier text
    exact ⟨_, _, rfl, .identifier hanswer hsound hadds⟩
  | createIdentifier name address issued terminal =>
    obtain ⟨hanswer, hsound, hsame⟩ := hs.createIdentifier name issued terminal
    have hadds : ∀ error, Identifier.new name address terminal = .error error →
        memory.AddsAddresses (memory.createIdentifier name address terminal).2 := by
      intro error herror
      rw [hsame error herror]
      exact .refl memory
    exact ⟨_, _, rfl, .identifier hanswer hsound hadds⟩
  | deriveIdentifier m network terminal =>
    obtain ⟨hanswer, hsound, hadds⟩ := hs.deriveIdentifier m network terminal
    exact ⟨_, _, rfl, .identifier hanswer hsound hadds⟩
  | matchIdentifier m did =>
    obtain ⟨rest, hserve, hsound, hadds⟩ := matchesIdentifier_holding hs m did
    refine ⟨.verdict (m.belongsTo did), rest, ?_, hsound, ?_, fun _ => hadds⟩
    · rw [Request.serve, hserve]
      rfl
    · rintro _ ⟨⟩
      rfl
  | reduceMemory walks =>
    refine ⟨_, _, rfl, hs.thin walks, ?_, fun hrefusal => ?_⟩
    · rintro _ ⟨⟩
    · cases hrefusal

/-! ### What a run of requests does -/

/-- **Run.** All requests to a context with a sound memory are answered as without the memory, and
the memory stays sound. -/
theorem serveAll_holding (hs : memory.IsSound) (requests : List Request) :
    ∃ answers rest, Request.serveAll (holding memory) requests = (answers, holding rest) ∧
      rest.IsSound ∧
      List.Forall₂ (fun request answer => ∀ plain ∈ request.plain, answer = plain) requests
        answers := by
  induction requests generalizing memory with
  | nil => exact ⟨[], memory, rfl, hs, .nil⟩
  | cons request requests ih =>
    obtain ⟨answer, next, hserve, hnext⟩ := serve_holding hs request
    obtain ⟨answers, rest, hrun, hrest, hanswers⟩ := ih hnext.sound
    refine ⟨answer :: answers, rest, ?_, hrest, .cons hnext.answer_eq hanswers⟩
    rw [Request.serveAll, hserve]
    simp only [hrun]
    rfl

/-- After any requests the standard context holds a sound memory. -/
theorem exists_after_eq_holding (requests : List Request) :
    ∃ memory, after requests = holding memory ∧ memory.IsSound := by
  obtain ⟨answers, rest, hrun, hrest, -⟩ := serveAll_holding Memory.isSound_empty requests
  refine ⟨rest, ?_, hrest⟩
  rw [after, ← holding_empty, hrun]

variable (requests : List Request)

theorem serveAll_append (context : Context) (requests more : List Request) :
    (Request.serveAll context (requests ++ more)).2 =
      (Request.serveAll (Request.serveAll context requests).2 more).2 := by
  induction requests generalizing context with
  | nil => rfl
  | cons request requests ih => exact ih (request.serve context).2

/-- One request more. -/
theorem after_concat (request : Request) :
    after (requests ++ [request]) = (request.serve (after requests)).2 :=
  serveAll_append .loaded requests [request]

/-- What does not look at the memory is the same after any requests as in a fresh context. -/
theorem apply_after {α : Type} (ask : Context → α)
    (h : ∀ memory, ask (holding memory) = ask loaded) : ask (after requests) = ask loaded := by
  obtain ⟨memory, heq, -⟩ := exists_after_eq_holding requests
  rw [heq]
  exact h memory

theorem deriveAddress_after (m : Meta) (network : Entity) :
    ((after requests).deriveAddress m network).1 = m.address network := by
  obtain ⟨memory, heq, hs⟩ := exists_after_eq_holding requests
  rw [heq]
  exact (hs.deriveAddress m network).1

theorem parseIdentifier_after (text : String) :
    ((after requests).parseIdentifier text).1 = Identifier.parse text := by
  obtain ⟨memory, heq, hs⟩ := exists_after_eq_holding requests
  rw [heq]
  exact (hs.parseIdentifier text).1

theorem deriveIdentifier_after (m : Meta) (network : Entity) (terminal : Option String) :
    ((after requests).deriveIdentifier m network terminal).1 = m.identifier network terminal := by
  obtain ⟨memory, heq, hs⟩ := exists_after_eq_holding requests
  rw [heq]
  exact (hs.deriveIdentifier m network terminal).1

theorem matchesIdentifier_after (m : Meta) (did : Identifier) :
    ((after requests).matchesIdentifier m did).1 = m.belongsTo did := by
  obtain ⟨memory, heq, hs⟩ := exists_after_eq_holding requests
  obtain ⟨rest, hserve, -, -⟩ := matchesIdentifier_holding hs m did
  rw [heq, hserve]

/-- Whatever was requested before, a request is answered as without a memory. -/
theorem serve_after (request : Request) :
    ∀ plain ∈ request.plain, (request.serve (after requests)).1 = plain := by
  obtain ⟨memory, heq, hs⟩ := exists_after_eq_holding requests
  obtain ⟨answer, rest, hserve, hrest⟩ := serve_holding hs request
  rw [heq, hserve]
  exact hrest.answer_eq

end Context

/-- **Memory does not show.** In every run of requests to a standard context, each answer is the
one that is computed without a memory. After the run, the one memory of the context is sound, and a
request that is then refused leaves its identifiers alone and at most adds addresses, which are
right too. -/
theorem memory_does_not_show (requests : List Request) :
    List.Forall₂ (fun request answer => ∀ plain ∈ request.plain, answer = plain) requests
        (Request.serveAll .loaded requests).1 ∧
      ∃ memory : Memory, (Context.after requests).memories = [memory] ∧ memory.IsSound ∧
        ∀ request : Request, (request.serve (Context.after requests)).1.isRefusal →
          ∃ rest : Memory, (request.serve (Context.after requests)).2.memories = [rest] ∧
            memory.AddsAddresses rest ∧ rest.IsSound := by
  obtain ⟨answers, memory, hrun, hs, hanswers⟩ :=
    Context.serveAll_holding Memory.isSound_empty requests
  rw [Context.after, ← Context.holding_empty, hrun]
  refine ⟨hanswers, memory, rfl, hs, fun request hrefusal => ?_⟩
  obtain ⟨answer, rest, hserve, hrest⟩ := Context.serve_holding hs request
  rw [hserve] at hrefusal
  exact ⟨rest, by rw [hserve]; rfl, hrest.addsAddresses hrefusal, hrest.sound⟩

/-- The statement where a request is refused: an identifier without an address, after a broadcast
was read. -/
theorem memory_does_not_show_noAddress :
    ((Request.parseIdentifier "anyone@").serve
        (Context.after [.parseAddress "anywhere"])).1.isRefusal ∧
      ∃ memory rest : Memory,
        ((Request.parseIdentifier "anyone@").serve
          (Context.after [.parseAddress "anywhere"])).2.memories = [rest] ∧
        memory.AddsAddresses rest ∧ rest.IsSound := by
  have hrefusal : ((Request.parseIdentifier "anyone@").serve
      (Context.after [.parseAddress "anywhere"])).1.isRefusal := by decide
  obtain ⟨-, memory, -, -, hstep⟩ := memory_does_not_show [.parseAddress "anywhere"]
  obtain ⟨rest, hrest, hadds, hs⟩ := hstep _ hrefusal
  exact ⟨hrefusal, memory, rest, hrest, hadds, hs⟩

end SelfCert
