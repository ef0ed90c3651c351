import Mathlib.Data.List.Nodup
import Mathlib.Data.List.Range
import SelfCert.Proofs.Transparency

/-!
# How much is forgotten

Thinning out keeps every second entry of each part of a memory, so half of them, rounded down, in
whatever order they are walked through (`Walk.isFraction_thin`). What is counted as removed is the
other half of each part (`Memory.reduce_eq`), and after enough rounds nothing is left
(`Memory.IsFraction.eq_empty`).

The parts are lists of entries, and their lengths count what a map would hold because no key stands
twice in them: this is what every request keeps up (`Memory.HasDistinctKeys`).
-/

namespace SelfCert

variable {α : Type}

/-! ### Every second entry -/

theorem length_everySecond (items : List α) : (everySecond items).length = items.length / 2 := by
  induction items using everySecond.induct with
  | case1 => simp [everySecond]
  | case2 => simp [everySecond]
  | case3 _ b rest ih =>
    rw [everySecond, List.length_cons, ih, List.length_cons, List.length_cons]
    omega

theorem everySecond_sublist (items : List α) : (everySecond items).Sublist items := by
  induction items using everySecond.induct with
  | case1 => exact .slnil
  | case2 a => exact List.nil_sublist [a]
  | case3 a b rest ih => exact (ih.cons_cons b).cons a

/-- Some of the entries of a list, unchanged and in the same order: one in `n`, rounded down. -/
def IsFraction (n : Nat) (kept entries : List α) : Prop :=
  kept.Sublist entries ∧ kept.length = entries.length / n

theorem IsFraction.trans {m n : Nat} {fewer kept entries : List α} (h : IsFraction n fewer kept)
    (h' : IsFraction m kept entries) : IsFraction (m * n) fewer entries :=
  ⟨h.1.trans h'.1, by rw [h.2, h'.2, Nat.div_div_eq_div_mul]⟩

theorem IsFraction.self (entries : List α) : IsFraction 1 entries entries :=
  ⟨.refl entries, (Nat.div_one _).symm⟩

theorem IsFraction.eq_nil {n : Nat} {kept entries : List α} (h : IsFraction n kept entries)
    (hless : entries.length < n) : kept = [] :=
  List.eq_nil_of_length_eq_zero (h.2.trans (Nat.div_eq_of_lt hless))

/-- The places a walk leaves are places of entries, each once. -/
private theorem filter_contains_perm (walk : Walk) (n : Nat) :
    ((List.range n).filter (everySecond (walk.order n)).contains).Perm
      (everySecond (walk.order n)) := by
  have hsublist := everySecond_sublist (walk.order n)
  have hnodup : (everySecond (walk.order n)).Nodup :=
    ((walk.isPerm n).nodup_iff.mpr List.nodup_range).sublist hsublist
  refine (List.perm_ext_iff_of_nodup (List.nodup_range.filter _) hnodup).mpr fun place => ?_
  rw [List.mem_filter, List.contains_iff_mem]
  exact ⟨And.right, fun h => ⟨(walk.isPerm n).mem_iff.mp (hsublist.mem h), h⟩⟩

/-- **Half of the entries are left**, in whatever order they are walked through. -/
theorem Walk.isFraction_thin (walk : Walk) (entries : List α) :
    IsFraction 2 (walk.thin entries) entries := by
  obtain ⟨kept, hkept⟩ : ∃ kept, kept = everySecond (walk.order entries.length) := ⟨_, rfl⟩
  constructor
  · have hsublist := (List.filter_sublist (p := fun entry : α × Nat => kept.contains entry.2)
      (l := entries.zipIdx)).map Prod.fst
    rwa [List.zipIdx_map_fst, hkept] at hsublist
  · have hplaces : (entries.zipIdx.filter fun entry => kept.contains entry.2).map Prod.snd =
        (List.range entries.length).filter kept.contains := by
      rw [List.range_eq_range', ← List.zipIdx_map_snd, List.filter_map]
      rfl
    calc (walk.thin entries).length
        = ((entries.zipIdx.filter fun entry => kept.contains entry.2).map Prod.snd).length := by
          rw [Walk.thin, hkept, List.length_map, List.length_map]
      _ = kept.length := by rw [hplaces, hkept, (filter_contains_perm walk _).length_eq]
      _ = entries.length / 2 := by
          rw [hkept, length_everySecond, (walk.isPerm _).length_eq, List.length_range]

namespace Memory

variable {memory rest : Memory}

/-! ### Thinning out a memory -/

/-- Some of the entries of each part of a memory: one in `n`, rounded down. -/
structure IsFraction (n : Nat) (rest memory : Memory) : Prop where
  identifiers : SelfCert.IsFraction n rest.identifiers memory.identifiers
  derived : SelfCert.IsFraction n rest.derived memory.derived
  parsed : SelfCert.IsFraction n rest.parsed memory.parsed

theorem isFraction_thin (walks : Walks) (memory : Memory) :
    (memory.thin walks).IsFraction 2 memory where
  identifiers := walks.identifiers.isFraction_thin memory.identifiers
  derived := walks.derived.isFraction_thin memory.derived
  parsed := walks.parsed.isFraction_thin memory.parsed

theorem IsFraction.self (memory : Memory) : memory.IsFraction 1 memory :=
  ⟨.self _, .self _, .self _⟩

theorem IsFraction.trans {m n : Nat} {fewer : Memory} (h : fewer.IsFraction n rest)
    (h' : rest.IsFraction m memory) : fewer.IsFraction (m * n) memory :=
  ⟨h.identifiers.trans h'.identifiers, h.derived.trans h'.derived, h.parsed.trans h'.parsed⟩

/-- **Nothing is left** of a memory with fewer entries than the denominator. -/
theorem IsFraction.eq_empty {n : Nat} (h : rest.IsFraction n memory) (hless : memory.size < n) :
    rest = empty := by
  rw [size, addressCount] at hless
  have hidentifiers := h.identifiers.eq_nil (by omega)
  have hderived := h.derived.eq_nil (by omega)
  have hparsed := h.parsed.eq_nil (by omega)
  cases rest
  simp only at hidentifiers hderived hparsed
  rw [hidentifiers, hderived, hparsed, empty]

/-- How many entries go: half of each part, rounded up. -/
def excess (memory : Memory) : Nat :=
  (memory.identifiers.length + 1) / 2 + (memory.derived.length + 1) / 2 +
    (memory.parsed.length + 1) / 2

theorem excess_add_size (h : rest.IsFraction 2 memory) :
    memory.excess + rest.size = memory.size := by
  have hidentifiers := h.identifiers.2
  have hderived := h.derived.2
  have hparsed := h.parsed.2
  simp only [excess, size, addressCount]
  omega

/-- **What is counted is what goes.** -/
theorem reduce_eq (walks : Walks) (memory : Memory) :
    memory.reduce walks = (memory.excess, memory.thin walks) := by
  have hsize := excess_add_size (isFraction_thin walks memory)
  rw [reduce, ← hsize, Nat.add_sub_cancel]

/-! ### Keys -/

/-- No key stands twice in a part of a memory. -/
structure HasDistinctKeys (memory : Memory) : Prop where
  identifiers : Table.IsSorted memory.identifiers
  derived : (memory.derived.map Prod.fst).Nodup
  parsed : Table.IsSorted memory.parsed

theorem hasDistinctKeys_empty : empty.HasDistinctKeys :=
  ⟨.nil, List.nodup_nil, .nil⟩

variable (h : memory.HasDistinctKeys)

include h

theorem HasDistinctKeys.parseAddress (text : String) :
    (memory.parseAddress text).2.HasDistinctKeys := by
  unfold Memory.parseAddress
  split
  · exact h
  · split
    · exact { h with parsed := h.parsed.insert _ _ }
    · exact h

theorem HasDistinctKeys.deriveAddress (m : Meta) (network : Entity) :
    (memory.deriveAddress m network).2.HasDistinctKeys := by
  unfold Memory.deriveAddress
  simp only
  split
  · exact h
  · next hnew =>
    split
    · refine { h with derived := List.nodup_cons.mpr ⟨fun hmem => ?_, h.derived⟩ }
      -- An address is derived anew only where none was found under the key.
      obtain ⟨entry, hentry, hkey⟩ := List.mem_map.mp hmem
      have hother := List.find?_eq_none.mp (Option.map_eq_none_iff.mp hnew) entry hentry
      exact hother (beq_iff_eq.mpr hkey)
    · exact h

theorem HasDistinctKeys.remember (text : String) (id : Identifier) :
    (memory.remember text id).HasDistinctKeys :=
  { h with identifiers := h.identifiers.insert text id }

theorem HasDistinctKeys.createIdentifier (name : Option String) (address : Address)
    (terminal : Option String) :
    (memory.createIdentifier name address terminal).2.HasDistinctKeys := by
  unfold Memory.createIdentifier
  split
  · exact h
  · split
    · exact h
    · exact h.remember _ _

theorem HasDistinctKeys.deriveIdentifier (m : Meta) (network : Entity)
    (terminal : Option String) :
    (memory.deriveIdentifier m network terminal).2.HasDistinctKeys := by
  have hderive := h.deriveAddress m network
  unfold Memory.deriveIdentifier
  split
  · next heq => rwa [heq] at hderive
  · next heq =>
    rw [heq] at hderive
    exact hderive.createIdentifier _ _ _

theorem HasDistinctKeys.parseIdentifier (text : String) :
    (memory.parseIdentifier text).2.HasDistinctKeys := by
  unfold Memory.parseIdentifier
  split
  · exact h
  · split
    · exact h
    · next parts _ =>
      have hread := h.parseAddress parts.address
      split
      · next heq => rwa [heq] at hread
      · next heq =>
        rw [heq] at hread
        split
        · exact hread
        · exact (hread.remember _ _).remember _ _

theorem HasDistinctKeys.of_isFraction {n : Nat} (hrest : rest.IsFraction n memory) :
    rest.HasDistinctKeys where
  identifiers := h.identifiers.sublist hrest.identifiers.1
  derived := h.derived.sublist (hrest.derived.1.map Prod.fst)
  parsed := h.parsed.sublist hrest.parsed.1

end Memory

namespace Context

variable {memory : Memory}

/-- **Step.** A request leaves no key twice in the memory. -/
theorem hasDistinctKeys_serve (h : memory.HasDistinctKeys) (request : Request) :
    ∃ answer rest, request.serve (holding memory) = (answer, holding rest) ∧
      rest.HasDistinctKeys := by
  cases request with
  | parseAddress text => exact ⟨_, _, rfl, h.parseAddress text⟩
  | deriveAddress m network => exact ⟨_, _, rfl, h.deriveAddress m network⟩
  | parseIdentifier text => exact ⟨_, _, rfl, h.parseIdentifier text⟩
  | createIdentifier name address _ terminal =>
    exact ⟨_, _, rfl, h.createIdentifier name address terminal⟩
  | deriveIdentifier m network terminal => exact ⟨_, _, rfl, h.deriveIdentifier m network terminal⟩
  | matchIdentifier m did =>
    have hderive := h.deriveAddress m did.network
    rw [Request.serve, matchesIdentifier, deriveAddress, withAddresses_holding]
    split_ifs
    · cases (memory.deriveAddress m did.network).1 <;> exact ⟨_, _, rfl, hderive⟩
    · exact ⟨_, _, rfl, h⟩
  | reduceMemory walks => exact ⟨_, _, rfl, h.of_isFraction (Memory.isFraction_thin walks memory)⟩

/-- **Run.** Whatever was requested of a standard context, no key stands twice in its memory. -/
theorem exists_after_hasDistinctKeys (requests : List Request) :
    ∃ memory : Memory, after requests = holding memory ∧ memory.HasDistinctKeys := by
  induction requests using List.reverseRecOn with
  | nil => exact ⟨.empty, rfl, Memory.hasDistinctKeys_empty⟩
  | append_singleton requests request ih =>
    obtain ⟨memory, heq, h⟩ := ih
    obtain ⟨answer, rest, hserve, hrest⟩ := hasDistinctKeys_serve h request
    exact ⟨rest, by rw [after_concat, heq, hserve], hrest⟩

theorem reduceMemory_holding (walks : Walks) (memory : Memory) :
    (holding memory).reduceMemory walks = (memory.excess, holding (memory.thin walks)) :=
  congrArg (fun answer => (answer.1, holding answer.2)) (Memory.reduce_eq walks memory)

/-- Each of several rounds of thinning out leaves half of what was left. -/
theorem exists_serveAll_reduceMemory (memory : Memory) (rounds : List Walks) :
    ∃ rest : Memory, (Request.serveAll (holding memory) (rounds.map .reduceMemory)).2 =
        holding rest ∧ rest.IsFraction (2 ^ rounds.length) memory := by
  induction rounds generalizing memory with
  | nil => exact ⟨memory, rfl, .self memory⟩
  | cons walks rounds ih =>
    obtain ⟨rest, hrun, hrest⟩ := ih (memory.thin walks)
    refine ⟨rest, ?_, ?_⟩
    · rw [List.map_cons, Request.serveAll, Request.serve, reduceMemory_holding]
      exact hrun
    · rw [List.length_cons, Nat.pow_succ']
      exact hrest.trans (Memory.isFraction_thin walks memory)

end Context

/-- **Thinning out is exact.** Whatever was requested of a standard context, it holds one memory, in
which no key stands twice. In whatever order that is walked through, half of each part goes, rounded
up: this is the number that is answered and by which the memory gets smaller. The other half stays
as it was, and so does the rest of the context. Of each part, several rounds leave one entry in the
power of two; when that is more than all entries, nothing is left, and nothing more goes. -/
theorem thinning_is_exact (requests : List Request) :
    ∃ memory : Memory, Context.after requests = .holding memory ∧ memory.HasDistinctKeys ∧
      (∀ walks : Walks, ∃ rest : Memory,
        (Context.after requests).reduceMemory walks =
          ((memory.identifiers.length + 1) / 2 + (memory.derived.length + 1) / 2 +
            (memory.parsed.length + 1) / 2, .holding rest) ∧
        rest.IsFraction 2 memory ∧
        ((Context.after requests).reduceMemory walks).1 + rest.size = memory.size) ∧
      ∀ rounds : List Walks, ∃ rest : Memory,
        Context.after (requests ++ rounds.map .reduceMemory) = .holding rest ∧
        rest.IsFraction (2 ^ rounds.length) memory ∧
        (memory.size < 2 ^ rounds.length →
          rest = .empty ∧ ∀ walks : Walks,
            (Context.after (requests ++ rounds.map .reduceMemory)).reduceMemory walks =
              (0, .holding .empty)) := by
  obtain ⟨memory, heq, hdistinct⟩ := Context.exists_after_hasDistinctKeys requests
  refine ⟨memory, heq, hdistinct, fun walks => ?_, fun rounds => ?_⟩
  · have hrest := Memory.isFraction_thin walks memory
    refine ⟨memory.thin walks, ?_, hrest, ?_⟩
    · rw [heq, Context.reduceMemory_holding, Memory.excess]
    · rw [heq, Context.reduceMemory_holding]
      exact Memory.excess_add_size hrest
  · obtain ⟨rest, hrun, hrest⟩ := Context.exists_serveAll_reduceMemory memory rounds
    have hafter : Context.after (requests ++ rounds.map .reduceMemory) = .holding rest := by
      rw [Context.after, Context.serveAll_append, ← Context.after, heq, hrun]
    refine ⟨rest, hafter, hrest, fun hless => ?_⟩
    obtain rfl := hrest.eq_empty hless
    refine ⟨rfl, fun walks => ?_⟩
    rw [hafter, Context.reduceMemory_holding,
      (Memory.isFraction_thin walks .empty).eq_empty (by decide)]
    rfl

/-- The statement for a memory of six entries, of which two are for one identifier. -/
theorem thinning_is_exact_everyone :
    ∃ memory : Memory,
      Context.after [.parseIdentifier "everyone@EVERYWHERE", .parseIdentifier "anyone@anywhere",
        .parseAddress "everywhere"] = .holding memory ∧
      memory.identifiers.length = 3 ∧ memory.parsed.length = 3 ∧ memory.size < 2 ^ 3 ∧
      ∀ walks : Walks,
        (Context.after ([.parseIdentifier "everyone@EVERYWHERE", .parseIdentifier "anyone@anywhere",
          .parseAddress "everywhere"] ++ [walks, walks, walks].map .reduceMemory)).reduceMemory
            walks = (0, .holding .empty) := by
  obtain ⟨memory, heq, -, -, hrounds⟩ := thinning_is_exact
    [.parseIdentifier "everyone@EVERYWHERE", .parseIdentifier "anyone@anywhere",
      .parseAddress "everywhere"]
  have hsizes : (Context.after [.parseIdentifier "everyone@EVERYWHERE",
      .parseIdentifier "anyone@anywhere", .parseAddress "everywhere"]).memories.map
        (fun memory => (memory.identifiers.length, memory.derived.length, memory.parsed.length)) =
      [(3, 0, 3)] := by decide
  rw [heq] at hsizes
  obtain ⟨hidentifiers, hderived, hparsed⟩ :
      memory.identifiers.length = 3 ∧ memory.derived.length = 0 ∧ memory.parsed.length = 3 := by
    simpa [Context.holding] using hsizes
  have hless : memory.size < 2 ^ 3 := by
    rw [Memory.size, Memory.addressCount]
    omega
  refine ⟨memory, heq, hidentifiers, hparsed, hless, fun walks => ?_⟩
  obtain ⟨rest, -, -, hempty⟩ := hrounds [walks, walks, walks]
  exact (hempty hless).2 walks

end SelfCert
