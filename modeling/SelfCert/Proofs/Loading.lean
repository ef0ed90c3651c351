import SelfCert.Context
import SelfCert.Proofs.Table

/-!
# Loading happens once, and as a whole

Before and after a context is loaded, its host registers agents of its own. Who these are does not
matter for what loading does: it puts the built-in agents under their tags and leaves all other tags
alone. So loading is described for the registries of any agents (`Roster`), and a context is the
case in which all agents are built in (`Context.roster_perform`).

The first step that loads or marks says whether anything is installed. Until then, and forever
after, each tag has the agent of its last registration (`Roster.get?_registry_run`), and only if the
first step is a load, the built-in agents come in between (`Roster.get?_registry_load`).
-/

namespace SelfCert

/-! ### Agents -/

/-- What registries are kept for. -/
inductive Concern where
  | publicKeys
  | privateKeys
  | symmetricKeys
  | metas
  | documents
  | addresses
  | identifiers
  | encodings
  | files
  deriving DecidableEq, Repr

/-- What a context has in its registry for a concern. -/
@[reducible]
def Concern.Entry : Concern → Type
  | publicKeys => KeyAlgorithm
  | privateKeys => KeyAlgorithm
  | symmetricKeys => CipherKind
  | metas => Scheme
  | documents => Option DocumentKind
  | addresses => Nat
  | identifiers => Nat
  | encodings => Encoding
  | files => Unit

/-- The agents that can be registered for each concern: those that are built in, of which there is
one for each entry of a context, and others that a host brings along. -/
structure Agents where
  Of : Concern → Type
  builtIn : (concern : Concern) → concern.Entry → Of concern

/-- The agents of a context: only those that are built in. -/
def Agents.own : Agents := ⟨Concern.Entry, fun _ entry => entry⟩

namespace Context.LoadOptions

/-- What is put into the registry for a concern. The agents for addresses and identifiers share a
memory, which is new and has a given number. -/
def installed (options : LoadOptions) (number : Nat) :
    (concern : Concern) → List (String × concern.Entry)
  | .publicKeys => keyAlgorithms
  | .privateKeys => keyAlgorithms
  | .symmetricKeys => cipherKinds
  | .metas => schemeTags options
  | .documents => documentTags options
  | .addresses => [(Registry.wildcard, number)]
  | .identifiers => [(Registry.wildcard, number)]
  | .encodings => encodingTags
  | .files => [(Registry.wildcard, ())]

/-- Whether options ask for an alias of a scheme. -/
def InstallsAlias (options : LoadOptions) (name : String) (scheme : Scheme) : Prop :=
  options.lowercaseAliases ∧ (name, scheme) ∈ Scheme.lowercaseAliases ∨
    options.uppercaseAliases ∧ (name, scheme) ∈ Scheme.uppercaseAliases

/-- An alias is one of a built-in scheme. -/
theorem InstallsAlias.mem_builtIn {options : LoadOptions} {name : String} {scheme : Scheme}
    (h : options.InstallsAlias name scheme) : scheme ∈ Scheme.builtIn := by
  have hlowercase : ∀ entry ∈ Scheme.lowercaseAliases, entry.2 ∈ Scheme.builtIn := by decide
  have huppercase : ∀ entry ∈ Scheme.uppercaseAliases, entry.2 ∈ Scheme.builtIn := by decide
  exact h.elim (fun h => hlowercase _ h.2) fun h => huppercase _ h.2

/-- Whether options install an entry under a tag: each kind of key, way to seal messages, scheme,
kind of documents and encoding under its own tag, the schemes under the aliases that are asked for,
the documents of the usual kind under the wildcard if that is asked for, and Base64, addresses,
identifiers and files under the wildcard. -/
def Installs (options : LoadOptions) (number : Nat) :
    (concern : Concern) → String → concern.Entry → Prop
  | .publicKeys, tag, algorithm => tag = algorithm.tag
  | .privateKeys, tag, algorithm => tag = algorithm.tag
  | .symmetricKeys, tag, kind => tag = kind.tag
  | .metas, tag, scheme =>
    scheme ∈ Scheme.builtIn ∧ tag = scheme.tag ∨ options.InstallsAlias tag scheme
  | .documents, tag, kind =>
    (∃ named ∈ [DocumentKind.visa, .profile, .bulletin], tag = named.tag ∧ kind = some named) ∨
      options.wildcardDocuments ∧ tag = Registry.wildcard ∧ kind = none
  | .addresses, tag, memory => tag = Registry.wildcard ∧ memory = number
  | .identifiers, tag, memory => tag = Registry.wildcard ∧ memory = number
  | .encodings, tag, encoding =>
    tag = encoding.tag ∨ tag = Registry.wildcard ∧ encoding = .base64
  | .files, tag, _ => tag = Registry.wildcard

/-- What is put in is what the options install. -/
theorem mem_installed_iff {options : LoadOptions} {number : Nat} {concern : Concern} {tag : String}
    {entry : concern.Entry} :
    (tag, entry) ∈ options.installed number concern ↔
      options.Installs number concern tag entry := by
  cases concern with
  | publicKeys => cases entry <;> simp [installed, keyAlgorithms, Installs]
  | privateKeys => cases entry <;> simp [installed, keyAlgorithms, Installs]
  | symmetricKeys => cases entry <;> simp [installed, cipherKinds, Installs]
  | metas =>
    have hbuiltIn : (tag, entry) ∈ Scheme.builtIn.map (fun scheme => (scheme.tag, scheme)) ↔
        entry ∈ Scheme.builtIn ∧ tag = entry.tag := by
      simp [List.mem_map, eq_comm]
    rw [installed, schemeTags, List.mem_append, List.mem_append, hbuiltIn,
      List.mem_ite_nil_right, List.mem_ite_nil_right, or_assoc]
    rfl
  | documents =>
    rw [installed, documentTags, List.mem_append, List.mem_map, List.mem_ite_nil_right,
      List.mem_singleton]
    simp only [Installs, Prod.mk.injEq, eq_comm]
  | addresses => simp [installed, Installs]
  | identifiers => simp [installed, Installs]
  | encodings => cases entry <;> simp [installed, encodingTags, Installs]
  | files => simp [installed, Installs]

/-- Each tag is put in once. -/
theorem nodup_installed (options : LoadOptions) (number : Nat) (concern : Concern) :
    ((options.installed number concern).map Prod.fst).Nodup := by
  cases concern with
  | publicKeys => exact (by decide : (keyAlgorithms.map Prod.fst).Nodup)
  | privateKeys => exact (by decide : (keyAlgorithms.map Prod.fst).Nodup)
  | symmetricKeys => exact (by decide : (cipherKinds.map Prod.fst).Nodup)
  | metas =>
    have hall : ∀ lowercase uppercase wildcard,
        ((schemeTags ⟨lowercase, uppercase, wildcard⟩).map Prod.fst).Nodup := by decide
    exact hall _ _ _
  | documents =>
    have hall : ∀ lowercase uppercase wildcard,
        ((documentTags ⟨lowercase, uppercase, wildcard⟩).map Prod.fst).Nodup := by decide
    exact hall _ _ _
  | addresses => exact List.pairwise_singleton _ _
  | identifiers => exact List.pairwise_singleton _ _
  | encodings => exact (by decide : (encodingTags.map Prod.fst).Nodup)
  | files => exact List.pairwise_singleton _ _

end Context.LoadOptions

/-! ### Registries of any agents -/

/-- The registries of a host, and whether they were loaded. -/
@[ext]
structure Roster (A : Agents) where
  isLoaded : Bool
  registry : (concern : Concern) → Registry (A.Of concern)
  /-- How many memories there are, which is the number of the next one. -/
  memories : Nat

namespace Roster

variable {A : Agents}

/-- Nobody is registered. -/
def empty : Roster A := ⟨false, fun _ => [], 0⟩

/-- What a host does to its registries. -/
inductive Step (A : Agents) where
  | register (concern : Concern) (tag : String) (agent : A.Of concern)
  /-- A memory is made, for an agent for addresses or identifiers that is still to be registered. -/
  | addMemory
  | load (options : Context.LoadOptions)
  | markLoaded

namespace Step

/-- Whether a step says that the registries are loaded. -/
def isLoading : Step A → Bool
  | load _ => true
  | markLoaded => true
  | _ => false

/-- The agent that a step registers for a concern under a tag. -/
def agent? (concern : Concern) (tag : String) : Step A → Option (A.Of concern)
  | register other name agent =>
    if h : other = concern then if name = tag then some (h ▸ agent) else none else none
  | _ => none

end Step

/-- The agent of the last registration for a concern under a tag. -/
def lastRegistered (concern : Concern) (tag : String) : List (Step A) → Option (A.Of concern)
  | [] => none
  | step :: steps => (lastRegistered concern tag steps).or (step.agent? concern tag)

/-- Registers an agent for a concern under a tag. -/
def register (roster : Roster A) (concern : Concern) (tag : String) (agent : A.Of concern) :
    Roster A :=
  { roster with
    registry := Function.update roster.registry concern
      (Table.insert tag agent (roster.registry concern)) }

/-- Says that the registries are loaded; tells whether they were not. -/
def markLoaded (roster : Roster A) : Bool × Roster A :=
  (!roster.isLoaded, { roster with isLoaded := true })

/-- Registers the built-in agents unless the registries were loaded before; tells whether they were
not. -/
def load (options : Context.LoadOptions) (roster : Roster A) : Bool × Roster A :=
  if roster.isLoaded then (false, roster)
  else
    (true, {
      isLoaded := true
      registry := fun concern =>
        Table.insertAll
          ((options.installed roster.memories concern).map fun entry =>
            (entry.1, A.builtIn concern entry.2))
          (roster.registry concern)
      memories := roster.memories + 1 })

/-- Takes a step; a load and a mark tell whether they were the first. -/
def perform (roster : Roster A) : Step A → Option Bool × Roster A
  | .register concern tag agent => (none, roster.register concern tag agent)
  | .addMemory => (none, { roster with memories := roster.memories + 1 })
  | .load options => (roster.load options).map some id
  | .markLoaded => roster.markLoaded.map some id

/-- The registries after some steps. -/
def run (roster : Roster A) (steps : List (Step A)) : Roster A :=
  steps.foldl (fun roster step => (roster.perform step).2) roster

theorem run_cons (roster : Roster A) (step : Step A) (steps : List (Step A)) :
    roster.run (step :: steps) = (roster.perform step).2.run steps := rfl

theorem run_append (roster : Roster A) (steps others : List (Step A)) :
    roster.run (steps ++ others) = (roster.run steps).run others :=
  List.foldl_append

theorem lastRegistered_append (concern : Concern) (tag : String) (steps others : List (Step A)) :
    lastRegistered concern tag (steps ++ others) =
      (lastRegistered concern tag others).or (lastRegistered concern tag steps) := by
  induction steps with
  | nil => exact (Option.or_none).symm
  | cons step steps ih => rw [List.cons_append, lastRegistered, ih, Option.or_assoc, lastRegistered]

/-! ### The flag -/

/-- A load or a mark tells whether it was the first. -/
theorem perform_answer (roster : Roster A) {step : Step A} (hloading : step.isLoading) :
    (roster.perform step).1 = some !roster.isLoaded := by
  cases step with
  | register => cases hloading
  | addMemory => cases hloading
  | load options =>
    cases hloaded : roster.isLoaded with
    | false => simp [perform, load, hloaded]
    | true => simp [perform, load, hloaded]
  | markLoaded => rfl

/-- If it was not, it changes nothing. -/
theorem perform_of_isLoaded {roster : Roster A} (hloaded : roster.isLoaded) {step : Step A}
    (hloading : step.isLoading) : (roster.perform step).2 = roster := by
  cases step with
  | register => cases hloading
  | addMemory => cases hloading
  | load options => simp [perform, load, hloaded]
  | markLoaded => exact Roster.ext hloaded.symm rfl rfl

/-- The flag is set by a load and a mark, and never taken back. -/
theorem isLoaded_perform (roster : Roster A) (step : Step A) :
    (roster.perform step).2.isLoaded = (roster.isLoaded || step.isLoading) := by
  cases step with
  | register => exact (Bool.or_false _).symm
  | addMemory => exact (Bool.or_false _).symm
  | load options =>
    cases hloaded : roster.isLoaded with
    | false => simp [perform, load, hloaded, Step.isLoading]
    | true => simp [perform, load, hloaded]
  | markLoaded => exact (Bool.or_true _).symm

theorem isLoaded_run (roster : Roster A) (steps : List (Step A)) :
    (roster.run steps).isLoaded = (roster.isLoaded || steps.any Step.isLoading) := by
  induction steps generalizing roster with
  | nil => exact (Bool.or_false _).symm
  | cons step steps ih => rw [run_cons, ih, isLoaded_perform, List.any_cons, Bool.or_assoc]

/-! ### What is registered -/

/-- A step registers its agent and nothing else, unless it is the first load. -/
theorem get?_registry_perform {roster : Roster A} {step : Step A}
    (h : roster.isLoaded ∨ ∀ options, step ≠ .load options) (concern : Concern) (tag : String) :
    Table.get? tag ((roster.perform step).2.registry concern) =
      (step.agent? concern tag).or (Table.get? tag (roster.registry concern)) := by
  cases step with
  | register other name agent =>
    by_cases hconcern : other = concern
    · subst hconcern
      by_cases hname : name = tag
      · subst hname
        simp [perform, register, Step.agent?]
      · simp [perform, register, Step.agent?, hname, Table.get?_insert_of_ne (Ne.symm hname)]
    · simp [perform, register, Step.agent?, hconcern, Function.update_of_ne (Ne.symm hconcern)]
  | addMemory => rfl
  | load options =>
    obtain hloaded | hne := h
    · rw [perform_of_isLoaded hloaded rfl]
      rfl
    · exact absurd rfl (hne options)
  | markLoaded => rfl

/-- **Each tag has the agent of its last registration** if the registries are loaded already, or if
they are not loaded on the way. -/
theorem get?_registry_run {roster : Roster A} {steps : List (Step A)}
    (h : roster.isLoaded ∨ steps.any Step.isLoading = false) (concern : Concern) (tag : String) :
    Table.get? tag ((roster.run steps).registry concern) =
      (lastRegistered concern tag steps).or (Table.get? tag (roster.registry concern)) := by
  induction steps generalizing roster with
  | nil => rfl
  | cons step steps ih =>
    -- Either the flag is set, and stays so, or neither this step nor a later one loads.
    have hstep : roster.isLoaded ∨ ∀ options, step ≠ .load options := by
      refine h.imp_right fun hany options heq => ?_
      rw [heq] at hany
      cases hany
    have hrest : (roster.perform step).2.isLoaded ∨ steps.any Step.isLoading = false := by
      rw [isLoaded_perform, Bool.or_eq_true]
      exact h.imp .inl fun hany => (Bool.or_eq_false_iff.mp hany).2
    rw [run_cons, ih hrest, get?_registry_perform hstep, lastRegistered, Option.or_assoc]

variable {roster : Roster A} {options : Context.LoadOptions} {concern : Concern} {tag : String}

/-- A registry after the first load. -/
theorem registry_load (hloaded : roster.isLoaded = false) (options : Context.LoadOptions)
    (concern : Concern) :
    (roster.load options).2.registry concern =
      Table.insertAll
        ((options.installed roster.memories concern).map fun entry =>
          (entry.1, A.builtIn concern entry.2))
        (roster.registry concern) := by
  rw [load, if_neg (by simp [hloaded])]

/-- The first load puts the built-in agents in place of what was there. -/
theorem get?_registry_load (hloaded : roster.isLoaded = false) {entry : concern.Entry}
    (hinstalls : options.Installs roster.memories concern tag entry) :
    Table.get? tag ((roster.load options).2.registry concern) =
      some (A.builtIn concern entry) := by
  rw [registry_load hloaded]
  refine Table.get?_insertAll_of_mem ?_ ?_ _
  · rw [List.map_map]
    exact Context.LoadOptions.nodup_installed options roster.memories concern
  · exact List.mem_map_of_mem (Context.LoadOptions.mem_installed_iff.mpr hinstalls)

/-- An alias gets the agent of its canonical tag. -/
theorem get?_registry_load_alias (hloaded : roster.isLoaded = false) {name : String}
    {scheme : Scheme} (halias : options.InstallsAlias name scheme) :
    Table.get? name ((roster.load options).2.registry .metas) =
      Table.get? scheme.tag ((roster.load options).2.registry .metas) := by
  have hcanonical : options.Installs roster.memories .metas scheme.tag scheme :=
    .inl ⟨halias.mem_builtIn, rfl⟩
  rw [get?_registry_load hloaded hcanonical]
  exact get?_registry_load hloaded (.inr halias)

/-- It leaves all other tags alone. -/
theorem get?_registry_load_of_not_installs (hloaded : roster.isLoaded = false)
    (hinstalls : ∀ entry, ¬options.Installs roster.memories concern tag entry) :
    Table.get? tag ((roster.load options).2.registry concern) =
      Table.get? tag (roster.registry concern) := by
  rw [registry_load hloaded]
  refine Table.get?_insertAll_of_forall_ne ?_ _
  rintro named hnamed rfl
  obtain ⟨entry, hentry, rfl⟩ := List.mem_map.mp hnamed
  exact hinstalls entry.2 (Context.LoadOptions.mem_installed_iff.mp hentry)

/-! ### From the beginning -/

variable {before later : List (Step A)}

theorem isLoaded_run_empty (steps : List (Step A)) :
    (empty.run steps).isLoaded = steps.any Step.isLoading :=
  (isLoaded_run empty steps).trans (Bool.false_or _)

/-- Before any loading, only what was registered is there. -/
theorem get?_registry_run_empty (hbefore : before.any Step.isLoading = false) :
    Table.get? tag ((empty.run before).registry concern) = lastRegistered concern tag before :=
  (get?_registry_run (.inr hbefore) concern tag).trans Option.or_none

/-- If the first to load is a mark, this remains so. -/
theorem get?_registry_run_markLoaded (hbefore : before.any Step.isLoading = false) :
    Table.get? tag ((empty.run (before ++ .markLoaded :: later)).registry concern) =
      lastRegistered concern tag (before ++ .markLoaded :: later) := by
  have hmarked : ((empty.run before).perform .markLoaded).2.isLoaded := rfl
  have hmark : ∀ options, (.markLoaded : Step A) ≠ .load options := by
    intro options h
    cases h
  rw [run_append, run_cons, get?_registry_run (.inl hmarked),
    get?_registry_perform (.inr hmark), get?_registry_run_empty hbefore, lastRegistered_append,
    lastRegistered, Option.or_assoc]

theorem run_load (before : List (Step A)) (options : Context.LoadOptions) :
    empty.run (before ++ [.load options]) = ((empty.run before).load options).2 :=
  run_append empty before [.load options]

end Roster

/-! ### Contexts -/

namespace Context

/-- The registry of a context for a concern. -/
def registry (context : Context) : (concern : Concern) → Registry concern.Entry
  | .publicKeys => context.publicKeys
  | .privateKeys => context.privateKeys
  | .symmetricKeys => context.symmetricKeys
  | .metas => context.metas
  | .documents => context.documents
  | .addresses => context.addresses
  | .identifiers => context.identifiers
  | .encodings => context.encodings
  | .files => context.files

/-- Registers an entry for a concern under a tag. -/
def register (context : Context) (concern : Concern) (tag : String) (entry : concern.Entry) :
    Context :=
  match concern with
  | .publicKeys => { context with publicKeys := Table.insert tag entry context.publicKeys }
  | .privateKeys => { context with privateKeys := Table.insert tag entry context.privateKeys }
  | .symmetricKeys => { context with symmetricKeys := Table.insert tag entry context.symmetricKeys }
  | .metas => { context with metas := Table.insert tag entry context.metas }
  | .documents => { context with documents := Table.insert tag entry context.documents }
  | .addresses => { context with addresses := Table.insert tag entry context.addresses }
  | .identifiers => { context with identifiers := Table.insert tag entry context.identifiers }
  | .encodings => { context with encodings := Table.insert tag entry context.encodings }
  | .files => { context with files := Table.insert tag entry context.files }

/-- The registries of a context as those of a host without agents of its own. -/
def roster (context : Context) : Roster .own :=
  ⟨context.isLoaded, context.registry, context.memories.length⟩

/-- Takes a step; a load and a mark tell whether they were the first. -/
def perform (context : Context) : Roster.Step .own → Option Bool × Context
  | .register concern tag entry => (none, context.register concern tag entry)
  | .addMemory => (none, context.addMemory.2)
  | .load options => (context.load options).map some id
  | .markLoaded => context.markLoaded.map some id

/-- The context after some steps. -/
def run (context : Context) (steps : List (Roster.Step .own)) : Context :=
  steps.foldl (fun context step => (context.perform step).2) context

theorem run_cons (context : Context) (step : Roster.Step .own)
    (steps : List (Roster.Step .own)) :
    context.run (step :: steps) = (context.perform step).2.run steps := rfl

theorem roster_register (context : Context) (concern : Concern) (tag : String)
    (entry : concern.Entry) :
    (context.register concern tag entry).roster = context.roster.register concern tag entry := by
  ext other
  · cases concern <;> rfl
  · cases concern <;> cases other <;> rfl
  · cases concern <;> rfl

/-- Among the agents of a context, what is put in is what the options install. -/
private theorem map_installed (options : LoadOptions) (number : Nat) (concern : Concern) :
    ((options.installed number concern).map fun entry =>
      (entry.1, Agents.own.builtIn concern entry.2)) = options.installed number concern :=
  List.map_id _

theorem roster_empty : empty.roster = Roster.empty :=
  Roster.ext rfl (funext fun concern => by cases concern <;> rfl) rfl

theorem roster_load (context : Context) (options : LoadOptions) :
    (context.load options).map id roster = context.roster.load options := by
  have hflag : context.roster.isLoaded = context.isLoaded := rfl
  rw [load, Roster.load, hflag]
  split_ifs
  · rfl
  · refine Prod.ext rfl (Roster.ext rfl (funext fun concern => ?_) ?_)
    · simp only [map_installed]
      cases concern <;> rfl
    · exact List.length_append

/-- **A context goes through a step as the registries of a host without agents of its own.** -/
theorem roster_perform (context : Context) (step : Roster.Step .own) :
    (context.perform step).map id roster = context.roster.perform step := by
  cases step with
  | register concern tag entry => exact Prod.ext rfl (roster_register context concern tag entry)
  | addMemory => exact Prod.ext rfl (Roster.ext rfl rfl List.length_append)
  | load options =>
    rw [Roster.perform, ← roster_load]
    rfl
  | markLoaded => rfl

theorem roster_run (context : Context) (steps : List (Roster.Step .own)) :
    (context.run steps).roster = context.roster.run steps := by
  induction steps generalizing context with
  | nil => rfl
  | cons step steps ih =>
    rw [run_cons, ih, Roster.run_cons, ← roster_perform]
    rfl

end Context

/-! ### Loading once -/

/-- **Loading happens at most once, and as a whole.** A host registers agents of any kinds, loads
with any options and marks, in any order. A load or a mark tells whether it was the first, and if it
was not, it changes nothing. If the first is a load, then right after it each tag that its options
install has the built-in agent, whatever the host had registered there, and each alias the agent of
its canonical tag; each other tag has the agent that the host registered last, or else that of the
fallback. If the first is a mark, each tag has the agent that the host registered last, forever. A
context is such a host. -/
theorem loading_is_once_and_whole (A : Agents) :
    (∀ (before : List (Roster.Step A)) (step : Roster.Step A), step.isLoading →
      ((Roster.empty.run before).perform step).1 = some !before.any Roster.Step.isLoading ∧
        (before.any Roster.Step.isLoading →
          ((Roster.empty.run before).perform step).2 = Roster.empty.run before)) ∧
    (∀ (before : List (Roster.Step A)) (options : Context.LoadOptions),
      before.any Roster.Step.isLoading = false →
      let number := (Roster.empty.run before).memories
      let registry := (Roster.empty.run (before ++ [.load options])).registry
      (∀ concern tag fallback entry, options.Installs number concern tag entry →
        (registry concern).resolve tag fallback = some (A.builtIn concern entry)) ∧
      (∀ name scheme fallback, options.InstallsAlias name scheme →
        (registry .metas).resolve name fallback = (registry .metas).resolve scheme.tag fallback) ∧
      ∀ concern tag fallback, (∀ entry, ¬options.Installs number concern tag entry) →
        (registry concern).resolve tag fallback =
          (Roster.lastRegistered concern tag before).or
            (Table.get? fallback (registry concern))) ∧
    (∀ (before later : List (Roster.Step A)), before.any Roster.Step.isLoading = false →
      ∀ concern tag,
        Table.get? tag ((Roster.empty.run (before ++ .markLoaded :: later)).registry concern) =
          Roster.lastRegistered concern tag (before ++ .markLoaded :: later)) ∧
    ∀ (steps : List (Roster.Step .own)) (step : Roster.Step .own),
      (Context.empty.run steps).roster = Roster.empty.run steps ∧
        ((Context.empty.run steps).perform step).1 =
          ((Roster.empty.run steps).perform step).1 := by
  refine ⟨fun before step hloading => ?_, fun before options hbefore => ?_,
    fun before later hbefore concern tag => Roster.get?_registry_run_markLoaded hbefore,
    fun steps step => ?_⟩
  · rw [Roster.perform_answer _ hloading, Roster.isLoaded_run_empty]
    refine ⟨rfl, fun hloaded => Roster.perform_of_isLoaded ?_ hloading⟩
    rw [Roster.isLoaded_run_empty, hloaded]
  · have hloaded : (Roster.empty.run before).isLoaded = false := by
      rw [Roster.isLoaded_run_empty, hbefore]
    simp only [Roster.run_load]
    refine ⟨fun concern tag fallback entry h => ?_, fun name scheme fallback h => ?_,
      fun concern tag fallback h => ?_⟩
    · exact Registry.resolve_of_get?_eq_some (Roster.get?_registry_load hloaded h)
    · rw [Registry.resolve, Registry.resolve, Roster.get?_registry_load_alias hloaded h]
    · rw [Registry.resolve, Roster.get?_registry_load_of_not_installs hloaded h,
        Roster.get?_registry_run_empty hbefore]
  · have hroster : (Context.empty.run steps).roster = Roster.empty.run steps := by
      rw [Context.roster_run, Context.roster_empty]
    rw [← hroster, ← Context.roster_perform]
    exact ⟨rfl, rfl⟩

/-- The agents of a host that brings some of its own, each with a name. -/
def Agents.named : Agents := ⟨fun concern => concern.Entry ⊕ String, fun _ => .inl⟩

/-- A host registers schemes of its own and a reader of files, and loads with the aliases in lower
case: the canonical tag and its alias have the built-in scheme, a tag of the host's its own scheme,
and marking comes too late. If it marks first, its scheme stays. -/
theorem loading_is_once_and_whole_named :
    let registered : List (Roster.Step .named) :=
      [.register .metas "2" (.inr "chain"), .register .metas "9" (.inr "old"),
        .register .files "*" (.inr "disk"), .register .metas "9" (.inr "new")]
    let options : Context.LoadOptions := ⟨true, false, true⟩
    let loaded : Roster .named := Roster.empty.run (registered ++ [.load options])
    let marked : Roster .named := Roster.empty.run (registered ++ [.markLoaded, .load options])
    ((Roster.empty.run registered).perform (.load options)).1 = some true ∧
      (loaded.perform .markLoaded).1 = some false ∧ (loaded.perform .markLoaded).2 = loaded ∧
      (loaded.registry .metas).resolve "2" "*" = some (.inl .bitcoin) ∧
      (loaded.registry .metas).resolve "btc" "*" = (loaded.registry .metas).resolve "2" "*" ∧
      (loaded.registry .metas).resolve "9" "*" = some (.inr "new") ∧
      (loaded.registry .files).resolve "any" "*" = some (.inl ()) ∧
      Table.get? "2" (marked.registry .metas) = some (.inr "chain") := by
  intro registered options loaded marked
  obtain ⟨honce, hload, hmark, -⟩ := loading_is_once_and_whole .named
  obtain ⟨hinstalled, halias, hkept⟩ := hload registered options rfl
  have hlate := honce (registered ++ [.load options]) .markLoaded rfl
  have hfiles : ∀ entry, ¬options.Installs 0 .files "any" entry := by
    intro entry h
    exact absurd (show "any" = Registry.wildcard from h) (by decide)
  have hmetas : ∀ entry, ¬options.Installs 0 .metas "9" entry := by
    rintro scheme (⟨hscheme, htag⟩ | ⟨-, hname⟩ | ⟨huppercase, -⟩)
    · exact (by decide : ∀ scheme ∈ Scheme.builtIn, "9" ≠ scheme.tag) scheme hscheme htag
    · simp [Scheme.lowercaseAliases] at hname
    · cases huppercase
  refine ⟨(honce registered (.load options) rfl).1, hlate.1, hlate.2 rfl, ?_, ?_, ?_, ?_, ?_⟩
  · exact hinstalled .metas "2" "*" .bitcoin (.inl ⟨by decide, rfl⟩)
  · exact halias "btc" .bitcoin "*" (.inl ⟨rfl, by decide⟩)
  · rw [hkept .metas "9" "*" hmetas]
    rfl
  · rw [hkept .files "any" "*" hfiles]
    rfl
  · exact hmark registered [.load options] rfl .metas "2"

end SelfCert
