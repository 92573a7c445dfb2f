import Mathlib.Logic.Relation
import ModuleSynthesis.Proofs.Provenance
import ModuleSynthesis.Proofs.World

/-!
# Moves of a world

Requests nest, generators do what they like with the memory, and between requests a session may do
more. Yet there are few things that happen to a world at once, and a session says which of them it
allows.

* `Scope`: what a session allows: whom its chain asks, which loaders it requests directly, and how
  registries are written besides.
* `Loader.Makes`: a loader puts a name on record and makes the unit.
* `World.Move`, `World.Moves`: what happens at once, and any number of such moves.
* `World.Moves.extends`: a chain never forgets or replaces a unit.
* `World.Moves.registryExtends`: neither does a registry, unless it is written to that effect.
-/

namespace ModuleSynthesis

variable {σ : Type}

/-- Whether an event is that a unit was generated. -/
def Event.isGenerated : Event → Bool
  | .generated _ _ => true
  | _ => false

/-! ## Moves -/

/-- What a session allows. -/
structure Scope (σ : Type) where
  /-- The resolvers that its chain may ask. -/
  asks : Resolver σ → Prop
  /-- The loaders that are requested directly. -/
  dispatches : Loader σ → Prop
  /-- How a registry is written other than by a loader. -/
  writes : RegistryId → Registry → Registry → Prop

/-- A loader puts the name of a request, which it considers, on record and makes the unit. -/
structure Loader.Makes (loader : Loader σ) (request : String) (world : World σ)
    (unit : SourceUnit) (after : World σ) : Prop where
  considered : loader.considers (Name.ofRequest request)
  assembled : unit =
    .assemble loader.style (Name.ofRequest request) loader.id unit.pattern unit.fragments
  recorded : ∃ outcome registry,
    (world.registries loader.registry).record (Name.ofRequest request)
      ⟨loader.id, unit.pattern, world.now⟩ = .ok (outcome, registry) ∧
    after = (world.setRegistry loader.registry registry).log (.generated loader.registry unit)

/-- A world whose chain keeps a unit for a request. -/
def World.keep (world : World σ) (request : String) (unit : SourceUnit) : World σ :=
  { world with chain := world.chain.keep (world.chain.pathOf request) unit }

/-- What happens to a world at once. A unit that the chain gets from a loader is kept as soon as it
is made. -/
inductive World.Move (scope : Scope σ) : World σ → World σ → Prop
  /-- A generator changes the memory. -/
  | remember (world : World σ) (change : σ → σ) :
    Move scope world { world with memory := change world.memory }
  /-- Something is noted, but not that a unit was generated. -/
  | note (world : World σ) (event : Event) (h : event.isGenerated = false) :
    Move scope world (world.log event)
  /-- A loader that was requested directly makes a unit. -/
  | make {world after : World σ} {loader : Loader σ} {request : String} {unit : SourceUnit}
    (direct : scope.dispatches loader) (made : loader.Makes request world unit after) :
    Move scope world after
  /-- A loader that the chain asked makes a unit, which the chain keeps. -/
  | load {world middle : World σ} {loader : Loader σ} {request : String} {unit : SourceUnit}
    (asked : scope.asks (.loader loader)) (made : loader.Makes request world unit middle) :
    Move scope world (middle.keep request unit)
  /-- The chain keeps a unit that it got from another resolver. -/
  | keep {world : World σ} {serve : String → Program σ Answer}
    (asked : scope.asks (.custom serve)) (request : String) (unit : SourceUnit) :
    Move scope world (world.keep request unit)
  /-- The chain gets one more resolver. -/
  | register (world : World σ) {resolver : Resolver σ} (asked : scope.asks resolver) :
    Move scope world (world.register resolver)
  /-- A registry is written other than by a loader. -/
  | write {world : World σ} {id : RegistryId} {registry : Registry}
    (written : scope.writes id (world.registries id) registry) :
    Move scope world (world.setRegistry id registry)

/-- Any number of moves. -/
def World.Moves (scope : Scope σ) : World σ → World σ → Prop :=
  Relation.ReflTransGen (World.Move scope)

/-- The chain of a world asks none but the resolvers of a scope. -/
def World.AsksOnly (world : World σ) (scope : Scope σ) : Prop :=
  ∀ resolver ∈ world.chain.resolvers, scope.asks resolver

variable {scope : Scope σ} {world middle after : World σ}

namespace World

/-- An invariant of every move is one of any number of moves. -/
theorem Moves.invariant {I : World σ → Prop}
    (hmove : ∀ world after, Move scope world after → I world → I after)
    (h : world.Moves scope after) (hworld : I world) : I after := by
  induction h with
  | refl => exact hworld
  | tail _ hm ih => exact hmove _ _ hm ih

end World

/-! ## A loader makes a unit -/

namespace Loader.Makes

variable {loader : Loader σ} {request : String} {unit : SourceUnit}

theorem name_eq (h : loader.Makes request world unit after) :
    unit.name = Name.ofRequest request := by
  rw [h.assembled]; rfl

theorem loader_eq (h : loader.Makes request world unit after) : unit.loader = loader.id := by
  rw [h.assembled]; rfl

theorem chain_eq (h : loader.Makes request world unit after) : after.chain = world.chain := by
  obtain ⟨_, _, _, rfl⟩ := h.recorded; rfl

theorem journal_eq (h : loader.Makes request world unit after) :
    after.journal = .generated loader.registry unit :: world.journal := by
  obtain ⟨_, _, _, rfl⟩ := h.recorded; rfl

theorem record_eq (h : loader.Makes request world unit after) :
    ∃ outcome, (world.registries loader.registry).record unit.name
      ⟨unit.loader, unit.pattern, world.now⟩ = .ok (outcome, after.registries loader.registry) := by
  obtain ⟨outcome, registry, hrecord, rfl⟩ := h.recorded
  exact ⟨outcome, by rw [h.name_eq, h.loader_eq, hrecord, World.log, World.registries_setRegistry,
    if_pos rfl]⟩

theorem registries_of_ne (h : loader.Makes request world unit after) {id : RegistryId}
    (hid : id ≠ loader.registry) : after.registries id = world.registries id := by
  obtain ⟨_, _, _, rfl⟩ := h.recorded
  rw [World.log, World.registries_setRegistry, if_neg hid]

end Loader.Makes

/-! ## What chains keep -/

/-- A chain makes request paths as another one does and has all units that this one keeps. -/
structure Chain.Extends (chain after : Chain σ) : Prop where
  extension : after.extension = chain.extension
  keeps : after.loaded?.isSome = chain.loaded?.isSome
  units : ∀ path unit, chain.unitAt? path = some unit → after.unitAt? path = some unit

namespace Chain.Extends

theorem refl (chain : Chain σ) : chain.Extends chain :=
  ⟨rfl, rfl, fun _ _ h => h⟩

theorem trans {first second third : Chain σ} (h : first.Extends second)
    (h' : second.Extends third) : first.Extends third :=
  ⟨h'.extension.trans h.extension, h'.keeps.trans h.keeps,
    fun path unit hu => h'.units path unit (h.units path unit hu)⟩

theorem keep (chain : Chain σ) (path : String) (unit : SourceUnit) :
    chain.Extends (chain.keep path unit) :=
  ⟨chain.keep_extension path unit, chain.loaded?_keep path unit,
    fun _ _ hu => by rw [chain.unitAt?_keep, hu]; rfl⟩

theorem register (chain : Chain σ) (resolver : Resolver σ) :
    chain.Extends (chain.register resolver) :=
  ⟨rfl, rfl, fun _ _ hu => hu⟩

/-- A request has the same path. -/
theorem pathOf_eq {chain after : Chain σ} (h : chain.Extends after) (request : String) :
    after.pathOf request = chain.pathOf request := by
  rw [Chain.pathOf, h.extension, Chain.pathOf]

end Chain.Extends

namespace World

theorem Move.extends (h : Move scope world after) : world.chain.Extends after.chain := by
  cases h with
  | remember | note | write => exact .refl _
  | make _ made => rw [made.chain_eq]; exact .refl _
  | load _ made => rw [← made.chain_eq]; exact .keep _ _ _
  | keep _ _ _ => exact .keep _ _ _
  | register => exact .register _ _

/-- A chain never forgets or replaces a unit. -/
theorem Moves.extends (h : world.Moves scope after) : world.chain.Extends after.chain := by
  induction h with
  | refl => exact .refl _
  | tail _ hm ih => exact ih.trans hm.extends

theorem Move.asksOnly (h : Move scope world after) (ha : world.AsksOnly scope) :
    after.AsksOnly scope := by
  cases h with
  | remember | note | write => exact ha
  | make _ made => rw [AsksOnly, made.chain_eq]; exact ha
  | load _ made =>
    rw [AsksOnly, World.keep, Chain.keep_resolvers, made.chain_eq]; exact ha
  | keep => rw [AsksOnly, World.keep, Chain.keep_resolvers]; exact ha
  | register asked =>
    intro resolver hr
    rcases List.mem_append.mp hr with hr | hr
    · exact ha resolver hr
    · rw [List.mem_singleton.mp hr]; exact asked

theorem Moves.asksOnly (h : world.Moves scope after) (ha : world.AsksOnly scope) :
    after.AsksOnly scope :=
  h.invariant (fun _ _ => Move.asksOnly) ha

/-! ## What registries hold -/

/-- A registry is changed by records alone where it is written other than by a loader. -/
theorem Move.registryExtends {id : RegistryId}
    (hwrites : ∀ before registry, scope.writes id before registry → before.Extends registry)
    (h : Move scope world after) : (world.registries id).Extends (after.registries id) := by
  have hmade : ∀ {loader : Loader σ} {request unit} {before made : World σ},
      loader.Makes request before unit made →
        (before.registries id).Extends (made.registries id) := by
    intro loader request unit before made h
    by_cases hid : id = loader.registry
    · subst hid
      obtain ⟨outcome, hrecord⟩ := h.record_eq
      exact .record hrecord
    · rw [h.registries_of_ne hid]; exact .refl _
  cases h with
  | remember | note | keep | register => exact .refl _
  | make _ made => exact hmade made
  | load _ made =>
    have := hmade made
    exact this
  | @write written registry hwritten =>
    rw [registries_setRegistry]
    split
    · next hid => subst hid; exact hwrites _ _ hwritten
    · exact .refl _

/-- A registry that nobody else writes never forgets or replaces an entry. -/
theorem Moves.registryExtends {id : RegistryId}
    (hwrites : ∀ before registry, scope.writes id before registry → before.Extends registry)
    (h : world.Moves scope after) : (world.registries id).Extends (after.registries id) := by
  induction h with
  | refl => exact .refl _
  | tail _ hm ih => exact ih.trans (hm.registryExtends hwrites)

end World

end ModuleSynthesis
