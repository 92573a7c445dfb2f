import ModuleSynthesis.Proofs.History

/-!
# Loaders that share a registry

Requests to loaders that write one registry, direct ones and those of a chain, nested as their
generators like, and what the registry makes of them under either policy.

* `Scope.sharing`, `Scope.recording`: sessions whose loaders share a registry, which is left to the
  loaders or written by records of its own as well.
* `World.HasGiven`: the units that are ever given out or kept in a session.
* `World.Moves.dispatch_nested`, `World.Moves.firstAnswer_nested`: those that generators get count,
  as they make their requests in worlds that the session reaches.
* `World.HasGiven.sole_producer`: under the policy of refusal all units of a name that are ever
  given out or kept are made by one loader, the one on record.
* `World.Moves.registryIsHistory`: where first writers win the registry is the history of the units
  that were made, and no request is refused.
-/

namespace ModuleSynthesis

variable {σ : Type} {id : RegistryId} {scope : Scope σ} {start world after final : World σ}
  {unit : SourceUnit}
  {loader : Loader σ} {request : String}

/-- A scope in which all loaders write one registry, which they alone write. -/
def Scope.sharing (id : RegistryId) : Scope σ where
  asks resolver := ∃ loader, resolver = .loader loader ∧ loader.registry = id
  dispatches loader := loader.registry = id
  writes _ _ _ := False

/-- A scope in which all loaders write one registry, and registries take other records too. -/
def Scope.recording (id : RegistryId) : Scope σ :=
  { sharing id with
    writes := fun _ before after =>
      ∃ name origin outcome, before.record name origin = .ok (outcome, after) }

theorem Action.record_within (written : RegistryId) (name loader pattern : String) :
    (record written name loader pattern : Action σ).Within (.recording id) :=
  fun _ _ _ _ hrecord => ⟨_, _, _, hrecord⟩

/-! ## One producer for each name -/

/-- A unit has been given out, or was kept, in a world between two others. -/
inductive World.HasGiven (scope : Scope σ) (start world : World σ) (unit : SourceUnit) : Prop
  /-- It answered a request to a loader. -/
  | dispatched {before after : World σ} {loader : Loader σ} {level : Nat} {request : String}
    (earlier : start.Moves scope before) (direct : scope.dispatches loader)
    (answered : before.dispatch level loader request = some (.ok (some unit), after))
    (later : after.Moves scope world)
  /-- It answered a request to the chain. -/
  | resolved {before after : World σ} {level : Nat} {request : String}
    (earlier : start.Moves scope before)
    (answered : resolve level request before = some (.ok (some unit), after))
    (later : after.Moves scope world)
  /-- The chain kept it. -/
  | kept {between : World σ} {path : String} (earlier : start.Moves scope between)
    (found : between.chain.unitAt? path = some unit) (later : between.Moves scope world)

open Classical in
/-- Requests to the chain that are answered in worlds that a session reaches, and nowhere else. -/
noncomputable def World.nested (scope : Scope σ) (start : World σ) (level : Nat) : Requests σ :=
  fun request world => if start.Moves scope world then resolve level request world else none

/-- A unit that such a request gives out counts in all worlds that come later. -/
theorem World.HasGiven.of_nested {level : Nat}
    (h : nested scope start level request world = some (.ok (some unit), after))
    (later : after.Moves scope final) : start.HasGiven scope final unit := by
  rw [nested] at h
  split at h
  · next earlier => exact .resolved earlier h later
  · cases h

namespace World.Moves

variable (h : start.Moves scope world)

include h

theorem nested_eq (level : Nat) (request : String) :
    nested scope start level request world = resolve level request world :=
  if_pos h

variable (ha : start.AsksOnly scope) (level : Nat)

include ha

/-- The generators of a loader make such requests alone. -/
theorem dispatch_nested (loader : Loader σ) (request : String) :
    loader.dispatch level (nested scope start level) request world =
      world.dispatch level loader request := by
  rw [dispatch]
  exact (Loader.dispatch_congr (resolve_moves level) (h.asksOnly ha)
    (fun request _ moves => (nested_eq (h.trans moves) level request).symm) loader).symm

/-- So do those that the resolvers of a chain run. -/
theorem firstAnswer_nested (resolvers : List (Resolver σ)) (request : String) :
    Resolver.firstAnswer level (nested scope start level) request resolvers world =
      Resolver.firstAnswer level (resolve level) request resolvers world :=
  (Resolver.firstAnswer_congr (resolve_moves level) (h.asksOnly ha)
    (fun request _ moves => (nested_eq (h.trans moves) level request).symm) resolvers).symm

end World.Moves

/-- A registry refuses second loaders, and reports the loader of every unit that the chain keeps. -/
structure World.KeepsProducers (world : World σ) (id : RegistryId) : Prop where
  policy : (world.registries id).policy = .rejectDuplicates
  kept : ∀ path unit, world.chain.unitAt? path = some unit →
    (world.registries id).generatedBy? unit.name = some unit.loader

theorem Scope.recording_extends (written : RegistryId) (before registry : Registry)
    (h : (recording (σ := σ) id).writes written before registry) : before.Extends registry := by
  obtain ⟨_, _, _, hrecord⟩ := h
  exact .record hrecord

/-- A loader that makes a unit under the policy of refusal is the one on record. -/
theorem Loader.Makes.generatedBy? (h : loader.Makes request world unit after)
    (hpolicy : (world.registries loader.registry).policy = .rejectDuplicates) :
    (after.registries loader.registry).generatedBy? unit.name = some unit.loader := by
  obtain ⟨_, hrecord⟩ := h.record_eq
  exact Registry.loader_of_record hpolicy hrecord

namespace World.KeepsProducers

theorem move (hm : World.Move (.recording id) world after) (h : world.KeepsProducers id) :
    after.KeepsProducers id := by
  have hextends : (world.registries id).Extends (after.registries id) :=
    hm.registryExtends (Scope.recording_extends id)
  refine ⟨hextends.policy.trans h.policy, fun path unit hkept => ?_⟩
  cases hm with
  | remember | note | register => exact h.kept path unit hkept
  | make _ made => exact hextends.generatedBy? (h.kept path unit (made.chain_eq ▸ hkept))
  | write => exact hextends.generatedBy? (h.kept path unit hkept)
  | keep asked => obtain ⟨loader, hl, -⟩ := asked; cases hl
  | load asked made =>
    obtain ⟨_, hl, rfl⟩ := asked
    cases hl
    rw [World.keep, Chain.unitAt?_keep, made.chain_eq] at hkept
    rcases Option.or_eq_some_iff.mp hkept with hold | ⟨-, hnew⟩
    · exact hextends.generatedBy? (h.kept path unit hold)
    · cases (Option.ite_none_right_eq_some.mp hnew).2
      exact made.generatedBy? h.policy

theorem moves (hm : world.Moves (.recording id) after) (h : world.KeepsProducers id) :
    after.KeepsProducers id :=
  hm.invariant (fun _ _ => move) h

theorem of_serves (hs : loader.Serves (.recording loader.registry) request world
      (.ok (some unit)) after) (h : world.KeepsProducers loader.registry) :
    (after.registries loader.registry).generatedBy? unit.name = some unit.loader := by
  cases hs with
  | made hm made => exact made.generatedBy? (h.moves hm).policy

theorem of_resolves (hr : world.Resolves (.recording id) request (.ok (some unit)) after)
    (h : world.KeepsProducers id) :
    (after.registries id).generatedBy? unit.name = some unit.loader := by
  cases hr with
  | reused found => exact h.kept _ unit found
  | loaded _ asked hm made =>
    obtain ⟨_, hl, rfl⟩ := asked
    cases hl
    exact made.generatedBy? (h.moves hm).policy
  | custom asked => obtain ⟨_, hl, -⟩ := asked; cases hl

end World.KeepsProducers

/-- A chain that keeps no units yet. -/
theorem World.keepsProducers_of_unitAt?_eq_none
    (hpolicy : (world.registries id).policy = .rejectDuplicates)
    (hempty : ∀ path, world.chain.unitAt? path = none) : world.KeepsProducers id :=
  ⟨hpolicy, fun path _ hkept => by rw [hempty path] at hkept; cases hkept⟩

/-- The registry reports the loader of every unit that was given out or kept so far. -/
theorem World.HasGiven.generatedBy? (hstart : start.KeepsProducers id)
    (ha : start.AsksOnly (.recording id)) (h : start.HasGiven (.recording id) world unit) :
    (world.registries id).generatedBy? unit.name = some unit.loader := by
  obtain ⟨between, hreported, later⟩ : ∃ between : World σ,
      (between.registries id).generatedBy? unit.name = some unit.loader ∧
        between.Moves (.recording id) world := by
    cases h with
    | dispatched earlier direct answered later =>
      have hserves := dispatch_serves (earlier.asksOnly ha) answered
      cases direct
      exact ⟨_, (hstart.moves earlier).of_serves hserves, later⟩
    | resolved earlier answered later =>
      have hresolves := resolve_resolves _ (earlier.asksOnly ha) answered
      exact ⟨_, (hstart.moves earlier).of_resolves hresolves, later⟩
    | kept earlier found later => exact ⟨_, (hstart.moves earlier).kept _ unit found, later⟩
  exact (later.registryExtends (Scope.recording_extends id)).generatedBy? hreported

/-- Where all loaders write one registry that refuses second loaders, the registry reports the
loader of every unit that was given out or kept so far, so that all those of one name have the same
loader. The chain keeps no units at first. -/
theorem World.HasGiven.sole_producer (hpolicy : (start.registries id).policy = .rejectDuplicates)
    (hempty : ∀ path, start.chain.unitAt? path = none) (ha : start.AsksOnly (.recording id))
    (h : start.HasGiven (.recording id) world unit) :
    (world.registries id).generatedBy? unit.name = some unit.loader ∧
      ∀ other, start.HasGiven (.recording id) world other → other.name = unit.name →
        other.loader = unit.loader := by
  have hstart : start.KeepsProducers id := keepsProducers_of_unitAt?_eq_none hpolicy hempty
  have hreported := h.generatedBy? hstart ha
  refine ⟨hreported, fun other hother hname => ?_⟩
  have hsame := hother.generatedBy? hstart ha
  rw [hname, hreported] at hsame
  exact (Option.some.inj hsame).symm

/-- A loader that generates an empty module for every name. -/
def stubs (id : String) (registry : RegistryId) : Loader Unit where
  id := id
  rules := [⟨.everyName, fun _ => .done ⟨[], .done⟩⟩]
  allowList? := none
  fragmentPolicy := .discard
  style := {}
  registry := registry

/-- A loader of a page that includes its base. -/
def pages (registry : RegistryId) (exit : Exit) : Loader Unit where
  id := "pages"
  rules := [⟨⟨"App::Page", [.literal "App", .literal "Page"], by decide, by decide⟩, fun _ =>
    .resolve "App::Base" fun
      | .ok (some unit) => .done ⟨[unit.source], exit⟩
      | .ok none => .done ⟨[], exit⟩
      | .error error => .done ⟨[], .fail (.dispatch error)⟩⟩]
  allowList? := none
  fragmentPolicy := .discard
  style := {}
  registry := registry

/-- The base, generated for a page. -/
def base : SourceUnit :=
  .assemble {} "App::Base" "stubs" "**" []

/-- A world whose registry refuses second loaders. -/
def guarded : World Unit where
  memory := ()
  registries := fun _ => { policy := .rejectDuplicates }
  chain := (Chain.caching.register (.loader (pages (.own 0) .done))).register
    (.loader (stubs "stubs" (.own 0)))
  now := ""

/-- A record of its own, a page with its base, and a try of another loader to make the base. -/
def contest : List (Action Unit) :=
  [.record (.own 0) "App::Menu" "shop" "*", .resolve "App::Page",
    .dispatch (stubs "rival" (.own 0)) "App::Base"]

theorem guarded_asksOnly : guarded.AsksOnly (.recording (.own 0)) := by
  intro resolver hr
  rcases List.mem_cons.mp hr with rfl | hr
  · exact ⟨_, rfl, rfl⟩
  · rw [List.mem_singleton.mp hr]
    exact ⟨_, rfl, rfl⟩

theorem guarded_base_sole_producer :
    ∃ replies world, World.performAll 3 contest guarded = some (replies, world) ∧
      (guarded.registries (.own 0)).policy = .rejectDuplicates ∧
      (∀ path, guarded.chain.unitAt? path = none) ∧
      guarded.AsksOnly (.recording (.own 0)) ∧
      guarded.HasGiven (.recording (.own 0)) world base ∧
      (world.registries (.own 0)).generatedBy? "App::Base" = some "stubs" ∧
      ∀ other, guarded.HasGiven (.recording (.own 0)) world other → other.name = "App::Base" →
        other.loader = "stubs" := by
  have hkept : (World.performAll 3 contest guarded).map (fun (_, world) =>
      world.chain.unitAt? "App/Base.pm") = some (some base) := by decide +kernel
  obtain ⟨⟨replies, world⟩, hrun, hfound⟩ := Option.map_eq_some_iff.mp hkept
  have hwithin : ∀ action ∈ contest, action.Within (.recording (.own 0)) := by
    simp only [contest, List.forall_mem_cons]
    exact ⟨Action.record_within _ _ _ _, trivial, rfl, fun _ hm => by cases hm⟩
  have hempty : ∀ path, guarded.chain.unitAt? path = none :=
    fun _ => Std.TreeMap.getElem?_emptyc
  have hmoves : guarded.Moves (.recording (.own 0)) world :=
    World.performAll_moves hwithin guarded_asksOnly hrun
  have hgiven : guarded.HasGiven (.recording (.own 0)) world base := .kept hmoves hfound .refl
  exact ⟨replies, world, hrun, rfl, hempty, guarded_asksOnly, hgiven,
    World.HasGiven.sole_producer rfl hempty guarded_asksOnly hgiven⟩

/-! ## History -/

theorem Loader.Makes.head?_journal (h : loader.Makes request world unit after) :
    after.journal.head? = some (.generated loader.registry unit) := by
  rw [h.journal_eq]; rfl

/-- A registry that refuses no record does not come to do so. -/
theorem World.Moves.policy_eq (h : world.Moves (.sharing id) after) :
    (after.registries id).policy = (world.registries id).policy :=
  (h.registryExtends fun _ _ => False.elim).policy

/-- A loader is not refused its record where first writers win. -/
theorem Loader.Serves.ne_registry {answer : Answer} {error : RegistryError}
    (hs : loader.Serves (.sharing loader.registry) request world answer after)
    (hpolicy : (world.registries loader.registry).policy = .firstWriterWins) :
    answer ≠ .error (.registry error) := by
  cases hs with
  | refused moves refused =>
    have hrejects := Registry.policy_of_record_error refused
    rw [moves.policy_eq, hpolicy] at hrejects
    cases hrejects
  | made | failed | declined => exact nofun

/-- Neither are the loaders of a chain. -/
theorem World.Resolves.ne_registry {answer : Answer} {error : RegistryError}
    (hr : world.Resolves (.sharing id) request answer after)
    (hpolicy : (world.registries id).policy = .firstWriterWins) :
    answer ≠ .error (.registry error) := by
  cases hr with
  | failed asked moves serves =>
    obtain ⟨_, hl, rfl⟩ := asked
    cases hl
    exact serves.ne_registry (moves.policy_eq.trans hpolicy)
  | reused | loaded | unhandled => exact nofun
  | custom asked => obtain ⟨_, hl, -⟩ := asked; cases hl

/-- A registry is the history of the units that were made for it: a name is on record exactly if a
unit of the name was generated, and the entry is that of the first one. No request is refused, and
a unit that a loader returns is the latest one that was generated. -/
structure World.RegistryIsHistory (world : World σ) (id : RegistryId) : Prop where
  wasGenerated_iff : ∀ name, (world.registries id).wasGenerated name ↔
    ∃ unit, .generated id unit ∈ world.journal ∧ unit.name = name
  recordFor?_eq : ∀ name,
    ((world.registries id).recordFor? name).map (fun found => (found.loader, found.pattern)) =
      (world.firstGenerated? id name).map fun unit => (unit.loader, unit.pattern)
  dispatch : ∀ level (loader : Loader σ) request answer after, loader.registry = id →
    world.dispatch level loader request = some (answer, after) →
      (∀ error, answer ≠ .error (.registry error)) ∧
      ∀ unit, answer = .ok (some unit) → after.journal.head? = some (.generated id unit)
  resolve : ∀ level request answer after, resolve level request world = some (answer, after) →
    ∀ error, answer ≠ .error (.registry error)

/-- In a session that starts with nothing on record, whose loaders all write one registry under the
policy that first writers win, and that registry is written by nobody else, the registry is the
history of the units that were made, however requests nest and whatever comes of them. -/
theorem World.Moves.registryIsHistory (hregistry : (start.registries id).isEmpty)
    (hpolicy : (start.registries id).policy = .firstWriterWins) (hjournal : start.journal = [])
    (ha : start.AsksOnly (.sharing id)) (h : start.Moves (.sharing id) world) :
    world.RegistryIsHistory id := by
  have hreaches : start.Reaches world := h.reaches fun _ _ _ => False.elim
  have hfirst : world.RecordsFirst id :=
    hreaches.invariant (I := fun world => world.RecordsFirst id)
      (fun _ _ hs => RecordsFirst.step hs) (recordsFirst_of_isEmpty hregistry hjournal)
  have hwins : (world.registries id).policy = .firstWriterWins := h.policy_eq.trans hpolicy
  have hasks : world.AsksOnly (.sharing id) := h.asksOnly ha
  constructor
  case wasGenerated_iff =>
    intro name
    have hsame := congrArg Option.isSome (hfirst name)
    rw [Option.isSome_map, Option.isSome_map] at hsame
    rw [Registry.wasGenerated, Std.TreeMap.contains_eq_isSome_getElem?, hsame,
      firstGenerated?_isSome_iff]
  case recordFor?_eq =>
    intro name
    rw [Registry.recordFor?]
    exact hfirst name
  case dispatch =>
    rintro level loader request answer after rfl hdispatch
    have hserves := dispatch_serves hasks hdispatch
    refine ⟨fun _ => hserves.ne_registry hwins, ?_⟩
    rintro unit rfl
    cases hserves with
    | made _ made => exact made.head?_journal
  case resolve =>
    intro level request answer after hresolve error
    exact (resolve_resolves level hasks hresolve).ne_registry hwins

/-- A world with nothing on record. -/
def unguarded : World Unit where
  memory := ()
  chain := Chain.register {} (.loader (stubs "stubs" .shared))
  now := ""

/-- A page that fails once its base is made, and another loader that makes the base again. -/
def failure : List (Action Unit) :=
  [.dispatch (pages .shared (.fail (.message "no page"))) "App::Page",
    .dispatch (stubs "late" .shared) "App::Base"]

theorem unguarded_asksOnly : unguarded.AsksOnly (.sharing .shared) := fun _ hr =>
  ⟨_, List.mem_singleton.mp hr, rfl⟩

theorem unguarded_registryIsHistory :
    ∃ replies world, World.performAll 2 failure unguarded = some (replies, world) ∧
      (unguarded.registries .shared).isEmpty ∧
      (unguarded.registries .shared).policy = .firstWriterWins ∧ unguarded.journal = [] ∧
      unguarded.AsksOnly (.sharing .shared) ∧ unguarded.Moves (.sharing .shared) world ∧
      world.RegistryIsHistory .shared ∧
      (world.registries .shared).generatedBy? "App::Base" = some "stubs" ∧
      (world.registries .shared).wasGenerated "App::Page" = false := by
  have hrecords : (World.performAll 2 failure unguarded).map (fun (_, world) =>
      ((world.registries .shared).generatedBy? "App::Base",
        (world.registries .shared).wasGenerated "App::Page")) = some (some "stubs", false) := by
    decide +kernel
  obtain ⟨⟨replies, world⟩, hrun, hrecorded⟩ := Option.map_eq_some_iff.mp hrecords
  simp only [Prod.mk.injEq] at hrecorded
  have hwithin : ∀ action ∈ failure, action.Within (.sharing .shared) := by
    simp only [failure, List.forall_mem_cons]
    exact ⟨rfl, rfl, fun _ hm => by cases hm⟩
  have hmoves : unguarded.Moves (.sharing .shared) world :=
    World.performAll_moves hwithin unguarded_asksOnly hrun
  exact ⟨replies, world, hrun, rfl, rfl, rfl, unguarded_asksOnly, hmoves,
    World.Moves.registryIsHistory rfl rfl rfl unguarded_asksOnly hmoves, hrecorded⟩

end ModuleSynthesis
