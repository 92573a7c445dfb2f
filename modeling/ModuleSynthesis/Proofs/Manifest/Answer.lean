import ModuleSynthesis.Proofs.Manifest.Compiled
import ModuleSynthesis.Proofs.Name
import ModuleSynthesis.Proofs.Provenance
import ModuleSynthesis.Proofs.World

/-!
# Requests to an installed manifest

* `CompiledLoader.dispatch_toLoader`: a loader of a manifest gives its answer, which is put on record
  before if it is a unit. Apart from that, something is noted and no more.
* `World.AgreesWith`: what a world has on record and what it keeps agree with what loaders answer.
* `World.AgreesWith.resolve`: such a world answers a request as the loaders do, and goes on to
  agree with them.
* `World.performAll_of_resolve`: from one request to a session of requests.
* `Manifest.performAll_resolve`: a freshly installed manifest answers every request of a session
  by its name alone.
-/

namespace ModuleSynthesis

variable {σ : Type}

namespace CompiledLoader

/-! ## One loader -/

/-- An answer of a loader in a world: a unit is put on record first. -/
def settle (loader : CompiledLoader) (registry : RegistryId) (world : World σ) :
    Answer → Answer × World σ
  | .ok (some unit) =>
    (loader.toLoader registry).finish unit.name unit.pattern unit.fragments world
  | answer => (answer, world)

/-- A unit that a loader answers with is assembled of its fragments. -/
theorem eq_assemble_of_conclude {loader : CompiledLoader} {name : String}
    {rules : List (CompiledRule × List String)} {carried : List String} {unit : SourceUnit}
    (h : loader.conclude name rules carried = .ok (some unit)) :
    unit = .assemble loader.style name loader.id unit.pattern unit.fragments := by
  induction rules generalizing carried with
  | nil => cases h
  | cons first rules ih =>
    obtain ⟨rule, captures⟩ := first
    rw [conclude] at h
    split at h
    · cases h; rfl
    · cases h; rfl
    · exact ih h
    · cases h

theorem eq_assemble_of_answer {loader : CompiledLoader} {name : String} {unit : SourceUnit}
    (h : loader.answer name = .ok (some unit)) :
    unit = .assemble loader.style name loader.id unit.pattern unit.fragments := by
  rw [answer] at h
  split at h
  · exact eq_assemble_of_conclude h
  · cases h

section

variable {registry : RegistryId} {name pattern : String} {world : World σ}
  (loader : CompiledLoader)

/-- A unit whose record is refused is not given out. -/
theorem settle_of_refused {error : RegistryError}
    (h : (world.registries registry).record name ⟨loader.id, pattern, world.now⟩ = .error error)
    (fragments : List String) :
    loader.settle registry world
        (.ok (some (.assemble loader.style name loader.id pattern fragments))) =
      (.error (.registry error), world) := by
  simp only [settle, SourceUnit.assemble, Loader.finish, toLoader_registry, toLoader_id, h]

/-- A unit whose record is taken is given out. -/
theorem settle_of_recorded {outcome : RecordOutcome} {written : Registry}
    (h : (world.registries registry).record name ⟨loader.id, pattern, world.now⟩ =
      .ok (outcome, written)) (fragments : List String) :
    loader.settle registry world
        (.ok (some (.assemble loader.style name loader.id pattern fragments))) =
      (.ok (some (.assemble loader.style name loader.id pattern fragments)),
        (world.setRegistry registry written).log (.generated registry
          (.assemble loader.style name loader.id pattern fragments))) := by
  simp only [settle, SourceUnit.assemble, Loader.finish, toLoader_registry, toLoader_id,
    toLoader_style, h]

end

/-- Rules of a manifest do to a world what their answer says, apart from the journal. -/
theorem tryRules_toLoader (loader : CompiledLoader) (registry : RegistryId) (level : Nat)
    (requests : Requests σ) (name : String) (rules : List (CompiledRule × List String))
    (carried : List String) (world : World σ) :
    ∃ journal, (loader.toLoader registry).tryRules level requests name
        (rules.map fun (rule, captures) => (rule.toRule, captures)) carried world =
      some (loader.settle registry { world with journal }
        (loader.conclude name rules carried)) := by
  induction rules generalizing carried world with
  | nil => exact ⟨_, rfl⟩
  | cons first rules ih =>
    obtain ⟨rule, captures⟩ := first
    rw [List.map_cons, Loader.tryRules, conclude]
    dsimp only [CompiledRule.toRule, Program.run, Context.emitAll]
    cases (rule.outcome ⟨name, captures, carried⟩).exit with
    | done => exact ⟨_, rfl⟩
    | stop => exact ⟨_, rfl⟩
    | next => exact ih _ _
    | fail cause => exact ⟨_, rfl⟩

theorem dispatch_toLoader (loader : CompiledLoader) (registry : RegistryId) (level : Nat)
    (requests : Requests σ) (request : String) (world : World σ) :
    ∃ journal, (loader.toLoader registry).dispatch level requests request world =
      some (loader.settle registry { world with journal }
        (loader.answer (Name.ofRequest request))) := by
  rw [Loader.dispatch, answer, toLoader_considers]
  split
  · rw [toLoader, matching_toRule]
    exact loader.tryRules_toLoader registry level requests _ _ _ world
  · exact ⟨_, rfl⟩

end CompiledLoader

/-! ## Worlds that agree with loaders -/

/-- A unit that is found for a request after one more was kept was there before, or it is the one
that was kept and the requests are for one name. -/
theorem Chain.unitAt?_keep_pathOf {chain : Chain σ} {request other : String}
    {unit found : SourceUnit}
    (h : (chain.keep (chain.pathOf request) unit).unitAt?
      ((chain.keep (chain.pathOf request) unit).pathOf other) = some found) :
    chain.unitAt? (chain.pathOf other) = some found ∨
      (Name.ofRequest other = Name.ofRequest request ∧ unit = found) := by
  have hpath : (chain.keep (chain.pathOf request) unit).pathOf other = chain.pathOf other := by
    rw [pathOf, keep_extension]; rfl
  rw [hpath, unitAt?_keep] at h
  rcases Option.or_eq_some_iff.mp h with hold | ⟨-, hnew⟩
  · exact .inl hold
  · obtain ⟨⟨hsame, -⟩, hunit⟩ := Option.ite_none_right_eq_some.mp hnew
    exact .inr ⟨(Name.toPath_injective hsame).symm, Option.some.inj hunit⟩

/-- The resolvers of a world are loaders that write one registry, and whatever is on record there
or kept in the chain is what these loaders answer. -/
structure World.AgreesWith (world : World σ) (registry : RegistryId)
    (loaders : List CompiledLoader) : Prop where
  resolvers : world.chain.resolvers = loaders.map fun loader => .loader (loader.toLoader registry)
  recorded : ∀ name record, (world.registries registry).entries[name]? = some record →
    ∃ unit, CompiledLoader.firstAnswer loaders name = .ok (some unit) ∧ unit.loader = record.loader
  kept : ∀ request unit, world.chain.unitAt? (world.chain.pathOf request) = some unit →
    CompiledLoader.firstAnswer loaders (Name.ofRequest request) = .ok (some unit)

/-- If requests are answered one by one in worlds with an invariant, which may mention the names that
were asked for, then so are requests one after another. -/
theorem World.performAll_of_resolve {I : List String → World σ → Prop} {answer : String → Answer}
    {level : Nat} (hresolve : ∀ asked world request, I asked world → ∃ after,
      World.resolve level request world = some (answer request, after) ∧
        I (Name.ofRequest request :: asked) after)
    (requests asked : List String) {world : World σ} (h : I asked world) :
    ∃ after, World.performAll level (requests.map .resolve) world =
        some (requests.map fun request => .answered (answer request), after) ∧
      I ((requests.map Name.ofRequest).reverse ++ asked) after := by
  induction requests generalizing asked world with
  | nil => exact ⟨world, rfl, h⟩
  | cons request requests ih =>
    obtain ⟨middle, hfirst, hmiddle⟩ := hresolve asked world request h
    obtain ⟨after, hrest, hafter⟩ := ih _ hmiddle
    refine ⟨after, ?_, ?_⟩
    · rw [List.map_cons, World.performAll, World.perform, hfirst]
      simp only [Option.map_some, hrest, List.map_cons]
    · rw [List.map_cons, List.reverse_cons, List.append_assoc]
      exact hafter

namespace World.AgreesWith

variable {world : World σ} {registry : RegistryId} {loaders : List CompiledLoader}

theorem journal (h : world.AgreesWith registry loaders) (journal : List Event) :
    { world with journal }.AgreesWith registry loaders :=
  ⟨h.resolvers, h.recorded, h.kept⟩

/-- The loader that decides a name is not refused its record. -/
theorem finish (h : world.AgreesWith registry loaders) {loader : CompiledLoader} {name : String}
    {unit : SourceUnit} (hfirst : CompiledLoader.firstAnswer loaders name = .ok (some unit))
    (hunit : unit = .assemble loader.style name loader.id unit.pattern unit.fragments) :
    ∃ after, loader.settle registry world (.ok (some unit)) = (.ok (some unit), after) ∧
      after.AgreesWith registry loaders ∧ after.chain = world.chain := by
  have hloader : unit.loader = loader.id := by rw [hunit]; rfl
  have hown : ∀ existing, (world.registries registry).entries[name]? = some existing →
      existing.loader = loader.id := fun existing he => by
    obtain ⟨other, ho, hl⟩ := h.recorded name existing he
    rw [hfirst] at ho
    cases ho
    rw [← hl, hloader]
  have hrecord : ∃ outcome written, (world.registries registry).record name
      ⟨loader.id, unit.pattern, world.now⟩ = .ok (outcome, written) :=
    Registry.record_of_loader_eq hown
  obtain ⟨outcome, written, hrecord⟩ := hrecord
  refine ⟨(world.setRegistry registry written).log (.generated registry unit), ?_,
    ⟨h.resolvers, fun other record he => ?_, h.kept⟩, rfl⟩
  · have hsettle := loader.settle_of_recorded hrecord unit.fragments
    rw [← hunit] at hsettle
    exact hsettle
  · have he : written.entries[other]? = some record := by
      simpa [World.log, World.registries_setRegistry] using he
    rw [Registry.entry_of_record hrecord] at he
    by_cases ho : name = other
    · rw [if_pos ho] at he
      refine ⟨unit, ho ▸ hfirst, ?_⟩
      cases hprior : (world.registries registry).entries[name]? with
      | none => rw [hprior] at he; cases he; exact hloader
      | some prior =>
        rw [hprior] at he
        cases he
        exact hloader.trans (hown prior hprior).symm
    · rw [if_neg ho] at he
      exact h.recorded other record he

/-! ## Requests -/

/-- Resolvers that are asked as the rest of a list answer as the whole list does. -/
theorem firstAnswer (h : world.AgreesWith registry loaders) (level : Nat) (requests : Requests σ)
    (request : String) (asked : List CompiledLoader)
    (hasked : CompiledLoader.firstAnswer asked (Name.ofRequest request) =
      CompiledLoader.firstAnswer loaders (Name.ofRequest request)) :
    ∃ after, Resolver.firstAnswer level requests request
        (asked.map fun loader => .loader (loader.toLoader registry)) world =
      some (CompiledLoader.firstAnswer loaders (Name.ofRequest request), after) ∧
      after.AgreesWith registry loaders ∧ after.chain = world.chain := by
  induction asked generalizing world with
  | nil => exact ⟨world, by rw [← hasked]; rfl, h, rfl⟩
  | cons loader asked ih =>
    obtain ⟨journal, hd⟩ := loader.dispatch_toLoader registry level requests request world
    rw [List.map_cons, Resolver.firstAnswer, Resolver.answer, hd]
    rw [CompiledLoader.firstAnswer] at hasked
    cases ha : loader.answer (Name.ofRequest request) with
    | error error =>
      rw [ha] at hasked
      exact ⟨_, by rw [← hasked]; rfl, h.journal journal, rfl⟩
    | ok unit? =>
      cases unit? with
      | none =>
        rw [ha] at hasked
        exact ih (h.journal journal) hasked
      | some unit =>
        rw [ha] at hasked
        obtain ⟨after, hf, hafter, hchain⟩ := (h.journal journal).finish hasked.symm
          (CompiledLoader.eq_assemble_of_answer ha)
        refine ⟨after, ?_, hafter, hchain⟩
        rw [hf, ← hasked]

theorem keep (h : world.AgreesWith registry loaders) {request : String} {unit : SourceUnit}
    (hunit : CompiledLoader.firstAnswer loaders (Name.ofRequest request) = .ok (some unit)) :
    { world with chain := world.chain.keep (world.chain.pathOf request) unit }.AgreesWith
      registry loaders := by
  refine ⟨by rw [← h.resolvers]; exact Chain.keep_resolvers _ _ _, h.recorded,
    fun other found hfound => ?_⟩
  rcases Chain.unitAt?_keep_pathOf hfound with hold | ⟨hsame, rfl⟩
  · exact h.kept other found hold
  · rw [hsame]
    exact hunit

/-- A request to the chain is answered as the loaders answer its name. -/
theorem resolve (h : world.AgreesWith registry loaders) (level : Nat) (request : String) :
    ∃ after, World.resolve (level + 1) request world =
        some (CompiledLoader.firstAnswer loaders (Name.ofRequest request), after) ∧
      after.AgreesWith registry loaders := by
  rw [World.resolve]
  cases hu : world.chain.unitAt? (world.chain.pathOf request) with
  | some unit =>
    exact ⟨world.log (.reused request (world.chain.pathOf request)),
      by rw [h.kept request unit hu], h.journal _⟩
  | none =>
    obtain ⟨after, hf, hafter, hchain⟩ :=
      h.firstAnswer level (World.resolve level) request loaders rfl
    rw [h.resolvers]
    cases ha : CompiledLoader.firstAnswer loaders (Name.ofRequest request) with
    | error error =>
      rw [ha] at hf
      exact ⟨after, by simp only [hf], hafter⟩
    | ok unit? =>
      cases unit? with
      | none =>
        rw [ha] at hf
        exact ⟨after.log (.unhandled request), by simp only [hf], hafter.journal _⟩
      | some unit =>
        rw [ha] at hf
        refine ⟨{ after with chain := after.chain.keep (after.chain.pathOf request) unit }, ?_,
          hafter.keep ha⟩
        simp only [hf, hchain]

/-- Requests one after another are answered as the loaders answer their names. -/
theorem performAll (h : world.AgreesWith registry loaders) (level : Nat)
    (requests : List String) :
    ∃ after, World.performAll (level + 1) (requests.map .resolve) world =
      some (requests.map fun request =>
        .answered (CompiledLoader.firstAnswer loaders (Name.ofRequest request)), after) := by
  obtain ⟨after, hperform, -⟩ :=
    performAll_of_resolve (I := fun _ world => world.AgreesWith registry loaders)
      (fun _ _ request h => h.resolve level request) requests [] h
  exact ⟨after, hperform⟩

end World.AgreesWith

/-! ## Freshly installed manifests -/

/-- A chain without resolvers, which keeps what it loads or does not. -/
def Chain.fresh (keeps : Bool) (extension : String) : Chain σ :=
  { (if keeps then Chain.caching else {}) with extension }

theorem Chain.unitAt?_fresh (keeps : Bool) (extension path : String) :
    (Chain.fresh keeps extension : Chain σ).unitAt? path = none := by
  cases keeps with
  | false => rfl
  | true => exact Std.TreeMap.getElem?_emptyc

/-- A freshly installed manifest agrees with its loaders. -/
theorem Manifest.world_agreesWith {manifest : Manifest} {loaders : List CompiledLoader}
    (h : manifest.declared = .ok loaders) (memory : σ) (keeps : Bool) (extension now : String) :
    ∃ world, manifest.world memory (.fresh keeps extension) now =
        .ok (loaders.map (·.toLoader (.own 0)), world) ∧
      world.AgreesWith (.own 0) loaders := by
  have hinstall : manifest.install (.own 0) (.fresh keeps extension : Chain σ) =
      .ok (loaders.map (·.toLoader (.own 0)), { (Chain.fresh keeps extension : Chain σ) with
        resolvers := loaders.map fun loader => .loader (loader.toLoader (.own 0)) }) := by
    rw [Manifest.install, Manifest.compile_eq, h]
    simp only [Except.map, Chain.register_all, Chain.fresh, List.map_map]
    cases keeps <;> rfl
  rw [Manifest.world, hinstall]
  refine ⟨_, rfl, rfl, fun name record he => ?_, fun request unit hu => ?_⟩
  · cases Std.TreeMap.getElem?_emptyc.symm.trans he
  · cases (Chain.unitAt?_fresh (σ := σ) keeps extension _).symm.trans hu

/-- A freshly installed manifest answers every request by its name alone, whatever was requested
before and whether or not units are kept: the answers to a list of requests are those that each
of them gets as the first. -/
theorem Manifest.performAll_resolve (manifest : Manifest) (loaders : List (Loader σ))
    (h : manifest.compile (.own 0) = .ok loaders) (memory : σ) (keeps : Bool)
    (extension now : String) (level : Nat) (requests : List String) :
    ∃ world, manifest.world memory (.fresh keeps extension) now = .ok (loaders, world) ∧
      (∃ after, World.performAll (level + 1) (requests.map .resolve) world =
        some (requests.map fun request =>
          .answered (manifest.answer (Name.ofRequest request)), after)) ∧
      ∀ request, ∃ after, World.resolve (level + 1) request world =
        some (manifest.answer (Name.ofRequest request), after) := by
  rw [Manifest.compile_eq] at h
  cases hd : manifest.declared with
  | error error => rw [hd] at h; cases h
  | ok declared =>
    rw [hd] at h
    cases h
    obtain ⟨world, hworld, hagrees⟩ := Manifest.world_agreesWith hd memory keeps extension now
    simp only [Manifest.answer, hd]
    refine ⟨world, hworld, hagrees.performAll level requests, fun request => ?_⟩
    obtain ⟨after, hr, -⟩ := hagrees.resolve level request
    exact ⟨after, hr⟩

/-- Two loaders that take up the same names, under the policy that refuses second records. -/
def layered : Manifest where
  policy := .rejectDuplicates
  loaders := [
    { id? := some "views"
      rules := [{ pattern := "App::*", action := .next, fragments := ["use {1};"] },
        { pattern := "App::View", fragments := ["our $view;"] }] },
    { rules := [{ pattern := "App::**", fragments := ["# {1}"] }] }]

def layeredLoaders : List CompiledLoader := [
  { id := "views"
    rules := [
      { glob := ⟨"App::*", [.literal "App", .one], by decide, by decide⟩
        action := .next
        fragments := [⟨[.text "use ", .capture 1, .text ";"]⟩]
        message := ⟨[]⟩ },
      { glob := ⟨"App::View", [.literal "App", .literal "View"], by decide, by decide⟩
        action := .emit
        fragments := [⟨[.text "our $view;"]⟩]
        message := ⟨[]⟩ }]
    allowList? := none
    fragmentPolicy := .discard
    style := {} },
  { id := "loader.1"
    rules := [
      { glob := .appTree
        action := .emit
        fragments := [⟨[.text "# ", .capture 1]⟩]
        message := ⟨[]⟩ }]
    allowList? := none
    fragmentPolicy := .discard
    style := {} }]

theorem layered_performAll_resolve :
    (layered.compile (.own 0) : Except ManifestError (List (Loader Unit))) =
        .ok (layeredLoaders.map (·.toLoader (.own 0))) ∧
      ∃ world : World Unit, layered.world () (.fresh true "pm") "" =
          .ok (layeredLoaders.map (·.toLoader (.own 0)), world) ∧
        (∃ after, World.performAll 1
            (["App/View.pm", "App::Model", "./App/View"].map .resolve) world =
          some (["App/View.pm", "App::Model", "./App/View"].map fun request =>
            .answered (layered.answer (Name.ofRequest request)), after)) ∧
        ∀ request, ∃ after, World.resolve 1 request world =
          some (layered.answer (Name.ofRequest request), after) :=
  have declared : layered.declared = .ok layeredLoaders := by decide +kernel
  have compiled : (layered.compile (.own 0) : Except ManifestError (List (Loader Unit))) =
      .ok (layeredLoaders.map (·.toLoader (.own 0))) := by
    rw [Manifest.compile_eq, declared]; rfl
  ⟨compiled, layered.performAll_resolve _ compiled () true "pm" "" 0 _⟩

end ModuleSynthesis
