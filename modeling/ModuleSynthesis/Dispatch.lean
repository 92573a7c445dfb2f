import ModuleSynthesis.World

/-!
# Dispatch and resolution

A loader takes a request to its rules: the matching ones run in order until one does not pass the
name on. The chain asks its resolvers in order until one has a unit; a unit that is kept from
before is given out without asking. A generator may request modules while it runs, which comes
back to the chain, so a bound on the nesting is given; where it is exceeded there is no result.

* `Program.run`: a program in a world, where requests go to a given function.
* `Loader.dispatch`: a request to one loader.
* `World.resolve`: a request to the chain.
* `World.dispatch`: a request to one loader whose generators may request modules of the chain.
-/

namespace ModuleSynthesis

/-- What requests do to a world: nothing where they are nested too deeply. -/
abbrev Requests (σ : Type) := String → World σ → Option (Answer × World σ)

variable {σ : Type}

/-- Runs a program in a world; its requests are made of `requests`. -/
def Program.run {α : Type} (requests : Requests σ) :
    Program σ α → World σ → Option (α × World σ)
  | .done result, world => some (result, world)
  | .update change next, world =>
    (next world.memory).run requests { world with memory := change world.memory }
  | .resolve request next, world =>
    match requests request world with
    | some (answer, world) => (next answer).run requests world
    | none => none

namespace Loader

/-- Records a name as generated and makes the unit, or fails where the record is refused. -/
def finish (loader : Loader σ) (name pattern : String) (fragments : List String)
    (world : World σ) : Answer × World σ :=
  match (world.registries loader.registry).record name ⟨loader.id, pattern, world.now⟩ with
  | .error error => (.error (.registry error), world)
  | .ok (_, registry) =>
    let unit := SourceUnit.assemble loader.style name loader.id pattern fragments
    (.ok (some unit),
      (world.setRegistry loader.registry registry).log (.generated loader.registry unit))

/-- The fragments that the next rule finds when a rule passes a name on with some. -/
def carry (loader : Loader σ) (fragments : List String) : List String :=
  match loader.fragmentPolicy with
  | .discard => []
  | .accumulate => fragments

/-- Runs matching rules in order, the first with carried fragments, until one does not pass the
name on. -/
def tryRules (level : Nat) (requests : Requests σ) (loader : Loader σ) (name : String) :
    List (Rule σ × List String) → List String → World σ → Option (Answer × World σ)
  | [], _, world => some (.ok none, world.log (.exhausted loader.id name))
  | (rule, captures) :: rules, carried, world =>
    let pattern := rule.glob.text
    let context : Context := ⟨name, captures, carried⟩
    match (rule.generator context).run requests
        (world.log (.called ⟨level, loader.id, pattern, context⟩)) with
    | none => none
    | some (outcome, world) =>
      let fragments := (context.emitAll outcome.emitted).fragments
      match outcome.exit with
      | .done => some (loader.finish name pattern fragments world)
      | .stop =>
        some (loader.finish name pattern fragments (world.log (.stopped loader.id name pattern)))
      | .next =>
        tryRules level requests loader name rules (loader.carry fragments)
          (world.log (.skipped loader.id name pattern))
      | .fail cause =>
        some (.error (.generator name pattern cause),
          world.log (.failed loader.id name pattern cause.wording))

/-- What is noted of a request that a loader does not consider. -/
def refusal (loader : Loader σ) (request : String) : Event :=
  let name := Name.ofRequest request
  if Name.isWellFormed name then .excluded loader.id name else .unnamed loader.id request

/-- A request to a loader. -/
def dispatch (level : Nat) (requests : Requests σ) (loader : Loader σ) (request : String)
    (world : World σ) : Option (Answer × World σ) :=
  let name := Name.ofRequest request
  if loader.considers name then
    loader.tryRules level requests name (Rule.matching loader.rules name) [] world
  else some (.ok none, world.log (loader.refusal request))

end Loader

namespace Resolver

/-- A request to a resolver. -/
def answer (level : Nat) (requests : Requests σ) (request : String) (world : World σ) :
    Resolver σ → Option (Answer × World σ)
  | .loader inner => inner.dispatch level requests request world
  | .custom serve => (serve request).run requests world

/-- A request to resolvers in order, until one has a unit or fails. -/
def firstAnswer (level : Nat) (requests : Requests σ) (request : String) :
    List (Resolver σ) → World σ → Option (Answer × World σ)
  | [], world => some (.ok none, world)
  | resolver :: resolvers, world =>
    match resolver.answer level requests request world with
    | some (.ok none, world) => firstAnswer level requests request resolvers world
    | result => result

end Resolver

namespace World

/-- A request to the chain, where requests may be nested so many times, itself included. A unit
that comes from a resolver is kept, unless another one has been kept meanwhile. -/
def resolve : Nat → Requests σ
  | 0, _, _ => none
  | level + 1, request, world =>
    let path := world.chain.pathOf request
    match world.chain.unitAt? path with
    | some unit => some (.ok (some unit), world.log (.reused request path))
    | none =>
      match Resolver.firstAnswer level (resolve level) request world.chain.resolvers world with
      | some (.ok (some unit), world) =>
        some (.ok (some unit), { world with chain := world.chain.keep path unit })
      | some (.ok none, world) => some (.ok none, world.log (.unhandled request))
      | result => result

/-- A request to one loader, whose generators may request modules of the chain. -/
def dispatch (level : Nat) (loader : Loader σ) : Requests σ :=
  loader.dispatch level (resolve level)

end World

end ModuleSynthesis
