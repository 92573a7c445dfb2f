import ModuleSynthesis.Loader.Builder

/-!
# The world of a session

Everything that outlives a request: the memory of the generators, the registries, the chain of
resolvers with its table of loaded units, and a journal of what has happened.

* `Chain`: resolvers in the order in which they are asked, and the loaded units.
* `World`: the state of a session.
* `Event`: an entry of the journal, such as that a generator was called or a unit was generated.
* `World.install`: builds a loader and puts it at the end of the chain.
-/

namespace ModuleSynthesis

/-- Something that is asked for modules. -/
inductive Resolver (σ : Type) where
  /-- A loader. -/
  | loader (loader : Loader σ)
  /-- A program for each request. -/
  | custom (serve : String → Program σ Answer)

/-- Resolvers and what they have loaded. -/
structure Chain (σ : Type) where
  /-- The resolvers, in the order in which they are asked. -/
  resolvers : List (Resolver σ) := []
  /-- The loaded units by request path, where they are kept at all. -/
  loaded? : Option (Std.TreeMap String SourceUnit) := none
  /-- The extension of request paths. -/
  extension : String := Name.defaultExtension

namespace Chain

variable {σ : Type}

/-- A chain without resolvers that keeps what it loads. -/
def caching : Chain σ :=
  { loaded? := some {} }

/-- The number of resolvers. -/
def size (chain : Chain σ) : Nat :=
  chain.resolvers.length

/-- The chain with one more resolver, asked last. -/
def register (chain : Chain σ) (resolver : Resolver σ) : Chain σ :=
  { chain with resolvers := chain.resolvers ++ [resolver] }

/-- The path under which a requested module is kept. -/
def pathOf (chain : Chain σ) (request : String) : String :=
  Name.toPath (Name.ofRequest request) chain.extension

/-- The unit kept under a path. -/
def unitAt? (chain : Chain σ) (path : String) : Option SourceUnit :=
  match chain.loaded? with
  | some loaded => loaded[path]?
  | none => none

/-- Whether a requested module is kept. -/
def isLoaded (chain : Chain σ) (request : String) : Bool :=
  (chain.unitAt? (chain.pathOf request)).isSome

/-- The paths of the units that are kept, in order. -/
def loadedPaths (chain : Chain σ) : List String :=
  match chain.loaded? with
  | some loaded => loaded.keys
  | none => []

/-- The chain with a unit under a path, where units are kept and none is there yet. -/
def keep (chain : Chain σ) (path : String) (unit : SourceUnit) : Chain σ :=
  match chain.loaded? with
  | some loaded => { chain with loaded? := some (loaded.insertIfNew path unit) }
  | none => chain

end Chain

/-- A call of a generator. -/
structure Call where
  /-- How deeply further requests could nest: less inside the call than outside it. -/
  level : Nat
  /-- The id of the loader. -/
  loader : String
  /-- The glob of the rule. -/
  pattern : String
  /-- The context of the generator. -/
  context : Context
deriving DecidableEq, Repr

/-- Something that has happened. -/
inductive Event where
  /-- A generator was called. -/
  | called (call : Call)
  /-- A loader that writes this registry generated a unit. -/
  | generated (registry : RegistryId) (unit : SourceUnit)
  /-- A loader was asked for something that has no well-formed name. -/
  | unnamed (loader request : String)
  /-- A loader was asked for a name outside of its allow-list. -/
  | excluded (loader name : String)
  /-- A rule ended the search for rules. -/
  | stopped (loader name pattern : String)
  /-- A rule passed the name on. -/
  | skipped (loader name pattern : String)
  /-- A rule failed. -/
  | failed (loader name pattern cause : String)
  /-- A loader has no rule that generates the name. -/
  | exhausted (loader name : String)
  /-- The chain gave out a unit that it had kept. -/
  | reused (request path : String)
  /-- No resolver of the chain took a request up. -/
  | unhandled (request : String)
deriving DecidableEq, Repr

/-- The state of a session. -/
structure World (σ : Type) where
  /-- What the generators remember. -/
  memory : σ
  /-- The registries. -/
  registries : RegistryId → Registry := fun _ => {}
  /-- The resolvers and what they have loaded. -/
  chain : Chain σ := {}
  /-- What has happened, latest first. -/
  journal : List Event := []
  /-- The time that records are given. -/
  now : String

namespace World

variable {σ : Type}

/-- The world with another registry in one place. -/
def setRegistry (world : World σ) (id : RegistryId) (registry : Registry) : World σ :=
  { world with registries := fun other => if other = id then registry else world.registries other }

/-- The world after an event. -/
def log (world : World σ) (event : Event) : World σ :=
  { world with journal := event :: world.journal }

/-- The world with one more resolver, asked last. -/
def register (world : World σ) (resolver : Resolver σ) : World σ :=
  { world with chain := world.chain.register resolver }

/-- The calls of generators, earliest first. -/
def calls (world : World σ) : List Call :=
  (world.journal.filterMap fun
    | .called call => some call
    | _ => none).reverse

/-- The loader that generated a requested module, by the registry of the process. -/
def generatedBy? (world : World σ) (request : String) : Option String :=
  (world.registries .shared).generatedBy? (Name.ofRequest request)

/-- Whether a requested module was generated, by the registry of the process. -/
def wasGenerated (world : World σ) (request : String) : Bool :=
  (world.registries .shared).wasGenerated (Name.ofRequest request)

end World

namespace Loader

variable {σ : Type}

/-- The loader that generated a requested module, by the registry of a loader. -/
def generatedBy? (loader : Loader σ) (world : World σ) (request : String) : Option String :=
  (world.registries loader.registry).generatedBy? (Name.ofRequest request)

/-- Whether a requested module was generated, by the registry of a loader. -/
def wasGenerated (loader : Loader σ) (world : World σ) (request : String) : Bool :=
  (world.registries loader.registry).wasGenerated (Name.ofRequest request)

/-- The names that a loader generated, in order. -/
def generated (loader : Loader σ) (world : World σ) : List String :=
  (world.registries loader.registry).namesGeneratedBy loader.id

end Loader

/-- Builds a loader and puts it at the end of a chain. -/
def LoaderSpec.install {σ : Type} (spec : LoaderSpec σ) (fresh : String) (chain : Chain σ) :
    Except BuildError (Loader σ × Chain σ) :=
  match spec.build fresh with
  | .error error => .error error
  | .ok loader => .ok (loader, chain.register (.loader loader))

/-- Builds a loader and puts it at the end of the chain of a world, which stays as it is where the
loader cannot be built. -/
def World.install {σ : Type} (spec : LoaderSpec σ) (fresh : String) (world : World σ) :
    Except BuildError (Loader σ) × World σ :=
  match spec.install fresh world.chain with
  | .error error => (.error error, world)
  | .ok (loader, chain) => (.ok loader, { world with chain })

end ModuleSynthesis
