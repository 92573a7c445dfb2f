import ModuleSynthesis.Dispatch

/-!
# Sessions

What can be done to a world from outside, one action after another.

* `Action`, `Reply`: the actions and what comes back.
* `World.perform`: one action.
* `World.performAll`: a list of actions, with all replies.
-/

namespace ModuleSynthesis

/-- Something done to a world. -/
inductive Action (σ : Type) where
  /-- A request to one loader. -/
  | dispatch (loader : Loader σ) (request : String)
  /-- A request to the chain. -/
  | resolve (request : String)
  /-- One more resolver for the chain. -/
  | register (resolver : Resolver σ)
  /-- A record of its own for a registry. -/
  | record (registry : RegistryId) (name loader pattern : String)
  /-- A registry is emptied. -/
  | clear (registry : RegistryId)

/-- What comes back from an action. -/
inductive Reply where
  /-- The answer to a request. -/
  | answered (answer : Answer)
  /-- The chain has so many resolvers. -/
  | registered (size : Nat)
  /-- What became of a record. -/
  | recorded (outcome : Except RegistryError RecordOutcome)
  /-- The registry is empty. -/
  | cleared

namespace World

variable {σ : Type}

/-- The nesting of requests that a session allows. -/
def nestingLimit : Nat := 20000

/-- An action on a world, where requests may be nested so many times. -/
def perform (level : Nat) (action : Action σ) (world : World σ) : Option (Reply × World σ) :=
  match action with
  | .dispatch loader request =>
    (world.dispatch level loader request).map fun (answer, world) => (.answered answer, world)
  | .resolve request =>
    (resolve level request world).map fun (answer, world) => (.answered answer, world)
  | .register resolver =>
    let world := world.register resolver
    some (.registered world.chain.size, world)
  | .record id name loader pattern =>
    match (world.registries id).record name ⟨loader, pattern, world.now⟩ with
    | .error error => some (.recorded (.error error), world)
    | .ok (outcome, registry) => some (.recorded (.ok outcome), world.setRegistry id registry)
  | .clear id => some (.cleared, world.setRegistry id (world.registries id).clear)

/-- Actions on a world, one after another. -/
def performAll (level : Nat) : List (Action σ) → World σ → Option (List Reply × World σ)
  | [], world => some ([], world)
  | action :: actions, world =>
    match perform level action world with
    | none => none
    | some (reply, world) =>
      match performAll level actions world with
      | none => none
      | some (replies, world) => some (reply :: replies, world)

end World

end ModuleSynthesis
