import ModuleSynthesis.Loader.Basic

/-!
# Building loaders

A loader is declared with the texts of its globs; rules may also come compiled. Building compiles
the rest: all or nothing, and the first text that is no glob is the error, rules before the
allow-list.

* `LoaderSpec.build`: the loader that a declaration describes.
-/

namespace ModuleSynthesis

/-- A rule as it is declared. -/
inductive RuleSpec (σ : Type) where
  /-- A generator for the glob with this text. -/
  | glob (text : String) (generator : Generator σ)
  /-- A rule that was compiled before. -/
  | compiled (rule : Rule σ)

/-- A loader as it is declared. -/
structure LoaderSpec (σ : Type) where
  /-- The id, or nothing for one that is made up. -/
  id? : Option String := none
  /-- The rules, in order. -/
  rules : List (RuleSpec σ) := []
  /-- The globs of the allow-list; there is no allow-list where there are none. -/
  matchOnly : List String := []
  /-- What becomes of the fragments of a rule that passes a name on. -/
  fragmentPolicy : FragmentPolicy := .discard
  /-- The lines around the fragments. -/
  style : Style := {}
  /-- The registry that is written. -/
  registry : RegistryId := .shared

namespace LoaderSpec

variable {σ : Type}

/-- The rules that declarations from an index on describe. -/
def buildRules : Nat → List (RuleSpec σ) → Except BuildError (List (Rule σ))
  | _, [] => .ok []
  | index, spec :: specs =>
    let rule : Except BuildError (Rule σ) :=
      match spec with
      | .compiled rule => .ok rule
      | .glob text generator =>
        match Rule.compile text generator with
        | .error source => .error (.rule index text source)
        | .ok rule => .ok rule
    match rule with
    | .error error => .error error
    | .ok rule =>
      match buildRules (index + 1) specs with
      | .error error => .error error
      | .ok rules => .ok (rule :: rules)

/-- The allow-list that texts describe: none where there are no texts. -/
def buildAllowList (matchOnly : List String) : Except BuildError (Option AllowList) :=
  if matchOnly = [] then .ok none else (AllowList.compile matchOnly).map some

/-- The loader that a declaration describes; `fresh` is its id where none is declared. -/
def build (spec : LoaderSpec σ) (fresh : String) : Except BuildError (Loader σ) :=
  match buildRules 0 spec.rules with
  | .error error => .error error
  | .ok rules =>
    match buildAllowList spec.matchOnly with
    | .error error => .error error
    | .ok allowList? =>
      .ok {
        id := spec.id?.getD fresh
        rules
        allowList?
        fragmentPolicy := spec.fragmentPolicy
        style := spec.style
        registry := spec.registry }

end LoaderSpec

end ModuleSynthesis
