import ModuleSynthesis.Loader.Rule

/-!
# Loaders

A loader has an id, rules, and possibly an allow-list of globs outside of which it declines every
name. It writes what it generates into one of the registries.

* `AllowList`: the globs of an allow-list, and the names they admit.
* `Loader.considers`: whether a name gets as far as the rules.
* `Loader.wouldHandle`: whether some rule would be tried for a request.
-/

namespace ModuleSynthesis

/-- A registry by its place: the one that the whole process shares, or a private one. -/
inductive RegistryId where
  /-- The registry of the process. -/
  | shared
  /-- A private registry. -/
  | own (index : Nat)
deriving DecidableEq, Repr

/-- What becomes of the fragments of a rule that passes a name on. -/
inductive FragmentPolicy where
  /-- They are dropped. -/
  | discard
  /-- The next rule finds them in its context. -/
  | accumulate
deriving DecidableEq, Repr, Inhabited

/-- Why a loader cannot be built. -/
inductive BuildError where
  /-- The glob of the rule at this index does not compile. -/
  | rule (index : Nat) (glob : String) (source : GlobError)
  /-- A glob of the allow-list does not compile. -/
  | matchOnly (glob : String) (source : GlobError)
deriving DecidableEq, Repr

namespace BuildError

/-- The wording of an error. -/
def message : BuildError → String
  | .rule index glob source =>
    "rule " ++ toString index ++ " (`" ++ glob ++ "`): " ++ source.message
  | .matchOnly glob source => "match_only entry `" ++ glob ++ "`: " ++ source.message

/-- The wordings of the causes below an error, outermost first. -/
def sources : BuildError → List String
  | .rule _ _ source | .matchOnly _ source => source.message :: source.sources

end BuildError

/-! ## Allow-lists -/

/-- The globs of which a name must match one. -/
structure AllowList where
  /-- The globs, in order. -/
  globs : List Glob
deriving DecidableEq

namespace AllowList

/-- The globs that texts denote, or the first text that denotes none. -/
def compileGlobs : List String → Except BuildError (List Glob)
  | [] => .ok []
  | text :: texts =>
    match Glob.compile text with
    | .error source => .error (.matchOnly text source)
    | .ok glob =>
      match compileGlobs texts with
      | .error error => .error error
      | .ok globs => .ok (glob :: globs)

/-- The allow-list that texts denote. -/
def compile (texts : List String) : Except BuildError AllowList :=
  (compileGlobs texts).map AllowList.mk

/-- Whether a name matches some glob of the list. -/
def admits (allowList : AllowList) (name : String) : Bool :=
  allowList.globs.any (·.isMatch name)

end AllowList

/-! ## Loaders -/

/-- Rules with an identity. -/
structure Loader (σ : Type) where
  /-- The id under which units are recorded. -/
  id : String
  /-- The rules, in the order in which they are tried. -/
  rules : List (Rule σ)
  /-- The names that are considered at all; all of them where there is no list. -/
  allowList? : Option AllowList
  /-- What becomes of the fragments of a rule that passes a name on. -/
  fragmentPolicy : FragmentPolicy
  /-- The lines around the fragments. -/
  style : Style
  /-- The registry that is written. -/
  registry : RegistryId

namespace Loader

variable {σ : Type}

/-- Whether the allow-list, where there is one, admits a name. -/
def admits (loader : Loader σ) (name : String) : Bool :=
  match loader.allowList? with
  | some allowList => allowList.admits name
  | none => true

/-- Whether a name gets as far as the rules: it is well formed and admitted. -/
def considers (loader : Loader σ) (name : String) : Bool :=
  Name.isWellFormed name && loader.admits name

/-- Whether some rule would be tried for a request. -/
def wouldHandle (loader : Loader σ) (request : String) : Bool :=
  let name := Name.ofRequest request
  loader.considers name && Rule.anyMatch loader.rules name

end Loader

end ModuleSynthesis
