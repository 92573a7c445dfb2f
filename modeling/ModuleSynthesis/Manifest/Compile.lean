import ModuleSynthesis.Manifest.Basic
import ModuleSynthesis.World

/-!
# Compiling manifests

The loaders that a manifest declares. Everything that can be wrong with a manifest is found here:
loaders are taken in order, and of each one its id, its rules in order, and its allow-list. Of a
rule its glob is taken, then its fragments in order, then its message.

* `Manifest.compile`: the loaders, or the first fault.
* `Manifest.install`: puts the loaders at the end of a chain.
* `Manifest.world`: a world in which the loaders of a manifest are installed.
-/

namespace ModuleSynthesis

/-- What is wrong with a manifest. -/
inductive ManifestError where
  /-- An earlier loader has the same id. -/
  | duplicateLoaderId (id : String)
  /-- The glob of a rule does not compile. -/
  | pattern (loader : String) (rule : Nat) (source : GlobError)
  /-- A template of a rule is malformed, or mentions a capture that its glob does not have. -/
  | template (loader : String) (rule : Nat) (source : TemplateError)
  /-- A failing rule has no message. -/
  | missingFailMessage (loader : String) (rule : Nat)
  /-- A rule that does not fail has a message. -/
  | unexpectedMessage (loader : String) (rule : Nat) (action : RuleAction)
  /-- The loader cannot be built. -/
  | build (loader : String) (source : BuildError)
deriving DecidableEq, Repr

namespace ManifestError

/-- The words that say which rule is meant. -/
def place (loader : String) (rule : Nat) : String :=
  "loader `" ++ loader ++ "`, rule " ++ toString rule ++ ": "

/-- The wording of an error. -/
def message : ManifestError → String
  | .duplicateLoaderId id => "duplicate loader id `" ++ id ++ "`"
  | .pattern loader rule source => place loader rule ++ source.message
  | .template loader rule source => place loader rule ++ source.message
  | .missingFailMessage loader rule => place loader rule ++ "`fail` rules need a message"
  | .unexpectedMessage loader rule action =>
    place loader rule ++ "`message` is only read by `fail` rules, not `" ++ action.name ++ "`"
  | .build loader source => "loader `" ++ loader ++ "`: " ++ source.message

/-- The wordings of the causes below an error, outermost first. -/
def sources : ManifestError → List String
  | .pattern _ _ source => source.message :: source.sources
  | .template _ _ source => [source.message]
  | .build _ source => source.message :: source.sources
  | _ => []

end ManifestError

/-! ## Rules -/

/-- The template that a text denotes, if it mentions no more captures than a glob has. -/
def Glob.templateFor (glob : Glob) (text : String) : Except TemplateError Template :=
  match Template.parse text with
  | .error error => .error error
  | .ok template =>
    if template.maxCapture ≤ glob.wildcards then .ok template
    else .error (.captureOutOfRange template.maxCapture glob.wildcards glob.text)

/-- The templates that texts denote, or the first fault. -/
def Glob.templatesFor (glob : Glob) : List String → Except TemplateError (List Template)
  | [] => .ok []
  | text :: texts =>
    match glob.templateFor text with
    | .error error => .error error
    | .ok template =>
      match glob.templatesFor texts with
      | .error error => .error error
      | .ok templates => .ok (template :: templates)

/-- A rule of a manifest with all its texts compiled. -/
structure CompiledRule where
  /-- The glob. -/
  glob : Glob
  /-- What the rule does. -/
  action : RuleAction
  /-- The fragments. -/
  fragments : List Template
  /-- The message of a failing rule; no text where there is none. -/
  message : Template
deriving DecidableEq

namespace CompiledRule

/-- The texts of the fragments for a context. -/
def render (rule : CompiledRule) (context : Context) : List String :=
  rule.fragments.map (·.render context.name context.captures)

/-- What a rule does in a context. -/
def outcome (rule : CompiledRule) (context : Context) : Outcome :=
  match rule.action with
  | .emit => ⟨rule.render context, .done⟩
  | .next => ⟨rule.render context, .next⟩
  | .stop => ⟨rule.render context, .stop⟩
  | .fail => ⟨[], .fail (.message (rule.message.render context.name context.captures))⟩

/-- The rule with its generator. -/
def toRule {σ : Type} (rule : CompiledRule) : Rule σ :=
  ⟨rule.glob, fun context => .done (rule.outcome context)⟩

end CompiledRule

namespace RuleEntry

/-- The message of a rule, which is there exactly if the rule fails. -/
def compileMessage (entry : RuleEntry) (loader : String) (index : Nat) (glob : Glob) :
    Except ManifestError Template :=
  match entry.action, entry.message? with
  | .fail, none => .error (.missingFailMessage loader index)
  | .fail, some text =>
    match glob.templateFor text with
    | .error error => .error (.template loader index error)
    | .ok template => .ok template
  | action, some _ => .error (.unexpectedMessage loader index action)
  | _, none => .ok ⟨[]⟩

/-- The rule at an index of a loader. -/
def compile (entry : RuleEntry) (loader : String) (index : Nat) :
    Except ManifestError CompiledRule :=
  match Glob.compile entry.pattern with
  | .error error => .error (.pattern loader index error)
  | .ok glob =>
    match glob.templatesFor entry.fragments with
    | .error error => .error (.template loader index error)
    | .ok fragments =>
      match entry.compileMessage loader index glob with
      | .error error => .error error
      | .ok message => .ok { glob, action := entry.action, fragments, message }

/-- The rules of a loader from an index on. -/
def compileAll (loader : String) : Nat → List RuleEntry → Except ManifestError (List CompiledRule)
  | _, [] => .ok []
  | index, entry :: entries =>
    match entry.compile loader index with
    | .error error => .error error
    | .ok rule =>
      match compileAll loader (index + 1) entries with
      | .error error => .error error
      | .ok rules => .ok (rule :: rules)

end RuleEntry

/-! ## Loaders -/

/-- The loader that an entry declares. -/
def LoaderEntry.compile {σ : Type} (entry : LoaderEntry) (style : Style) (registry : RegistryId)
    (id : String) : Except ManifestError (Loader σ) :=
  match RuleEntry.compileAll id 0 entry.rules with
  | .error error => .error error
  | .ok rules =>
    let spec : LoaderSpec σ := {
      id? := some id
      rules := rules.map fun rule => .compiled rule.toRule
      matchOnly := match entry.matchOnly? with
        | some choice => choice.globs
        | none => []
      fragmentPolicy := entry.fragmentPolicy
      style
      registry }
    match spec.build id with
    | .error error => .error (.build id error)
    | .ok loader => .ok loader

/-- The loaders that entries from an index on declare, none of them with an id seen before. -/
def LoaderEntry.compileAll {σ : Type} (style : Style) (registry : RegistryId) :
    Nat → List String → List LoaderEntry → Except ManifestError (List (Loader σ))
  | _, _, [] => .ok []
  | index, seen, entry :: entries =>
    let id := entry.idAt index
    if id ∈ seen then .error (.duplicateLoaderId id)
    else
      match entry.compile style registry id with
      | .error error => .error error
      | .ok loader =>
        match compileAll style registry (index + 1) (id :: seen) entries with
        | .error error => .error error
        | .ok loaders => .ok (loader :: loaders)

namespace Manifest

variable {σ : Type}

/-- The loaders of a manifest, writing into a registry. -/
def compile (manifest : Manifest) (registry : RegistryId) :
    Except ManifestError (List (Loader σ)) :=
  LoaderEntry.compileAll manifest.style registry 0 [] manifest.loaders

/-- Puts the loaders of a manifest at the end of a chain. -/
def install (manifest : Manifest) (registry : RegistryId) (chain : Chain σ) :
    Except ManifestError (List (Loader σ) × Chain σ) :=
  match manifest.compile registry with
  | .error error => .error error
  | .ok loaders =>
    .ok (loaders, loaders.foldl (fun chain loader => chain.register (.loader loader)) chain)

/-- A world with the loaders of a manifest in a given chain, and a fresh registry of its policy;
also the loaders. -/
def world (manifest : Manifest) (memory : σ) (chain : Chain σ) (now : String) :
    Except ManifestError (List (Loader σ) × World σ) :=
  match manifest.install (.own 0) chain with
  | .error error => .error error
  | .ok (loaders, chain) =>
    .ok (loaders, {
      memory
      registries := fun
        | .own 0 => manifest.newRegistry
        | _ => {}
      chain
      now })

end Manifest

end ModuleSynthesis
