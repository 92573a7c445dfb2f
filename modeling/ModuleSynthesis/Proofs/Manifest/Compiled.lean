import ModuleSynthesis.Dispatch
import ModuleSynthesis.Manifest.Compile
import ModuleSynthesis.Proofs.Glob.Fit

/-!
# What a manifest answers

The generators of a manifest neither remember anything nor request modules, so what its loaders
answer can be said without a world: a loader runs the rules that match the name, up to the first
that does not pass it on, and the first loader with a unit or a failure decides.

* `CompiledRule.outcome_of_fail`, `CompiledRule.outcome_of_ne_fail`: what rules do.
* `CompiledLoader`: a loader of a manifest with all its texts compiled.
* `CompiledLoader.answer`, `Manifest.answer`: the answer for a name.
* `Manifest.compile_eq`: the loaders of a manifest are its compiled loaders, whatever they write.
-/

namespace ModuleSynthesis

/-! ## Rules -/

namespace CompiledRule

variable {rule : CompiledRule}

/-- A failing rule says its message and emits nothing. -/
theorem outcome_of_fail (h : rule.action = .fail) (context : Context) : rule.outcome context =
    ⟨[], .fail (.message (rule.message.render context.name context.captures))⟩ := by
  rw [outcome, h]

/-- Any other rule emits its fragments and does not fail. -/
theorem outcome_of_ne_fail (h : rule.action ≠ .fail) (context : Context) :
    ∃ exit, rule.outcome context = ⟨rule.render context, exit⟩ ∧ ∀ cause, exit ≠ .fail cause := by
  rw [outcome]
  cases haction : rule.action with
  | emit => exact ⟨.done, rfl, by simp⟩
  | next => exact ⟨.next, rfl, by simp⟩
  | stop => exact ⟨.stop, rfl, by simp⟩
  | fail => exact absurd haction h

end CompiledRule

/-! ## Loaders -/

/-- A loader of a manifest with all its texts compiled. -/
structure CompiledLoader where
  /-- The id. -/
  id : String
  /-- The rules, in order. -/
  rules : List CompiledRule
  /-- The names that are considered at all; all of them where there is no list. -/
  allowList? : Option AllowList
  /-- What becomes of the fragments of a rule that passes a name on. -/
  fragmentPolicy : FragmentPolicy
  /-- The lines around the fragments. -/
  style : Style
deriving DecidableEq

namespace CompiledLoader

/-- The loader that writes into a registry. -/
def toLoader {σ : Type} (loader : CompiledLoader) (registry : RegistryId) : Loader σ where
  id := loader.id
  rules := loader.rules.map CompiledRule.toRule
  allowList? := loader.allowList?
  fragmentPolicy := loader.fragmentPolicy
  style := loader.style
  registry := registry

/-- Whether a name gets as far as the rules. -/
def considers (loader : CompiledLoader) (name : String) : Bool :=
  Name.isWellFormed name && (loader.allowList?.map (·.admits name)).getD true

/-- The rules that match a name, in order, with their captures. -/
def matching (rules : List CompiledRule) (name : String) : List (CompiledRule × List String) :=
  rules.filterMap fun rule => (rule.glob.captures? name).map (rule, ·)

theorem mem_matching_iff {rules : List CompiledRule} {name : String} {rule : CompiledRule}
    {captures : List String} :
    (rule, captures) ∈ matching rules name ↔
      rule ∈ rules ∧ rule.glob.captures? name = some captures := by
  simp [matching]

/-- The fragments that the next rule finds when a rule passes a name on with some. -/
def carry (loader : CompiledLoader) (fragments : List String) : List String :=
  match loader.fragmentPolicy with
  | .discard => []
  | .accumulate => fragments

/-- The answer of matching rules, the first of which finds some fragments. -/
def conclude (loader : CompiledLoader) (name : String) :
    List (CompiledRule × List String) → List String → Answer
  | [], _ => .ok none
  | (rule, captures) :: rules, carried =>
    let context : Context := ⟨name, captures, carried⟩
    let fragments := carried ++ (rule.outcome context).emitted
    match (rule.outcome context).exit with
    | .done | .stop =>
      .ok (some (.assemble loader.style name loader.id rule.glob.text fragments))
    | .next => loader.conclude name rules (loader.carry fragments)
    | .fail cause => .error (.generator name rule.glob.text cause)

/-- The answer of a loader for a name. -/
def answer (loader : CompiledLoader) (name : String) : Answer :=
  if loader.considers name then loader.conclude name (matching loader.rules name) [] else .ok none

/-- The answer of loaders for a name: that of the first with a unit or a failure. -/
def firstAnswer : List CompiledLoader → String → Answer
  | [], _ => .ok none
  | loader :: loaders, name =>
    match loader.answer name with
    | .ok none => firstAnswer loaders name
    | answer => answer

/-- A unit or a failure is the answer of one of the loaders. -/
theorem exists_answer_of_firstAnswer {loaders : List CompiledLoader} {name : String}
    (h : firstAnswer loaders name ≠ .ok none) :
    ∃ loader ∈ loaders, loader.answer name = firstAnswer loaders name := by
  induction loaders with
  | nil => exact absurd rfl h
  | cons loader loaders ih =>
    rw [firstAnswer] at h ⊢
    split at h
    · obtain ⟨later, hlater, hanswer⟩ := ih h
      exact ⟨later, List.mem_cons_of_mem _ hlater, hanswer⟩
    · exact ⟨loader, List.mem_cons_self, rfl⟩

/-! ## The loader in a world -/

section

variable {σ : Type} (loader : CompiledLoader) (registry : RegistryId) (name : String)

@[simp]
theorem toLoader_id : (loader.toLoader registry : Loader σ).id = loader.id := rfl

@[simp]
theorem toLoader_registry : (loader.toLoader registry : Loader σ).registry = registry := rfl

@[simp]
theorem toLoader_style : (loader.toLoader registry : Loader σ).style = loader.style := rfl

@[simp]
theorem toLoader_considers :
    (loader.toLoader registry : Loader σ).considers name = loader.considers name := by
  rw [Loader.considers, considers, Loader.admits, toLoader]
  cases loader.allowList? <;> rfl

theorem matching_toRule (rules : List CompiledRule) :
    Rule.matching (rules.map (CompiledRule.toRule (σ := σ))) name =
      (matching rules name).map fun (rule, captures) => (rule.toRule, captures) := by
  simp [Rule.matching, matching, List.filterMap_map, List.map_filterMap, CompiledRule.toRule,
    Function.comp_def]

end

end CompiledLoader

/-! ## Compiling -/

/-- The globs of the allow-list; none where there is no allow-list. -/
def LoaderEntry.matchOnly (entry : LoaderEntry) : List String :=
  match entry.matchOnly? with
  | some choice => choice.globs
  | none => []

/-- The compiled loader that an entry declares. -/
def LoaderEntry.declare (entry : LoaderEntry) (style : Style) (id : String) :
    Except ManifestError CompiledLoader :=
  match RuleEntry.compileAll id 0 entry.rules with
  | .error error => .error error
  | .ok rules =>
    match LoaderSpec.buildAllowList entry.matchOnly with
    | .error error => .error (.build id error)
    | .ok allowList? =>
      .ok { id, rules, allowList?, fragmentPolicy := entry.fragmentPolicy, style }

/-- The compiled loaders that entries from an index on declare, none of them with an id seen
before. -/
def LoaderEntry.declareAll (style : Style) :
    Nat → List String → List LoaderEntry → Except ManifestError (List CompiledLoader)
  | _, _, [] => .ok []
  | index, seen, entry :: entries =>
    if entry.idAt index ∈ seen then .error (.duplicateLoaderId (entry.idAt index))
    else
      match entry.declare style (entry.idAt index) with
      | .error error => .error error
      | .ok loader =>
        match declareAll style (index + 1) (entry.idAt index :: seen) entries with
        | .error error => .error error
        | .ok loaders => .ok (loader :: loaders)

namespace Manifest

/-- The compiled loaders of a manifest. -/
def declared (manifest : Manifest) : Except ManifestError (List CompiledLoader) :=
  LoaderEntry.declareAll manifest.style 0 [] manifest.loaders

/-- The answer of a manifest for a name: nothing for a manifest that does not compile. -/
def answer (manifest : Manifest) (name : String) : Answer :=
  match manifest.declared with
  | .ok loaders => CompiledLoader.firstAnswer loaders name
  | .error _ => .ok none

end Manifest

theorem LoaderSpec.buildRules_compiled {σ : Type} (index : Nat) (rules : List (Rule σ)) :
    LoaderSpec.buildRules index (rules.map .compiled) = .ok rules := by
  induction rules generalizing index with
  | nil => rfl
  | cons rule rules ih => simp [LoaderSpec.buildRules, ih]

section

variable {σ : Type} (style : Style) (registry : RegistryId)

theorem LoaderEntry.compile_eq (entry : LoaderEntry) (id : String) :
    entry.compile (σ := σ) style registry id =
      (entry.declare style id).map (·.toLoader registry) := by
  rw [LoaderEntry.compile, LoaderEntry.declare]
  cases RuleEntry.compileAll id 0 entry.rules with
  | error => rfl
  | ok rules =>
    have hrules : LoaderSpec.buildRules 0 (rules.map fun rule => .compiled rule.toRule) =
        .ok (rules.map (CompiledRule.toRule (σ := σ))) := by
      rw [← LoaderSpec.buildRules_compiled 0, List.map_map]; rfl
    simp only [LoaderSpec.build, hrules, LoaderEntry.matchOnly]
    cases entry.matchOnly? with
    | none => cases LoaderSpec.buildAllowList [] <;> rfl
    | some choice => cases LoaderSpec.buildAllowList choice.globs <;> rfl

theorem LoaderEntry.compileAll_eq (index : Nat) (seen : List String) (entries : List LoaderEntry) :
    LoaderEntry.compileAll (σ := σ) style registry index seen entries =
      (LoaderEntry.declareAll style index seen entries).map (·.map (·.toLoader registry)) := by
  induction entries generalizing index seen with
  | nil => rfl
  | cons entry entries ih =>
    rw [LoaderEntry.compileAll, LoaderEntry.declareAll]
    by_cases hseen : entry.idAt index ∈ seen
    · rw [if_pos hseen, if_pos hseen]; rfl
    · rw [if_neg hseen, if_neg hseen, LoaderEntry.compile_eq, ih]
      cases entry.declare style (entry.idAt index) with
      | error => rfl
      | ok loader =>
        cases LoaderEntry.declareAll style (index + 1) (entry.idAt index :: seen) entries <;> rfl

/-- The loaders of a manifest are its compiled loaders, whatever registry they write. -/
theorem Manifest.compile_eq (manifest : Manifest) :
    manifest.compile (σ := σ) registry = manifest.declared.map (·.map (·.toLoader registry)) :=
  LoaderEntry.compileAll_eq manifest.style registry 0 [] manifest.loaders

end

end ModuleSynthesis
