import ModuleSynthesis.Proofs.Loader
import ModuleSynthesis.Proofs.Manifest.Declared
import ModuleSynthesis.Proofs.Name

/-!
# Allow-lists of manifests

A loader of a manifest may carry an allow-list, as one glob or as a list of globs.

* `Manifest.admits_iff`: what the loader of an entry with an allow-list admits.
* `Manifest.allowList_respected_iff`: the allow-list of an entry is respected unless it is an empty
  list, which counts as none.
-/

namespace ModuleSynthesis

variable {σ : Type}

theorem GlobChoice.globs_eq_nil_iff {choice : GlobChoice} :
    choice.globs = [] ↔ choice = .many [] := by
  cases choice <;> simp [globs]

namespace Manifest

variable {manifest : Manifest} {registry : RegistryId} {loaders : List (Loader σ)}
  {index : Nat} {entry : LoaderEntry} {choice : GlobChoice} {loader : Loader σ}

/-- The loader of an entry with an allow-list admits the names that match one of its globs, or all
names where the list is empty. -/
theorem admits_iff (hc : manifest.compile registry = .ok loaders)
    (he : manifest.loaders[index]? = some entry) (hm : entry.matchOnly? = some choice)
    (hl : loaders[index]? = some loader) (name : String) :
    loader.admits name ↔ choice = .many [] ∨ Glob.SomeMatch choice.globs name := by
  obtain ⟨declared, hdeclared, rfl⟩ := exists_declared_of_compile hc
  rw [List.getElem?_map] at hl
  obtain ⟨compiled, hcompiled, rfl⟩ := Option.map_eq_some_iff.mp hl
  have hdeclare := (LoaderEntry.declares_of_declareAll hdeclared).of_getElem? he hcompiled
  have hbuild := (LoaderEntry.becomes_of_declare hdeclare).allowList
  rw [LoaderEntry.matchOnly, hm] at hbuild
  have hadmits : (compiled.toLoader registry : Loader σ).admits name ↔
      choice.globs = [] ∨ Glob.SomeMatch choice.globs name := LoaderSpec.admits_iff hbuild
  rw [hadmits, GlobChoice.globs_eq_nil_iff]

/-- A loader of a manifest that declares an allow-list takes no request up but for names that match
a glob of the list, exactly if the list is not empty or the loader would not handle the request
anyway. -/
theorem allowList_respected_iff (hc : manifest.compile registry = .ok loaders)
    (he : manifest.loaders[index]? = some entry) (hm : entry.matchOnly? = some choice)
    (hl : loaders[index]? = some loader) (request : String) :
    (loader.TakesUp request → Glob.SomeMatch choice.globs (Name.ofRequest request)) ↔
      (choice ≠ .many [] ∨ loader.wouldHandle request = false) := by
  rw [Loader.takesUp_iff]
  constructor
  · intro hrespected
    cases hhandles : loader.wouldHandle request with
    | false => exact .inr rfl
    | true =>
      refine .inl fun hempty => ?_
      obtain ⟨text, ht, -⟩ := hrespected hhandles
      rw [hempty] at ht
      cases ht
  · intro hcondition hhandles
    have hnonempty : choice ≠ .many [] :=
      hcondition.resolve_right fun h => Bool.noConfusion (hhandles.symm.trans h)
    have hadmitted : loader.admits (Name.ofRequest request) := by
      rw [Loader.wouldHandle, Loader.considers, Bool.and_eq_true, Bool.and_eq_true] at hhandles
      exact hhandles.1.2
    exact ((admits_iff hc he hm hl _).mp hadmitted).resolve_left hnonempty

end Manifest

/-- A loader for a module and for those below another one. -/
def restrictedEntry : LoaderEntry where
  id? := some "views"
  matchOnly? := some (.many ["App::Model", "App::View::*"])
  rules := [{ pattern := "App::**", fragments := ["# {1}"] }]

def restricted : Manifest where
  loaders := [restrictedEntry]

def restrictedLoader : CompiledLoader where
  id := "views"
  rules := [
    { glob := .appTree
      action := .emit
      fragments := [⟨[.text "# ", .capture 1]⟩]
      message := ⟨[]⟩ }]
  allowList? := some ⟨[
    ⟨"App::Model", [.literal "App", .literal "Model"], by decide, by decide⟩,
    ⟨"App::View::*", [.literal "App", .literal "View", .one], by decide, by decide⟩]⟩
  fragmentPolicy := .discard
  style := {}

theorem restricted_allowList_respected_iff :
    (restricted.compile (.own 0) : Except ManifestError (List (Loader Unit))) =
        .ok [restrictedLoader.toLoader (.own 0)] ∧
      (((restrictedLoader.toLoader (.own 0) : Loader Unit).TakesUp "App/View/Main.pm" →
          Glob.SomeMatch ["App::Model", "App::View::*"] (Name.ofRequest "App/View/Main.pm")) ↔
        (GlobChoice.many ["App::Model", "App::View::*"] ≠ .many [] ∨
          (restrictedLoader.toLoader (.own 0) : Loader Unit).wouldHandle "App/View/Main.pm" =
            false)) :=
  have declared : restricted.declared = .ok [restrictedLoader] := by decide +kernel
  have compiled : (restricted.compile (.own 0) : Except ManifestError (List (Loader Unit))) =
      .ok [restrictedLoader.toLoader (.own 0)] := by
    rw [Manifest.compile_eq, declared]; rfl
  have entry : restricted.loaders[0]? = some restrictedEntry := rfl
  ⟨compiled, Manifest.allowList_respected_iff compiled entry rfl rfl "App/View/Main.pm"⟩

/-- A loader whose allow-list is empty. -/
def unrestricted : Manifest where
  loaders := [
    { id? := some "site"
      matchOnly? := some (.many [])
      rules := [{ pattern := "**" }] }]

def unrestrictedLoader : CompiledLoader where
  id := "site"
  rules := [
    { glob := .everyName
      action := .emit
      fragments := []
      message := ⟨[]⟩ }]
  allowList? := none
  fragmentPolicy := .discard
  style := {}

/-- A page is generated although no glob of the allow-list matches its name. -/
theorem unrestricted_takesUp_page :
    (unrestricted.compile (.own 0) : Except ManifestError (List (Loader Unit))) =
        .ok [unrestrictedLoader.toLoader (.own 0)] ∧
      (unrestrictedLoader.toLoader (.own 0) : Loader Unit).wouldHandle "App::Page" ∧
      (World.dispatch 1 (unrestrictedLoader.toLoader (.own 0)) "App::Page"
          { memory := (), now := "" }).map (fun (answer, after) =>
            (answer.toOption, after.calls.length)) =
        some (some (some (.assemble {} "App::Page" "site" "**" [])), 1) ∧
      ¬ Glob.SomeMatch (GlobChoice.many []).globs (Name.ofRequest "App::Page") := by
  have declared : unrestricted.declared = .ok [unrestrictedLoader] := by decide +kernel
  refine ⟨by rw [Manifest.compile_eq, declared]; rfl, by decide +kernel, by decide +kernel, ?_⟩
  rintro ⟨text, ht, -⟩
  cases ht

end ModuleSynthesis
