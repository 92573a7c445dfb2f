import ModuleSynthesis.Dispatch
import ModuleSynthesis.Proofs.Glob.Acceptance

/-!
# Which names a loader takes up

* `LoaderSpec.admits_iff`: the names that a declared allow-list admits. An empty declaration
  restricts nothing.
* `Loader.dispatch_of_not_wouldHandle`: a loader that would not handle a request declines it and
  calls no generator.
* `Loader.takesUp_iff`: so it takes no request up but those that it would handle.
-/

namespace ModuleSynthesis

variable {σ : Type} {name : String}

/-! ## Allow-lists -/

/-- Some text of a list denotes a glob that a name matches. -/
def Glob.SomeMatch (texts : List String) (name : String) : Prop :=
  ∃ text ∈ texts, ∃ glob, Glob.compile text = .ok glob ∧ glob.isMatch name

theorem AllowList.mem_compileGlobs_iff {texts : List String} {globs : List Glob}
    (h : compileGlobs texts = .ok globs) {glob : Glob} :
    glob ∈ globs ↔ ∃ text ∈ texts, Glob.compile text = .ok glob := by
  induction texts generalizing globs with
  | nil => cases h; simp
  | cons text texts ih =>
    rw [compileGlobs] at h
    split at h
    · cases h
    · next first hfirst =>
      split at h
      · cases h
      · next rest hrest =>
        cases h
        rw [List.mem_cons, ih hrest]
        simp [hfirst, eq_comm]

theorem AllowList.admits_iff {texts : List String} {allowList : AllowList}
    (h : compile texts = .ok allowList) : allowList.admits name ↔ Glob.SomeMatch texts name := by
  rw [compile] at h
  cases hg : compileGlobs texts with
  | error => rw [hg] at h; cases h
  | ok globs =>
    rw [hg] at h
    cases h
    simp only [admits, List.any_eq_true, mem_compileGlobs_iff hg, Glob.SomeMatch]
    constructor
    · rintro ⟨glob, ⟨text, ht, hc⟩, hm⟩
      exact ⟨text, ht, glob, hc, hm⟩
    · rintro ⟨text, ht, glob, hc, hm⟩
      exact ⟨glob, ⟨text, ht, hc⟩, hm⟩

/-- A loader with a declared allow-list admits the names that match a glob of it; all names where
the list is empty. -/
theorem LoaderSpec.admits_iff {texts : List String} {loader : Loader σ}
    (h : buildAllowList texts = .ok loader.allowList?) :
    loader.admits name ↔ texts = [] ∨ Glob.SomeMatch texts name := by
  rw [buildAllowList] at h
  rw [Loader.admits]
  split at h
  · next hempty =>
    rw [← Except.ok.inj h]
    simp [hempty]
  · next hsome =>
    cases hc : AllowList.compile texts with
    | error => rw [hc] at h; cases h
    | ok allowList =>
      rw [hc] at h
      rw [← Except.ok.inj h]
      simp only [AllowList.admits_iff hc, hsome, false_or]

/-! ## Requests that a loader would not handle -/

theorem Rule.mem_matching_iff {rules : List (Rule σ)} {rule : Rule σ} {captures : List String} :
    (rule, captures) ∈ Rule.matching rules name ↔
      rule ∈ rules ∧ rule.glob.captures? name = some captures := by
  simp [Rule.matching]

/-- The matching rules of a list are those whose glob matches, in order. -/
theorem Rule.map_fst_matching (rules : List (Rule σ)) (name : String) :
    (Rule.matching rules name).map Prod.fst = rules.filter (·.glob.isMatch name) := by
  induction rules with
  | nil => rfl
  | cons rule rules ih =>
    rw [matching, List.filterMap_cons, List.filter_cons, Glob.isMatch_eq]
    cases rule.glob.captures? name with
    | none => exact ih
    | some captures => exact congrArg (rule :: ·) ih

theorem Rule.matching_eq_nil_iff {rules : List (Rule σ)} :
    Rule.matching rules name = [] ↔ Rule.anyMatch rules name = false := by
  simp [Rule.matching, Rule.anyMatch, Glob.isMatch_eq]

/-- An event that is no call adds no call. -/
theorem World.calls_log {event : Event} (h : ∀ call, event ≠ .called call) (world : World σ) :
    (world.log event).calls = world.calls := by
  rw [calls, calls, log, List.filterMap_cons]
  cases event with
  | called call => exact absurd rfl (h call)
  | _ => rfl

theorem World.calls_log_called (world : World σ) (call : Call) :
    (world.log (.called call)).calls = world.calls ++ [call] := by
  simp [calls, log]

namespace Loader

theorem calls_finish (loader : Loader σ) (name pattern : String) (fragments : List String)
    (world : World σ) : (loader.finish name pattern fragments world).2.calls = world.calls := by
  rw [finish]
  split
  · rfl
  · exact World.calls_log (fun _ h => by cases h) _

theorem refusal_ne_called (loader : Loader σ) (request : String) (call : Call) :
    loader.refusal request ≠ .called call := by
  rw [refusal]
  split <;> exact nofun

/-- A loader that would not handle a request declines it, and nothing happens but that this is
noted. -/
theorem dispatch_of_not_wouldHandle {loader : Loader σ} {request : String}
    (h : loader.wouldHandle request = false) (level : Nat) (requests : Requests σ)
    (world : World σ) : ∃ event, (∀ call, event ≠ .called call) ∧
      loader.dispatch level requests request world = some (.ok none, world.log event) := by
  rw [wouldHandle, Bool.and_eq_false_iff] at h
  rw [dispatch]
  split
  · next hc =>
    have hnone := Rule.matching_eq_nil_iff.mpr (h.resolve_left (by simp [hc]))
    rw [hnone, tryRules]
    exact ⟨.exhausted loader.id (Name.ofRequest request), fun _ => nofun, rfl⟩
  · exact ⟨loader.refusal request, loader.refusal_ne_called request, rfl⟩

/-- A loader takes a request up: it says that it would handle it, or in some world it calls a
generator for it or answers it with a unit or an error. -/
def TakesUp (loader : Loader σ) (request : String) : Prop :=
  loader.wouldHandle request ∨ ∃ level world answer after,
    World.dispatch level loader request world = some (answer, after) ∧
      (after.calls ≠ world.calls ∨ answer ≠ .ok none)

theorem takesUp_iff {loader : Loader σ} {request : String} :
    loader.TakesUp request ↔ loader.wouldHandle request := by
  refine ⟨fun h => ?_, .inl⟩
  rcases h with h | ⟨level, world, answer, after, hdispatch, heffect⟩
  · exact h
  · refine Bool.not_eq_false _ ▸ fun hnot => ?_
    obtain ⟨event, hevent, hdeclined⟩ :=
      dispatch_of_not_wouldHandle hnot level (World.resolve level) world
    rw [World.dispatch, hdeclined] at hdispatch
    cases hdispatch
    rcases heffect with hcalls | hanswer
    · exact hcalls (World.calls_log hevent world)
    · exact hanswer rfl

end Loader

end ModuleSynthesis
