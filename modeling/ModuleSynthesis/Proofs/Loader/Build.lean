import ModuleSynthesis.Proofs.Check
import ModuleSynthesis.World

/-!
# What is built of a declaration

A loader is built as a whole or not at all. All globs of the declaration have to compile, those of
the rules and those of the allow-list; otherwise the first one that does not is to blame, where the
rules come before the allow-list.

* `RuleSpec.Becomes`, `LoaderSpec.Describes`: the rule and the loader that a declaration describes.
* `LoaderSpec.build_eq_ok_iff`: what is built is the loader that is described.
* `LoaderSpec.Blames`, `LoaderSpec.build_eq_error_iff`: the glob to blame where nothing is built.
* `World.install_whole_or_not`: a declaration is built and put at the end of the chain exactly if
  all its globs compile, and otherwise it blames the first one that does not and changes nothing.
-/

namespace ModuleSynthesis

variable {σ : Type} {index : Nat} {error : BuildError} {fresh : String}

theorem Glob.compile_eq_ok_iff {text : String} {glob : Glob} :
    compile text = .ok glob ↔ glob.text = text := by
  refine ⟨text_of_compile, ?_⟩
  rintro rfl
  exact glob.compile_text

/-! ## Rules -/

namespace RuleSpec

variable {spec : RuleSpec σ} {rule : Rule σ}

/-- The text of the glob of a declared rule. -/
def text : RuleSpec σ → String
  | .glob text _ => text
  | .compiled rule => rule.glob.text

/-- A declared rule becomes a rule: its glob is compiled, unless it was before. -/
inductive Becomes : RuleSpec σ → Rule σ → Prop
  | glob {text : String} {generator : Generator σ} {glob : Glob}
    (h : Glob.compile text = .ok glob) : Becomes (.glob text generator) ⟨glob, generator⟩
  | compiled (rule : Rule σ) : Becomes (.compiled rule) rule

theorem Becomes.text_glob (h : spec.Becomes rule) : rule.glob.text = spec.text := by
  cases h with
  | glob h => exact Glob.text_of_compile h
  | compiled => rfl

/-- Something becomes of a declared rule exactly if its glob compiles. -/
theorem exists_becomes_iff :
    (∃ rule, spec.Becomes rule) ↔ ∃ glob, Glob.compile spec.text = .ok glob := by
  constructor
  · rintro ⟨rule, h⟩
    exact ⟨rule.glob, Glob.compile_eq_ok_iff.mpr h.text_glob⟩
  · rintro ⟨glob, h⟩
    cases spec with
    | glob text generator => exact ⟨_, .glob h⟩
    | compiled rule => exact ⟨rule, .compiled rule⟩

/-- The rule of the declaration at an index. -/
def build (index : Nat) : RuleSpec σ → Except BuildError (Rule σ)
  | .glob text generator => (Rule.compile text generator).mapError (.rule index text)
  | .compiled rule => .ok rule

theorem build_eq_ok_iff : spec.build index = .ok rule ↔ spec.Becomes rule := by
  constructor
  · intro h
    cases spec with
    | glob text generator =>
      rw [build, Rule.compile] at h
      cases hglob : Glob.compile text with
      | error source => rw [hglob] at h; cases h
      | ok glob =>
        rw [hglob] at h
        cases h
        exact .glob hglob
    | compiled other =>
      cases h
      exact .compiled rule
  · rintro (h | -)
    · rw [build, Rule.compile, h]; rfl
    · rfl

theorem build_eq_error_iff : spec.build index = .error error ↔
    ∃ text generator source, spec = .glob text generator ∧ Glob.compile text = .error source ∧
      error = .rule index text source := by
  constructor
  · intro h
    cases spec with
    | glob text generator =>
      rw [build, Rule.compile] at h
      cases hglob : Glob.compile text with
      | error source =>
        rw [hglob] at h
        cases h
        exact ⟨text, generator, source, rfl, hglob, rfl⟩
      | ok glob => rw [hglob] at h; cases h
    | compiled => cases h
  · rintro ⟨text, generator, source, rfl, h, rfl⟩
    rw [build, Rule.compile, h]; rfl

end RuleSpec

theorem LoaderSpec.buildRules_eq_checkAll (first : Nat) (specs : List (RuleSpec σ)) :
    buildRules first specs = checkAll RuleSpec.build first specs := by
  induction specs generalizing first with
  | nil => rfl
  | cons spec specs ih =>
    rw [checkAll, ← ih]
    cases spec with
    | glob text generator =>
      simp only [buildRules, RuleSpec.build]
      cases Rule.compile text generator with
      | error => rfl
      | ok rule => cases buildRules (first + 1) specs <;> rfl
    | compiled rule =>
      simp only [buildRules, RuleSpec.build]
      cases buildRules (first + 1) specs <;> rfl

/-! ## Allow-lists -/

namespace AllowList

variable {texts : List String} {text : String}

/-- The glob of an allow-list that a text denotes. -/
def compileGlob (text : String) : Except BuildError Glob :=
  (Glob.compile text).mapError (.matchOnly text)

theorem compileGlob_eq_ok_iff {glob : Glob} : compileGlob text = .ok glob ↔ glob.text = text := by
  rw [← Glob.compile_eq_ok_iff, compileGlob]
  cases Glob.compile text <;> simp [Except.mapError]

theorem compileGlob_eq_error_iff : compileGlob text = .error error ↔
    ∃ source, Glob.compile text = .error source ∧ error = .matchOnly text source := by
  rw [compileGlob]
  cases Glob.compile text <;> simp [Except.mapError, eq_comm]

theorem compileGlobs_eq_checkAll (texts : List String) (first : Nat) :
    compileGlobs texts = checkAll (fun _ => compileGlob) first texts := by
  induction texts generalizing first with
  | nil => rfl
  | cons text texts ih =>
    rw [compileGlobs, checkAll, ih (first + 1), compileGlob]
    cases Glob.compile text with
    | error => rfl
    | ok glob => cases checkAll (fun _ => compileGlob) (first + 1) texts <;> rfl

theorem compileGlobs_eq_ok_iff {globs : List Glob} :
    compileGlobs texts = .ok globs ↔ globs.map (·.text) = texts := by
  have hglob (_ : Nat) (text : String) (glob : Glob) :
      compileGlob text = .ok glob ↔ text = glob.text := compileGlob_eq_ok_iff.trans eq_comm
  rw [compileGlobs_eq_checkAll texts 0, checkAll_eq_ok_iff hglob, eq_comm, ← List.forall₂_eq_eq_eq,
    List.forall₂_map_right_iff]

theorem compileGlobs_eq_error_iff : compileGlobs texts = .error error ↔
    ∃ before text after source, texts = before ++ text :: after ∧
      (∀ earlier ∈ before, ∃ glob, Glob.compile earlier = .ok glob) ∧
      Glob.compile text = .error source ∧ error = .matchOnly text source := by
  have hglob (_ : Nat) (text : String) (glob : Glob) :
      compileGlob text = .ok glob ↔ Glob.compile text = .ok glob :=
    compileGlob_eq_ok_iff.trans Glob.compile_eq_ok_iff.symm
  rw [compileGlobs_eq_checkAll texts 0, checkAll_eq_error_iff hglob]
  simp only [compileGlob_eq_error_iff]
  constructor
  · rintro ⟨before, text, after, heq, hbefore, source, h⟩
    exact ⟨before, text, after, source, heq, hbefore, h⟩
  · rintro ⟨before, text, after, source, heq, hbefore, h⟩
    exact ⟨before, text, after, heq, hbefore, source, h⟩

end AllowList

namespace LoaderSpec

variable {spec : LoaderSpec σ} {loader : Loader σ}

/-- The globs of an allow-list are those of its texts, in order; there is no list of no texts. -/
theorem buildAllowList_eq_ok_iff {texts : List String} {allowList? : Option AllowList} :
    buildAllowList texts = .ok allowList? ↔
      allowList?.map (·.globs.map (·.text)) = if texts = [] then none else some texts := by
  have hsome (globs : List Glob) :
      (AllowList.compile texts).map some = .ok (some ⟨globs⟩) ↔ globs.map (·.text) = texts := by
    rw [← AllowList.compileGlobs_eq_ok_iff, AllowList.compile]
    cases AllowList.compileGlobs texts <;> simp [Except.map]
  have hnone : (AllowList.compile texts).map some ≠ .ok none := by
    cases AllowList.compile texts <;> simp [Except.map]
  rw [buildAllowList]
  rcases allowList? with _ | ⟨globs⟩
  · split <;> simp [hnone]
  · split
    · simp
    · simp [hsome]

theorem buildAllowList_eq_error_iff {texts : List String} :
    buildAllowList texts = .error error ↔ AllowList.compileGlobs texts = .error error := by
  rw [buildAllowList]
  split
  · next h => rw [h, AllowList.compileGlobs]; simp
  · rw [AllowList.compile]
    cases AllowList.compileGlobs texts <;> simp [Except.map]

/-! ## Declarations -/

/-- The loader that a declaration describes; `fresh` is its id where none is declared. Its rules
are those that are declared, and so are the globs of its allow-list, both in order. -/
structure Describes (spec : LoaderSpec σ) (fresh : String) (loader : Loader σ) : Prop where
  id : loader.id = spec.id?.getD fresh
  rules : List.Forall₂ RuleSpec.Becomes spec.rules loader.rules
  allowList : loader.allowList?.map (·.globs.map (·.text)) =
    if spec.matchOnly = [] then none else some spec.matchOnly
  fragmentPolicy : loader.fragmentPolicy = spec.fragmentPolicy
  style : loader.style = spec.style
  registry : loader.registry = spec.registry

/-- All globs of a declaration compile, those of the rules and those of the allow-list. -/
structure Compiles (spec : LoaderSpec σ) : Prop where
  rules : ∀ rule ∈ spec.rules, ∃ glob, Glob.compile rule.text = .ok glob
  matchOnly : ∀ text ∈ spec.matchOnly, ∃ glob, Glob.compile text = .ok glob

/-- The error for the first glob of a declaration that does not compile. -/
inductive Blames (spec : LoaderSpec σ) : BuildError → Prop
  /-- It is that of a rule, which is told by its place among all rules. -/
  | rule {before after : List (RuleSpec σ)} {text : String} {generator : Generator σ}
    {source : GlobError} (rules : spec.rules = before ++ .glob text generator :: after)
    (earlier : ∀ rule ∈ before, ∃ glob, Glob.compile rule.text = .ok glob)
    (h : Glob.compile text = .error source) : Blames spec (.rule before.length text source)
  /-- Those of the rules compile, and it is one of the allow-list. -/
  | matchOnly {before after : List String} {text : String} {source : GlobError}
    (rules : ∀ rule ∈ spec.rules, ∃ glob, Glob.compile rule.text = .ok glob)
    (matchOnly : spec.matchOnly = before ++ text :: after)
    (earlier : ∀ text ∈ before, ∃ glob, Glob.compile text = .ok glob)
    (h : Glob.compile text = .error source) : Blames spec (.matchOnly text source)

theorem buildRules_eq_ok_iff {first : Nat} {specs : List (RuleSpec σ)} {rules : List (Rule σ)} :
    buildRules first specs = .ok rules ↔ List.Forall₂ RuleSpec.Becomes specs rules := by
  rw [buildRules_eq_checkAll, checkAll_eq_ok_iff fun _ _ _ => RuleSpec.build_eq_ok_iff]

/-- What is built is the loader that is described. -/
theorem build_eq_ok_iff : spec.build fresh = .ok loader ↔ spec.Describes fresh loader := by
  constructor
  · intro h
    rw [build] at h
    split at h
    · cases h
    · next rules hrules =>
      split at h
      · cases h
      · next allowList? hallowList =>
        cases h
        exact ⟨rfl, buildRules_eq_ok_iff.mp hrules, buildAllowList_eq_ok_iff.mp hallowList, rfl,
          rfl, rfl⟩
  · intro h
    rw [build, buildRules_eq_ok_iff.mpr h.rules]
    dsimp only
    rw [buildAllowList_eq_ok_iff.mpr h.allowList]
    dsimp only
    rw [← h.id, ← h.fragmentPolicy, ← h.style, ← h.registry]

theorem buildRules_eq_error_iff {specs : List (RuleSpec σ)} :
    buildRules 0 specs = .error error ↔ ∃ before text generator after source,
      specs = before ++ .glob text generator :: after ∧
        (∀ earlier ∈ before, ∃ glob, Glob.compile earlier.text = .ok glob) ∧
        Glob.compile text = .error source ∧ error = .rule before.length text source := by
  rw [buildRules_eq_checkAll, checkAll_eq_error_iff fun _ _ _ => RuleSpec.build_eq_ok_iff]
  simp only [RuleSpec.build_eq_error_iff, RuleSpec.exists_becomes_iff, Nat.zero_add]
  constructor
  · rintro ⟨before, _, after, heq, hbefore, text, generator, source, rfl, h⟩
    exact ⟨before, text, generator, after, source, heq, hbefore, h⟩
  · rintro ⟨before, text, generator, after, source, heq, hbefore, h⟩
    exact ⟨before, _, after, heq, hbefore, text, generator, source, rfl, h⟩

theorem exists_buildRules_iff {specs : List (RuleSpec σ)} :
    (∃ rules, buildRules 0 specs = .ok rules) ↔
      ∀ rule ∈ specs, ∃ glob, Glob.compile rule.text = .ok glob := by
  constructor
  · rintro ⟨rules, h⟩ rule hrule
    obtain ⟨built, -, hbuilt⟩ := (buildRules_eq_ok_iff.mp h).exists_of_mem_left hrule
    exact RuleSpec.exists_becomes_iff.mp ⟨built, hbuilt⟩
  · intro h
    cases hrules : buildRules 0 specs with
    | ok rules => exact ⟨rules, rfl⟩
    | error error =>
      obtain ⟨before, text, generator, after, source, rfl, -, hsource, -⟩ :=
        buildRules_eq_error_iff.mp hrules
      obtain ⟨glob, hglob⟩ := h (.glob text generator) (List.mem_append_right _ List.mem_cons_self)
      cases hsource.symm.trans hglob

/-- Where nothing is built, the first glob that does not compile is to blame. -/
theorem build_eq_error_iff : spec.build fresh = .error error ↔ spec.Blames error := by
  constructor
  · intro h
    rw [build] at h
    split at h
    · next hrules =>
      cases h
      obtain ⟨before, text, generator, after, source, heq, hbefore, hsource, rfl⟩ :=
        buildRules_eq_error_iff.mp hrules
      exact .rule heq hbefore hsource
    · next rules hrules =>
      split at h
      · next hallowList =>
        cases h
        obtain ⟨before, text, after, source, heq, hbefore, hsource, rfl⟩ :=
          AllowList.compileGlobs_eq_error_iff.mp (buildAllowList_eq_error_iff.mp hallowList)
        exact .matchOnly (exists_buildRules_iff.mp ⟨rules, hrules⟩) heq hbefore hsource
      · cases h
  · intro h
    rw [build]
    cases h with
    | rule heq hbefore hsource =>
      rw [buildRules_eq_error_iff.mpr ⟨_, _, _, _, _, heq, hbefore, hsource, rfl⟩]
    | matchOnly hcompile heq hbefore hsource =>
      obtain ⟨rules, hrules⟩ := exists_buildRules_iff.mpr hcompile
      have hallowList := buildAllowList_eq_error_iff.mpr
        (AllowList.compileGlobs_eq_error_iff.mpr ⟨_, _, _, _, heq, hbefore, hsource, rfl⟩)
      rw [hrules]
      dsimp only
      rw [hallowList]

/-- The rules of a loader carry the globs that were declared, in order. -/
theorem Describes.texts_rules (h : spec.Describes fresh loader) :
    loader.rules.map (·.glob.text) = spec.rules.map RuleSpec.text := by
  have htexts : List.Forall₂ (fun declared rule => rule.glob.text = declared.text)
      spec.rules loader.rules := h.rules.imp fun _ _ hrule => hrule.text_glob
  rw [← List.forall₂_eq_eq_eq, List.forall₂_map_left_iff, List.forall₂_map_right_iff]
  exact htexts.flip

theorem Describes.compiles (h : spec.Describes fresh loader) : spec.Compiles := by
  refine ⟨exists_buildRules_iff.mp ⟨_, buildRules_eq_ok_iff.mpr h.rules⟩, fun text htext => ?_⟩
  have hlist := h.allowList
  rw [if_neg (List.ne_nil_of_mem htext)] at hlist
  obtain ⟨allowList, -, heq⟩ := Option.map_eq_some_iff.mp hlist
  rw [← heq] at htext
  obtain ⟨glob, -, rfl⟩ := List.mem_map.mp htext
  exact ⟨glob, glob.compile_text⟩

theorem Blames.not_compiles (h : spec.Blames error) : ¬ spec.Compiles := by
  intro hcompiles
  cases h with
  | rule heq _ hsource =>
    obtain ⟨glob, hglob⟩ := hcompiles.rules (.glob _ _)
      (heq ▸ List.mem_append_right _ List.mem_cons_self)
    cases hsource.symm.trans hglob
  | matchOnly _ heq _ hsource =>
    obtain ⟨glob, hglob⟩ := hcompiles.matchOnly _ (heq ▸ List.mem_append_right _ List.mem_cons_self)
    cases hsource.symm.trans hglob

/-- A declaration is built exactly if all its globs compile. -/
theorem exists_build_iff : (∃ loader, spec.build fresh = .ok loader) ↔ spec.Compiles := by
  constructor
  · rintro ⟨loader, h⟩
    exact (build_eq_ok_iff.mp h).compiles
  · intro h
    cases hbuild : spec.build fresh with
    | ok loader => exact ⟨loader, rfl⟩
    | error error => exact absurd h (build_eq_error_iff.mp hbuild).not_compiles

end LoaderSpec

/-- A declaration is built exactly if all its globs compile. The loader has the declared rules and
the declared allow-list, both in order, and is put at the end of the chain of a world in which
nothing else changes. Otherwise the error is that of the first glob that does not compile, where a
rule is told by its place among all rules and comes before the allow-list, and nothing changes. -/
theorem World.install_whole_or_not (spec : LoaderSpec σ) (fresh : String) (world : World σ) :
    ((∃ loader, spec.build fresh = .ok loader) ↔ spec.Compiles) ∧
    (∀ loader, spec.build fresh = .ok loader →
      spec.Describes fresh loader ∧
      loader.rules.map (·.glob.text) = spec.rules.map RuleSpec.text ∧
      world.install spec fresh = (.ok loader, { world with
        chain := { world.chain with resolvers := world.chain.resolvers ++ [.loader loader] } })) ∧
    ∀ error, (spec.build fresh = .error error ↔ spec.Blames error) ∧
      (spec.build fresh = .error error → world.install spec fresh = (.error error, world)) := by
  refine ⟨LoaderSpec.exists_build_iff, fun loader h => ?_, fun error =>
    ⟨LoaderSpec.build_eq_error_iff, fun h => ?_⟩⟩
  · have hdescribes := LoaderSpec.build_eq_ok_iff.mp h
    refine ⟨hdescribes, hdescribes.texts_rules, ?_⟩
    rw [install, LoaderSpec.install, h]
    rfl
  · rw [install, LoaderSpec.install, h]

example (rule : Rule Unit) (generator : Generator Unit) (world : World Unit) :
    world.install
      { rules := [.compiled rule, .glob "App::*" generator, .glob "" generator]
        matchOnly := [""] } "fresh" = (.error (.rule 2 "" .empty), world) := by rfl

end ModuleSynthesis
