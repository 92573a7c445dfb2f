import ModuleSynthesis.Proofs.Manifest.Answer
import ModuleSynthesis.Proofs.Manifest.Declared

/-!
# Failures of an installed manifest

A manifest is checked when it is compiled, and nothing that is checked then depends on the registry
or on the chain. After that only its own failing rules fail.

* `CompiledLoader.exists_fails_of_firstAnswer`: loaders fail a name only by a failing rule that
  matches it.
* `Manifest.MayAnswer`: the answers that the rules of a manifest allow for a name.
* `Manifest.fails_only_by_rule`: a manifest that has compiled once compiles and installs everywhere,
  and a freshly installed one gives only such answers.
-/

namespace ModuleSynthesis

variable {σ : Type}

/-! ## Failing rules -/

/-- A failing rule matches a name, and its message says so with what the glob has captured. -/
def CompiledRule.Fails (rule : CompiledRule) (name : String) (error : DispatchError) : Prop :=
  rule.action = .fail ∧ ∃ captures, rule.glob.captures? name = some captures ∧
    error = .generator name rule.glob.text (.message (rule.message.render name captures))

namespace CompiledLoader

variable {loader : CompiledLoader} {name : String} {error : DispatchError}

theorem exists_fail_of_conclude {rules : List (CompiledRule × List String)}
    {carried : List String} (h : loader.conclude name rules carried = .error error) :
    ∃ rule captures, (rule, captures) ∈ rules ∧ rule.action = .fail ∧
      error = .generator name rule.glob.text (.message (rule.message.render name captures)) := by
  induction rules generalizing carried with
  | nil => cases h
  | cons head rules ih =>
    obtain ⟨rule, captures⟩ := head
    rw [conclude] at h
    by_cases haction : rule.action = .fail
    · simp only [CompiledRule.outcome_of_fail haction, Except.error.injEq] at h
      exact ⟨rule, captures, List.mem_cons_self, haction, h.symm⟩
    · obtain ⟨exit, houtcome, hexit⟩ :=
        CompiledRule.outcome_of_ne_fail haction ⟨name, captures, carried⟩
      simp only [houtcome] at h
      cases exit with
      | done => cases h
      | stop => cases h
      | next =>
        obtain ⟨later, others, hmem, hfails⟩ := ih h
        exact ⟨later, others, List.mem_cons_of_mem _ hmem, hfails⟩
      | fail cause => exact absurd rfl (hexit cause)

theorem exists_fails_of_answer (h : loader.answer name = .error error) :
    ∃ rule ∈ loader.rules, rule.Fails name error := by
  rw [answer] at h
  split at h
  · obtain ⟨rule, captures, hmem, haction, herror⟩ := exists_fail_of_conclude h
    obtain ⟨hrule, hcaptures⟩ := mem_matching_iff.mp hmem
    exact ⟨rule, hrule, haction, captures, hcaptures, herror⟩
  · cases h

/-- Loaders fail a name only by a failing rule that matches it. -/
theorem exists_fails_of_firstAnswer {loaders : List CompiledLoader}
    (h : firstAnswer loaders name = .error error) :
    ∃ loader ∈ loaders, ∃ rule ∈ loader.rules, rule.Fails name error := by
  obtain ⟨loader, hloader, hanswer⟩ := exists_answer_of_firstAnswer (by rw [h]; exact nofun)
  exact ⟨loader, hloader, exists_fails_of_answer (hanswer.trans h)⟩

end CompiledLoader

namespace Manifest

/-! ## Answers of a manifest -/

/-- The answers that the rules of a manifest allow for a name. -/
inductive MayAnswer (manifest : Manifest) (name : String) : Answer → Prop
  /-- A unit, or nothing. -/
  | settled (unit? : Option SourceUnit) : MayAnswer manifest name (.ok unit?)
  /-- The failure of a declared rule that is there to fail: its glob matches the name, and the cause
  is its message, filled in with the name and with what the glob has captured. -/
  | failed {entry : LoaderEntry} {rule : RuleEntry} {glob : Glob} {captures : List String}
    {text : String} {template : Template} (declared : entry ∈ manifest.loaders)
    (listed : rule ∈ entry.rules) (fails : rule.action = .fail)
    (compiled : Glob.compile rule.pattern = .ok glob)
    (matched : glob.captures? name = some captures) (message : rule.message? = some text)
    (parsed : Template.parse text = .ok template) :
    MayAnswer manifest name
      (.error (.generator name rule.pattern (.message (template.render name captures))))

variable {manifest : Manifest}

theorem mayAnswer_firstAnswer {loaders : List CompiledLoader}
    (h : manifest.declared = .ok loaders) (name : String) :
    manifest.MayAnswer name (CompiledLoader.firstAnswer loaders name) := by
  cases hanswer : CompiledLoader.firstAnswer loaders name with
  | ok unit? => exact .settled unit?
  | error error =>
    obtain ⟨loader, hloader, rule, hrule, haction, captures, hcaptures, rfl⟩ :=
      CompiledLoader.exists_fails_of_firstAnswer hanswer
    obtain ⟨entry, hentry, hdeclare⟩ :=
      (LoaderEntry.declares_of_declareAll h).exists_of_mem_right hloader
    obtain ⟨declared, hdeclared, hbecomes⟩ :=
      (LoaderEntry.becomes_of_declare hdeclare).rules.exists_of_mem_right hrule
    have hfail : declared.action = .fail := hbecomes.action.symm.trans haction
    obtain ⟨text, hmessage, htemplate⟩ := hbecomes.message hfail
    rw [hbecomes.text_glob]
    exact .failed hentry hdeclared hfail hbecomes.glob hcaptures hmessage
      (Glob.templateFor_eq_ok_iff.mp htemplate).1

/-- A freshly installed manifest gives only such answers, one for each request. -/
theorem exists_replies_of_declared {loaders : List CompiledLoader}
    (h : manifest.declared = .ok loaders) (memory : σ) (keeps : Bool) (extension now : String)
    (level : Nat) (requests : List String) :
    ∃ world replies after,
      manifest.world memory (.fresh keeps extension) now =
        .ok (loaders.map (·.toLoader (.own 0)), world) ∧
      World.performAll (level + 1) (requests.map .resolve) world = some (replies, after) ∧
      List.Forall₂ (fun request reply => ∃ answer, reply = .answered answer ∧
        manifest.MayAnswer (Name.ofRequest request) answer) requests replies := by
  obtain ⟨world, hworld, hagrees⟩ := Manifest.world_agreesWith h memory keeps extension now
  obtain ⟨after, hperform⟩ := hagrees.performAll level requests
  refine ⟨world, _, after, hworld, hperform, ?_⟩
  rw [List.forall₂_map_right_iff, List.forall₂_same]
  exact fun request _ => ⟨_, rfl, mayAnswer_firstAnswer h _⟩

theorem install_of_declared {loaders : List CompiledLoader} (h : manifest.declared = .ok loaders)
    (registry : RegistryId) (chain : Chain σ) :
    manifest.install registry chain = .ok (loaders.map (·.toLoader registry),
      { chain with resolvers := chain.resolvers ++
          (loaders.map (·.toLoader registry)).map .loader }) := by
  rw [install, compile_of_declared h]
  dsimp only
  rw [Chain.register_all]

/-- A manifest that has compiled once compiles for every registry and can be put at the end of every
chain: there is one loader for each entry, in order, and no two of them have one id. Installed in a
chain of its own with a fresh registry of its policy, it answers every request of a session with a
unit, with nothing, or with the message of a failing rule; no record is ever refused. -/
theorem fails_only_by_rule {first : RegistryId} {once : List (Loader σ)}
    (h : manifest.compile first = .ok once) :
    (∀ registry (chain : Chain σ), ∃ loaders,
      manifest.compile registry = .ok loaders ∧
      manifest.install registry chain =
        .ok (loaders, { chain with resolvers := chain.resolvers ++ loaders.map .loader }) ∧
      List.Forall₂ (fun entry loader =>
        entry.compile manifest.style registry loader.id = .ok loader) manifest.loaders loaders ∧
      loaders.map (·.id) = manifest.loaderIds) ∧
    manifest.loaderIds.Nodup ∧
    ∀ (memory : σ) (keeps : Bool) (extension now : String) (level : Nat) (requests : List String),
      ∃ loaders world replies after,
        manifest.world memory (.fresh keeps extension) now = .ok (loaders, world) ∧
        World.performAll (level + 1) (requests.map .resolve) world = some (replies, after) ∧
        List.Forall₂ (fun request reply => ∃ answer, reply = .answered answer ∧
          manifest.MayAnswer (Name.ofRequest request) answer) requests replies ∧
        ∀ error, .answered (.error (.registry error)) ∉ replies := by
  obtain ⟨declared, hdeclared, -⟩ := exists_declared_of_compile h
  refine ⟨fun registry chain => ?_, ?_, fun memory keeps extension now level requests => ?_⟩
  · refine ⟨_, compile_of_declared hdeclared registry, install_of_declared hdeclared registry chain,
      ?_, ?_⟩
    · rw [List.forall₂_map_right_iff]
      refine (LoaderEntry.declares_of_declareAll hdeclared).imp fun entry loader hdeclare => ?_
      rw [LoaderEntry.compile_eq, CompiledLoader.toLoader_id, hdeclare]
      rfl
    · rw [List.map_map, ← ids_of_declared hdeclared]
      rfl
  · rw [← ids_of_declared hdeclared]
    exact (LoaderEntry.nodup_of_declareAll hdeclared).1
  · obtain ⟨world, replies, after, hworld, hperform, hanswers⟩ :=
      exists_replies_of_declared hdeclared memory keeps extension now level requests
    refine ⟨_, world, replies, after, hworld, hperform, hanswers, fun error hmem => ?_⟩
    obtain ⟨request, -, answer, hreply, hanswer⟩ := hanswers.exists_of_mem_right hmem
    cases hreply
    -- No answer that the rules allow is a refused record.
    cases hanswer

end Manifest

/-- A loader that refuses some of its names, before one that takes up all of them, under the policy
that refuses second records. -/
def retired : Manifest where
  policy := .rejectDuplicates
  loaders := [
    { id? := some "views"
      rules := [
        { pattern := "App::Old::*"
          action := .fail
          message? := some "{name} is gone, use App::{1}" },
        { pattern := "App::Home", action := .next, fragments := ["our $home;"] }] },
    { rules := [{ pattern := "App::**", fragments := ["# {1}"] }] }]

def retiredLoaders : List CompiledLoader := [
  { id := "views"
    rules := [
      { glob := ⟨"App::Old::*", [.literal "App", .literal "Old", .one], by decide, by decide⟩
        action := .fail
        fragments := []
        message := ⟨[.name, .text " is gone, use App::", .capture 1]⟩ },
      { glob := ⟨"App::Home", [.literal "App", .literal "Home"], by decide, by decide⟩
        action := .next
        fragments := [⟨[.text "our $home;"]⟩]
        message := ⟨[]⟩ }]
    allowList? := none
    fragmentPolicy := .discard
    style := {} },
  { id := "loader.1"
    rules := [
      { glob := .appTree
        action := .emit
        fragments := [⟨[.text "# ", .capture 1]⟩]
        message := ⟨[]⟩ }]
    allowList? := none
    fragmentPolicy := .discard
    style := {} }]

theorem retired_fails_only_by_rule :
    (retired.compile .shared : Except ManifestError (List (Loader Unit))) =
        .ok (retiredLoaders.map (·.toLoader .shared)) ∧
      (∀ registry (chain : Chain Unit), ∃ loaders,
        retired.compile registry = .ok loaders ∧
        retired.install registry chain =
          .ok (loaders, { chain with resolvers := chain.resolvers ++ loaders.map .loader }) ∧
        List.Forall₂ (fun entry loader =>
          entry.compile retired.style registry loader.id = .ok loader) retired.loaders loaders ∧
        loaders.map (·.id) = retired.loaderIds) ∧
      retired.loaderIds.Nodup ∧
      ∃ loaders world replies after,
        retired.world () (.fresh true "pm") "" = .ok (loaders, world) ∧
        World.performAll 1 (["App/Old/View.pm", "App::Home", "App/Home.pm"].map .resolve) world =
          some (replies, after) ∧
        List.Forall₂ (fun request reply => ∃ answer, reply = .answered answer ∧
          retired.MayAnswer (Name.ofRequest request) answer)
          ["App/Old/View.pm", "App::Home", "App/Home.pm"] replies ∧
        ∀ error, .answered (.error (.registry error)) ∉ replies :=
  have declared : retired.declared = .ok retiredLoaders := by decide +kernel
  have compiled : (retired.compile .shared : Except ManifestError (List (Loader Unit))) =
      .ok (retiredLoaders.map (·.toLoader .shared)) := Manifest.compile_of_declared declared _
  have ⟨anywhere, distinct, session⟩ := Manifest.fails_only_by_rule compiled
  ⟨compiled, anywhere, distinct, session () true "pm" "" 0 _⟩

/-- The failing rule is reached, and its message is filled in. -/
example : CompiledLoader.firstAnswer retiredLoaders "App::Old::View" =
    .error (.generator "App::Old::View" "App::Old::*"
      (.message "App::Old::View is gone, use App::View")) := by
  rfl

end ModuleSynthesis
