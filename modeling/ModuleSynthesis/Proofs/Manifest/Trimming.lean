import ModuleSynthesis.Proofs.Loaded
import ModuleSynthesis.Proofs.Manifest.Account
import ModuleSynthesis.Proofs.Manifest.Decision

/-!
# Rules that leave nothing

A rule that passes a name on leaves nothing in a loader that discards, and a rule that stops the
search does no more than one that emits. So a manifest may lose the former, and have the latter
rewritten, without anybody telling the difference.

* `RuleEntry.Trimmed`, `Manifest.Trimmed`: what may be deleted and rewritten.
* `CompiledLoader.ConcludesAlike`: rules that come to the same answers, one lemma for each edit.
* `World.Accounts.loadedPaths_eq`: what a chain has loaded is determined by the answers.
* `Manifest.Trimmed.unobservable`: sessions with the one manifest and with the other are alike.
-/

namespace ModuleSynthesis

variable {σ : Type}

/-! ## Edits -/

/-- Rules of a loader, some of which are deleted or rewritten: where the loader discards, such as
pass names on may be deleted; such as stop may emit instead. -/
inductive RuleEntry.Trimmed (policy : FragmentPolicy) : List RuleEntry → List RuleEntry → Prop
  /-- There are none. -/
  | nil : Trimmed policy [] []
  /-- A rule is left alone. -/
  | kept (rule : RuleEntry) {rules others : List RuleEntry} (rest : Trimmed policy rules others) :
    Trimmed policy (rule :: rules) (rule :: others)
  /-- A rule that passes names on is deleted. -/
  | deleted {rule : RuleEntry} {rules others : List RuleEntry} (discards : policy = .discard)
    (passes : rule.action = .next) (rest : Trimmed policy rules others) :
    Trimmed policy (rule :: rules) others
  /-- A rule that stops emits instead. -/
  | relaxed {rule : RuleEntry} {rules others : List RuleEntry} (stops : rule.action = .stop)
    (rest : Trimmed policy rules others) :
    Trimmed policy (rule :: rules) ({ rule with action := .emit } :: others)

/-- A loader with some of its rules deleted or rewritten. -/
structure LoaderEntry.Trimmed (entry other : LoaderEntry) : Prop where
  id_eq : other.id? = entry.id?
  matchOnly_eq : other.matchOnly? = entry.matchOnly?
  fragmentPolicy_eq : other.fragmentPolicy = entry.fragmentPolicy
  rules : RuleEntry.Trimmed entry.fragmentPolicy entry.rules other.rules

/-- A manifest with some rules of its loaders deleted or rewritten. -/
structure Manifest.Trimmed (manifest other : Manifest) : Prop where
  style_eq : other.style = manifest.style
  policy_eq : other.policy = manifest.policy
  loaders : List.Forall₂ LoaderEntry.Trimmed manifest.loaders other.loaders

/-! ## Rules -/

namespace CompiledLoader

/-- Lists of rules come to the same answers in all loaders of a policy, whatever these carry. -/
def ConcludesAlike (policy : FragmentPolicy) (rules others : List CompiledRule) : Prop :=
  ∀ (loader : CompiledLoader) (name : String) (carried : List String),
    loader.fragmentPolicy = policy →
      loader.conclude name (matching others name) (loader.carry carried) =
        loader.conclude name (matching rules name) (loader.carry carried)

/-- Apart from its rules, the answers of a loader depend on its id, its style and its policy. -/
theorem conclude_congr (loader other : CompiledLoader) (hid : other.id = loader.id)
    (hstyle : other.style = loader.style) (hpolicy : other.fragmentPolicy = loader.fragmentPolicy)
    (name : String) (rules : List (CompiledRule × List String)) (carried : List String) :
    other.conclude name rules carried = loader.conclude name rules carried := by
  induction rules generalizing carried with
  | nil => rfl
  | cons first rules ih =>
    have hcarry (fragments : List String) : other.carry fragments = loader.carry fragments := by
      rw [carry, carry, hpolicy]
    rw [conclude, conclude]
    simp only [hid, hstyle, hcarry, ih]

namespace ConcludesAlike

variable {policy : FragmentPolicy} {rules others : List CompiledRule} {rule : CompiledRule}

theorem cons (h : ConcludesAlike policy rules others) (rule : CompiledRule) :
    ConcludesAlike policy (rule :: rules) (rule :: others) := by
  intro loader name carried hpolicy
  cases hcaptures : rule.glob.captures? name with
  | none =>
    rw [matching_cons_of_not_match hcaptures, matching_cons_of_not_match hcaptures]
    exact h loader name carried hpolicy
  | some captures =>
    rw [matching_cons_of_captures? hcaptures, matching_cons_of_captures? hcaptures]
    by_cases hnext : rule.action = .next
    · rw [conclude_cons_of_next hnext, conclude_cons_of_next hnext]
      exact h loader name _ hpolicy
    · rw [conclude_cons_of_ne_next hnext, conclude_cons_of_ne_next hnext]

/-- A rule that passes names on leaves nothing to the next one where the loader discards. -/
theorem delete (h : ConcludesAlike .discard rules others) (hnext : rule.action = .next) :
    ConcludesAlike .discard (rule :: rules) others := by
  intro loader name carried hpolicy
  have hnothing (fragments : List String) : loader.carry fragments = loader.carry carried := by
    rw [carry, carry, hpolicy]
  rw [h loader name carried hpolicy]
  cases hcaptures : rule.glob.captures? name with
  | none => rw [matching_cons_of_not_match hcaptures]
  | some captures =>
    rw [matching_cons_of_captures? hcaptures, conclude_cons_of_next hnext,
      hnothing (loader.carry carried ++ _)]

/-- What is declared behind a rule that emits is not looked at either. -/
theorem relax (h : ConcludesAlike policy rules others) (hstop : rule.action = .stop) :
    ConcludesAlike policy (rule :: rules) ({ rule with action := .emit } :: others) := by
  intro loader name carried hpolicy
  let emitting : CompiledRule := { rule with action := .emit }
  have hstops : rule.action ≠ .next ∧ rule.action ≠ .fail := by rw [hstop]; exact ⟨nofun, nofun⟩
  have hemits : emitting.action ≠ .next ∧ emitting.action ≠ .fail := ⟨nofun, nofun⟩
  cases hcaptures : rule.glob.captures? name with
  | none =>
    have hemitting : emitting.glob.captures? name = none := hcaptures
    rw [matching_cons_of_not_match hcaptures, matching_cons_of_not_match hemitting]
    exact h loader name carried hpolicy
  | some captures =>
    have hemitting : emitting.glob.captures? name = some captures := hcaptures
    rw [matching_cons_of_captures? hcaptures, matching_cons_of_captures? hemitting,
      conclude_cons_of_ne_next hstops.1, conclude_cons_of_ne_next hemits.1, verdict, verdict,
      if_neg hstops.2, if_neg hemits.2]

end ConcludesAlike

end CompiledLoader

namespace RuleEntry

/-- A rule that emits in the place of one that stops becomes just that. -/
theorem Becomes.relax {entry : RuleEntry} {rule : CompiledRule} (h : entry.Becomes rule)
    (hstop : entry.action = .stop) :
    { entry with action := .emit }.Becomes { rule with action := .emit } := by
  have hsilent := h.silent (by rw [hstop]; exact nofun)
  exact ⟨h.glob, rfl, h.fragments, nofun, fun _ => hsilent⟩

/-- What is left of rules compiles, and comes to the same answers. -/
theorem Trimmed.exists_becomes {policy : FragmentPolicy} {entries others : List RuleEntry}
    (h : Trimmed policy entries others) {rules : List CompiledRule}
    (hrules : List.Forall₂ Becomes entries rules) :
    ∃ left, List.Forall₂ Becomes others left ∧
      CompiledLoader.ConcludesAlike policy rules left := by
  -- One edit at a time: what stands behind it comes to the same answers already.
  induction h generalizing rules with
  | nil =>
    cases hrules
    exact ⟨[], .nil, fun _ _ _ _ => rfl⟩
  | kept entry _ ih =>
    obtain ⟨rule, rules, hrule, hrest, rfl⟩ := List.forall₂_cons_left_iff.mp hrules
    obtain ⟨left, hleft, halike⟩ := ih hrest
    exact ⟨rule :: left, .cons hrule hleft, halike.cons rule⟩
  | deleted discards passes _ ih =>
    obtain ⟨rule, rules, hrule, hrest, rfl⟩ := List.forall₂_cons_left_iff.mp hrules
    obtain ⟨left, hleft, halike⟩ := ih hrest
    subst discards
    exact ⟨left, hleft, halike.delete (hrule.action.trans passes)⟩
  | relaxed stops _ ih =>
    obtain ⟨rule, rules, hrule, hrest, rfl⟩ := List.forall₂_cons_left_iff.mp hrules
    obtain ⟨left, hleft, halike⟩ := ih hrest
    exact ⟨{ rule with action := .emit } :: left, .cons (hrule.relax stops) hleft,
      halike.relax (hrule.action.trans stops)⟩

end RuleEntry

/-! ## Loaders -/

namespace LoaderEntry

variable {entry other : LoaderEntry} {entries others : List LoaderEntry} {style : Style}

/-- What is left of a loader compiles under the same id, and answers every name as before. -/
theorem Trimmed.exists_becomes (h : entry.Trimmed other) {id : String} {loader : CompiledLoader}
    (hb : entry.Becomes style id loader) :
    ∃ left, other.Becomes style id left ∧ ∀ name, left.answer name = loader.answer name := by
  obtain ⟨rules, hrules, halike⟩ := h.rules.exists_becomes hb.rules
  refine ⟨{ loader with rules }, ⟨hb.id_eq, hrules, ?_, ?_, hb.style_eq⟩, fun name => ?_⟩
  · rw [matchOnly, h.matchOnly_eq]
    exact hb.allowList
  · rw [h.fragmentPolicy_eq]
    exact hb.fragmentPolicy_eq
  · have hconclude := halike loader name [] hb.fragmentPolicy_eq
    rw [CompiledLoader.carry_nil] at hconclude
    -- The rules were compared within the one loader, which is to have those that are left.
    have hsame : { loader with rules }.conclude name (CompiledLoader.matching rules name) [] =
        loader.conclude name (CompiledLoader.matching rules name) [] :=
      CompiledLoader.conclude_congr loader { loader with rules } rfl rfl rfl name _ _
    rw [CompiledLoader.answer, CompiledLoader.answer, hsame, hconclude]
    rfl

theorem exists_declareAll_of_trimmed (h : List.Forall₂ Trimmed entries others) {first : Nat}
    {seen : List String} {loaders : List CompiledLoader}
    (hd : declareAll style first seen entries = .ok loaders) :
    ∃ left, declareAll style first seen others = .ok left ∧
      ∀ name, CompiledLoader.firstAnswer left name = CompiledLoader.firstAnswer loaders name := by
  induction h generalizing first seen loaders with
  | nil =>
    cases hd
    exact ⟨[], rfl, fun _ => rfl⟩
  | @cons entry other entries others hfirst _ ih =>
    obtain ⟨loader, rest, rfl, hnew, hdeclare, hrest⟩ := exists_cons_of_declareAll hd
    obtain ⟨left, hleft, hanswer⟩ := hfirst.exists_becomes (becomes_of_declare hdeclare)
    obtain ⟨lefts, hlefts, hanswers⟩ := ih hrest
    have hid : other.idAt first = entry.idAt first := by rw [idAt, idAt, hfirst.id_eq]
    refine ⟨left :: lefts, ?_, fun name => ?_⟩
    · rw [declareAll, hid, if_neg hnew, hleft.declare]
      dsimp only
      rw [hlefts]
    · rw [CompiledLoader.firstAnswer, CompiledLoader.firstAnswer, hanswer, hanswers]

end LoaderEntry

/-- What is left of a manifest compiles, and its loaders answer every name as before. -/
theorem Manifest.Trimmed.exists_declared {manifest other : Manifest}
    (h : manifest.Trimmed other) {loaders : List CompiledLoader}
    (hd : manifest.declared = .ok loaders) :
    ∃ left, other.declared = .ok left ∧
      ∀ name, CompiledLoader.firstAnswer left name = CompiledLoader.firstAnswer loaders name := by
  rw [Manifest.declared, h.style_eq]
  exact LoaderEntry.exists_declareAll_of_trimmed h.loaders hd

/-! ## Sessions -/

namespace World.Accounts

variable {world other : World σ} {registry : RegistryId} {loaders others : List CompiledLoader}
  {asked : List String} (h : world.Accounts registry loaders asked)
  (h' : other.Accounts registry others asked)
  (hanswers : ∀ name,
    CompiledLoader.firstAnswer others name = CompiledLoader.firstAnswer loaders name)

include h h' hanswers

/-- What is on record is determined by the answers, apart from the times. -/
theorem sameButTime
    (hpolicy : (other.registries registry).policy = (world.registries registry).policy) :
    (world.registries registry).SameButTime (other.registries registry) :=
  ⟨hpolicy, fun name => by rw [h.recorded, h'.recorded, hanswers]⟩

/-- So is what is loaded, where both chains keep units or neither does. -/
theorem loadedPaths_eq (hkeeps : other.chain.loaded?.isSome = world.chain.loaded?.isSome)
    (hextension : other.chain.extension = world.chain.extension) :
    other.chain.loadedPaths = world.chain.loadedPaths := by
  refine loadedPaths_eq_of_unitAt? fun path => Option.ext fun unit => ?_
  have hpath (request : String) : other.chain.pathOf request = world.chain.pathOf request := by
    rw [Chain.pathOf, Chain.pathOf, hextension]
  simp only [h.kept, h'.kept, hkeeps, hpath, hanswers]

end World.Accounts

/-- If a manifest compiles, then so does one that has lost rules which pass names on, in loaders that
discard, and in which rules emit instead of stopping. The replies to every list of requests are the
same, each manifest freshly installed, whatever the memory and the time. Afterwards the same records
have been made, if at different times, and the same paths are loaded. -/
theorem Manifest.Trimmed.unobservable {manifest other : Manifest} (ht : manifest.Trimmed other)
    {registry : RegistryId} {once : List (Loader σ)} (h : manifest.compile registry = .ok once) :
    (∀ registry, ∃ left : List (Loader σ), other.compile registry = .ok left) ∧
    ∀ (memory memory' : σ) (keeps : Bool) (extension now now' : String) (level level' : Nat)
      (requests : List String),
      ∃ loaders world left world' replies after after',
        manifest.world memory (.fresh keeps extension) now = .ok (loaders, world) ∧
        other.world memory' (.fresh keeps extension) now' = .ok (left, world') ∧
        World.performAll (level + 1) (requests.map .resolve) world = some (replies, after) ∧
        World.performAll (level' + 1) (requests.map .resolve) world' = some (replies, after') ∧
        (after.registries (.own 0)).SameButTime (after'.registries (.own 0)) ∧
        ((after'.registries (.own 0)).snapshot.map fun record => (record.name, record.maker)) =
          ((after.registries (.own 0)).snapshot.map fun record => (record.name, record.maker)) ∧
        after'.chain.loadedPaths = after.chain.loadedPaths := by
  obtain ⟨declared, hdeclared, -⟩ := exists_declared_of_compile h
  obtain ⟨left, hleft, hanswers⟩ := ht.exists_declared hdeclared
  refine ⟨fun registry => ⟨_, compile_of_declared hleft registry⟩, ?_⟩
  intro memory memory' keeps extension now now' level level' requests
  obtain ⟨world, after, hworld, hperform, haccounts, hpolicy, hchain⟩ :=
    exists_session hdeclared memory keeps extension now level requests
  obtain ⟨world', after', hworld', hperform', haccounts', hpolicy', hchain'⟩ :=
    exists_session hleft memory' keeps extension now' level' requests
  have hsame : (after.registries (.own 0)).SameButTime (after'.registries (.own 0)) :=
    haccounts.sameButTime haccounts' hanswers (by rw [hpolicy, hpolicy', ht.policy_eq])
  have hpaths : after'.chain.loadedPaths = after.chain.loadedPaths :=
    haccounts.loadedPaths_eq haccounts' hanswers (by rw [hchain.keeps, hchain'.keeps])
      (by rw [hchain.extension, hchain'.extension])
  simp only [hanswers] at hperform'
  exact ⟨_, world, _, world', _, after, after', hworld, hworld', hperform, hperform', hsame,
    hsame.snapshot_eq, hpaths⟩

/-- The manifest `relayered`, without the rule that leaves nothing and with one that emits in the
place of the one that stops. -/
def trimmedLayers : Manifest where
  loaders := [
    { id? := some "views"
      rules := [{ pattern := "App::View", fragments := ["our $view;"] },
        { pattern := "App::View", action := .fail, message? := some "{name} is gone" }] },
    { id? := some "site", rules := [{ pattern := "**" }] }]

theorem relayered_trimmed : relayered.Trimmed trimmedLayers where
  style_eq := rfl
  policy_eq := rfl
  loaders := .cons ⟨rfl, rfl, rfl, .deleted rfl rfl (.kept _ (.kept _ .nil))⟩
    (.cons ⟨rfl, rfl, rfl, .relaxed rfl .nil⟩ .nil)

theorem relayered_trimmed_unobservable :
    relayered.Trimmed trimmedLayers ∧
    (∃ once : List (Loader Unit), relayered.compile (.own 0) = .ok once) ∧
    (∃ left : List (Loader Unit), trimmedLayers.compile (.own 1) = .ok left) ∧
    ∃ (loaders left : List (Loader Unit)) (world world' : World Unit) (replies : List Reply)
        (after after' : World Unit),
      relayered.world () (.fresh true "pm") "1" = .ok (loaders, world) ∧
      trimmedLayers.world () (.fresh true "pm") "2" = .ok (left, world') ∧
      World.performAll 1 (["App/View.pm", "App::Model", "App::View"].map .resolve) world =
        some (replies, after) ∧
      World.performAll 1 (["App/View.pm", "App::Model", "App::View"].map .resolve) world' =
        some (replies, after') ∧
      (after.registries (.own 0)).SameButTime (after'.registries (.own 0)) ∧
      after'.chain.loadedPaths = after.chain.loadedPaths := by
  obtain ⟨declared, hdeclared⟩ := relayered_declared
  have hcompiles := Manifest.compile_of_declared (σ := Unit) hdeclared (.own 0)
  obtain ⟨hleft, hsessions⟩ := Manifest.Trimmed.unobservable relayered_trimmed hcompiles
  obtain ⟨loaders, world, left, world', replies, after, after', hworld, hworld', hperform,
    hperform', hsame, -, hpaths⟩ := hsessions () () true "pm" "1" "2" 0 0
      ["App/View.pm", "App::Model", "App::View"]
  exact ⟨relayered_trimmed, ⟨_, hcompiles⟩, hleft (.own 1), loaders, left, world, world', replies,
    after, after', hworld, hworld', hperform, hperform', hsame, hpaths⟩

end ModuleSynthesis
