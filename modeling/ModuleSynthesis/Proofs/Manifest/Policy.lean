import ModuleSynthesis.Proofs.Manifest.Decision
import ModuleSynthesis.Proofs.Source

/-!
# What accumulating adds

Whether a loader discards or accumulates the fragments of rules that pass a name on makes no
difference to which rule finishes the unit. It makes a difference to the fragments alone, and there
it puts those of the passed rules in front.

* `RuleEntry.Leaves`: the rendered fragments of a declared rule for a name.
* `LoaderEntry.PolicyAnswers`: how the answers under the two policies go together.
* `LoaderEntry.Becomes.policyAnswers`: the loaders of one declaration answer in this way.
* `LoaderEntry.accumulating_prepends`: so they do when they are asked in worlds that have the same
  names on record, and then these worlds still have.
-/

namespace ModuleSynthesis

variable {σ : Type} {name : String}

/-! ## Answers -/

/-- What a declared rule leaves for a name: its fragments, rendered with what its own glob captures,
and nothing where it does not match. -/
inductive RuleEntry.Leaves (rule : RuleEntry) (name : String) : List String → Prop
  /-- The rule matches the name. -/
  | rendered {glob : Glob} {captures fragments : List String}
    (compiled : Glob.compile rule.pattern = .ok glob)
    (captured : glob.captures? name = some captures)
    (rendered : List.Forall₂ (fun text fragment => ∃ template, Template.parse text = .ok template ∧
      fragment = template.render name captures) rule.fragments fragments) :
    Leaves rule name fragments
  /-- It does not. -/
  | nothing (unmatched : ¬ Glob.SomeMatch [rule.pattern] name) : Leaves rule name []

/-- How the answers for a name go together of two loaders with one declaration, the first of which
discards what rules leave that pass the name on, while the second accumulates it. -/
inductive LoaderEntry.PolicyAnswers (entry : LoaderEntry) (style : Style) (id name : String) :
    Answer → Answer → Prop
  /-- Both decline, as no rule decides. -/
  | declined (undecided : ∀ index, ¬ entry.Decides name index) :
    PolicyAnswers entry style id name (.ok none) (.ok none)
  /-- Both fail, with one error. -/
  | failed (error : DispatchError) :
    PolicyAnswers entry style id name (.error error) (.error error)
  /-- One rule finishes both units. The second one has the fragments of the rules before it, which
  pass the name on where they match, in front of what both have. -/
  | made {index : Nat} {rule : RuleEntry} {passed : List (List String)} {fragments : List String}
    {unit unit' : SourceUnit} (decides : entry.Decides name index)
    (finishing : entry.rules[index]? = some rule) (final : rule.action ≠ .fail)
    (leaves : rule.Leaves name fragments)
    (before : List.Forall₂ (RuleEntry.Leaves · name) (entry.rules.take index) passed)
    (assembled : unit.MadeOf style name id rule.pattern fragments)
    (assembled' : unit'.MadeOf style name id rule.pattern (passed.flatten ++ fragments)) :
    PolicyAnswers entry style id name (.ok (some unit)) (.ok (some unit'))

theorem RuleEntry.Becomes.leaves {entry : RuleEntry} {rule : CompiledRule}
    (h : entry.Becomes rule) (name : String) : entry.Leaves name (rule.leaves name) := by
  cases hcaptures : rule.glob.captures? name with
  | none =>
    rw [CompiledRule.leaves, hcaptures]
    refine .nothing ?_
    simp [Glob.SomeMatch, h.glob, Glob.isMatch_eq, hcaptures]
  | some captures =>
    rw [CompiledRule.leaves_of_captures? hcaptures]
    refine .rendered h.glob hcaptures ?_
    rw [List.forall₂_map_right_iff]
    exact h.fragments.imp fun text template htemplate =>
      ⟨template, (Glob.templateFor_eq_ok_iff.mp htemplate).1, rfl⟩

namespace LoaderEntry

variable {entry : LoaderEntry} {style : Style} {id : String} {compiled : CompiledLoader}

/-- What a declaration becomes under another policy differs in the policy alone. -/
theorem Becomes.withPolicy (h : entry.Becomes style id compiled) (policy : FragmentPolicy) :
    { entry with fragmentPolicy := policy }.Becomes style id
      { compiled with fragmentPolicy := policy } :=
  ⟨h.id_eq, h.rules, h.allowList, rfl, h.style_eq⟩

theorem decides_withPolicy_iff (policy : FragmentPolicy) (index : Nat) :
    { entry with fragmentPolicy := policy }.Decides name index ↔ entry.Decides name index :=
  ⟨fun h => ⟨h.considers, h.settles, h.first⟩, fun h => ⟨h.considers, h.settles, h.first⟩⟩

/-- Under every policy it is the same rule that decides a name. -/
theorem Becomes.policyAnswers (h : entry.Becomes style id compiled) (name : String) :
    entry.PolicyAnswers style id name
      ({ compiled with fragmentPolicy := .discard }.answer name)
      ({ compiled with fragmentPolicy := .accumulate }.answer name) := by
  by_cases hdecided : ∃ index, entry.Decides name index
  · obtain ⟨index, hdecides⟩ := hdecided
    obtain ⟨declared, rule, captures, hdeclared, hrule, hbecomes, hcaptures, -, hdiscards⟩ :=
      (h.withPolicy .discard).answer_of_decides ((decides_withPolicy_iff _ _).mpr hdecides)
    obtain ⟨_, _, _, hdeclared', hrule', -, hcaptures', -, haccumulates⟩ :=
      (h.withPolicy .accumulate).answer_of_decides ((decides_withPolicy_iff _ _).mpr hdecides)
    cases hdeclared.symm.trans hdeclared'
    cases hrule.symm.trans hrule'
    cases hcaptures.symm.trans hcaptures'
    rw [hdiscards, haccumulates, CompiledLoader.verdict, CompiledLoader.verdict]
    by_cases hfail : rule.action = .fail
    · rw [if_pos hfail, if_pos hfail]
      exact .failed _
    · have hbefore : List.Forall₂ (RuleEntry.Leaves · name) (entry.rules.take index)
          ((compiled.rules.take index).map (·.leaves name)) := by
        rw [List.forall₂_map_right_iff]
        exact (List.forall₂_take index h.rules).imp fun _ _ hrule => hrule.leaves name
      rw [if_neg hfail, if_neg hfail, hbecomes.text_glob,
        ← CompiledRule.leaves_of_captures? hcaptures, ← h.style_eq, ← h.id_eq]
      rw [hbecomes.action] at hfail
      exact .made hdecides hdeclared hfail (hbecomes.leaves name) hbefore
        (SourceUnit.madeOf_iff.mpr rfl) (SourceUnit.madeOf_iff.mpr rfl)
  · have hundecided (policy : FragmentPolicy) :
        { compiled with fragmentPolicy := policy }.answer name = .ok none :=
      (h.withPolicy policy).answer_eq_none_iff.mpr fun index hdecides =>
        hdecided ⟨index, (decides_withPolicy_iff policy index).mp hdecides⟩
    rw [hundecided, hundecided]
    exact .declined (not_exists.mp hdecided)

end LoaderEntry

/-! ## Records -/

namespace LoaderEntry

variable {entry : LoaderEntry} {style : Style} {id : String} {compiled : CompiledLoader}
  {registry : RegistryId} {answer answer' : Answer} {world other : World σ}

/-- Answers that go together are put on record in worlds that have the same names on record, or are
refused by both, and then the worlds still have. -/
theorem PolicyAnswers.settle
    (h : entry.PolicyAnswers compiled.style compiled.id name answer answer')
    (hsame : (world.registries registry).SameButTime (other.registries registry)) :
    ∃ settled settled' after after',
      { compiled with fragmentPolicy := .discard }.settle registry world answer =
        (settled, after) ∧
      { compiled with fragmentPolicy := .accumulate }.settle registry other answer' =
        (settled', after') ∧
      entry.PolicyAnswers compiled.style compiled.id name settled settled' ∧
      (after.registries registry).SameButTime (after'.registries registry) := by
  let discarding : CompiledLoader := { compiled with fragmentPolicy := .discard }
  let accumulating : CompiledLoader := { compiled with fragmentPolicy := .accumulate }
  cases h with
  | declined undecided => exact ⟨_, _, world, other, rfl, rfl, .declined undecided, hsame⟩
  | failed error => exact ⟨_, _, world, other, rfl, rfl, .failed error, hsame⟩
  | @made _ rule _ _ _ _ decides finishing final leaves before assembled assembled' =>
    obtain rfl := SourceUnit.madeOf_iff.mp assembled
    obtain rfl := SourceUnit.madeOf_iff.mp assembled'
    have hmaker : Origin.maker ⟨compiled.id, rule.pattern, other.now⟩ =
        Origin.maker ⟨compiled.id, rule.pattern, world.now⟩ := rfl
    rcases hsame.record hmaker with
      ⟨error, hrecord, hrecord'⟩ | ⟨outcome, written, written', hrecord, hrecord', hwritten⟩
    · exact ⟨_, _, world, other, discarding.settle_of_refused hrecord _,
        accumulating.settle_of_refused hrecord' _, .failed _, hsame⟩
    · refine ⟨_, _, _, _, discarding.settle_of_recorded hrecord _,
        accumulating.settle_of_recorded hrecord' _,
        .made decides finishing final leaves before assembled assembled', ?_⟩
      simp only [World.registries_log, World.registries_setRegistry, if_true]
      exact hwritten

/-- Two copies of a declared loader, of which the first discards what rules leave that pass a name
on and the second accumulates it, compile alike. Where they are asked in worlds that have the same
names on record, both decline, both fail with one error, or both make a unit that one and the same
rule finishes; the second unit then has the rendered fragments of the matching rules before that one
in front of those of the first. Afterwards the worlds have the same names on record. -/
theorem accumulating_prepends {loader : Loader σ}
    (h : entry.compile style registry id = .ok loader) :
    (∀ policy, { entry with fragmentPolicy := policy }.compile style registry id =
      .ok { loader with fragmentPolicy := policy }) ∧
    ∀ (level level' : Nat) (requests requests' : Requests σ) (request : String)
      (world other : World σ),
      (world.registries registry).SameButTime (other.registries registry) →
      ∃ answer answer' after after',
        { loader with fragmentPolicy := .discard }.dispatch level requests request world =
          some (answer, after) ∧
        { loader with fragmentPolicy := .accumulate }.dispatch level' requests' request other =
          some (answer', after') ∧
        entry.PolicyAnswers style id (Name.ofRequest request) answer answer' ∧
        (after.registries registry).SameButTime (after'.registries registry) := by
  rw [compile_eq] at h
  cases hdeclare : entry.declare style id with
  | error error => rw [hdeclare] at h; cases h
  | ok compiled =>
    rw [hdeclare] at h
    cases h
    have hbecomes : entry.Becomes style id compiled := becomes_of_declare hdeclare
    refine ⟨fun policy => ?_, fun level level' requests requests' request world other hsame => ?_⟩
    · rw [compile_eq, (hbecomes.withPolicy policy).declare]
      rfl
    · obtain ⟨journal, hdispatch⟩ := CompiledLoader.dispatch_toLoader
        { compiled with fragmentPolicy := .discard } registry level requests request world
      obtain ⟨journal', hdispatch'⟩ := CompiledLoader.dispatch_toLoader
        { compiled with fragmentPolicy := .accumulate } registry level' requests' request other
      have hanswers := hbecomes.policyAnswers (Name.ofRequest request)
      rw [← hbecomes.style_eq, ← hbecomes.id_eq] at hanswers ⊢
      have hlogged : (({ world with journal } : World σ).registries registry).SameButTime
          (({ other with journal := journal' } : World σ).registries registry) := hsame
      obtain ⟨answer, answer', after, after', hsettle, hsettle', hsettled, hafter⟩ :=
        hanswers.settle hlogged
      exact ⟨answer, answer', after, after', hdispatch.trans (congrArg some hsettle),
        hdispatch'.trans (congrArg some hsettle'), hsettled, hafter⟩

end LoaderEntry

/-- The first loader of `layered`, in which a rule passes names on to the one that finishes the
unit. -/
def viewsEntry : LoaderEntry :=
  layered.loaders.head (List.cons_ne_nil _ _)

/-- A world in which nothing has happened at some time. -/
def quietAt (now : String) : World Unit where
  memory := ()
  now := now

theorem viewsEntry_accumulating_prepends :
    ∃ loader : Loader Unit, viewsEntry.compile {} .shared "views" = .ok loader ∧
      { viewsEntry with fragmentPolicy := .accumulate }.compile {} .shared "views" =
        .ok { loader with fragmentPolicy := .accumulate } ∧
      ((quietAt "1").registries .shared).SameButTime ((quietAt "2").registries .shared) ∧
      ∃ answer answer' after after',
        { loader with fragmentPolicy := .discard }.dispatch 1 (World.resolve 1) "App/View.pm"
          (quietAt "1") = some (answer, after) ∧
        { loader with fragmentPolicy := .accumulate }.dispatch 1 (World.resolve 1) "App/View.pm"
          (quietAt "2") = some (answer', after') ∧
        viewsEntry.PolicyAnswers {} "views" (Name.ofRequest "App/View.pm") answer answer' ∧
        (after.registries .shared).SameButTime (after'.registries .shared) := by
  have hdeclared : viewsEntry.declare {} "views" = .ok layeredLoaders[0] := by decide +kernel
  have hcompiles : viewsEntry.compile {} .shared "views" =
      .ok (layeredLoaders[0].toLoader .shared : Loader Unit) := by
    rw [LoaderEntry.compile_eq, hdeclared]
    rfl
  have hsame : ((quietAt "1").registries .shared).SameButTime
      ((quietAt "2").registries .shared) := ⟨rfl, fun _ => rfl⟩
  obtain ⟨hpolicies, hdispatches⟩ := LoaderEntry.accumulating_prepends hcompiles
  exact ⟨_, hcompiles, hpolicies .accumulate, hsame,
    hdispatches 1 1 (World.resolve 1) (World.resolve 1) "App/View.pm" (quietAt "1") (quietAt "2")
      hsame⟩

/-- What the rule in front has captured is its own. -/
example :
    (({ layeredLoaders[0] with fragmentPolicy := .accumulate } : CompiledLoader).answer
      "App::View").toOption.join.map (·.fragments) = some ["use View;", "our $view;"] := by
  decide +kernel

end ModuleSynthesis
