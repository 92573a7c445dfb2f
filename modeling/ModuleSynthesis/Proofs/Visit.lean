import ModuleSynthesis.Proofs.Loader
import ModuleSynthesis.Proofs.Source

/-!
# The visits of a dispatch

A request to a loader visits the matching rules in order, and ends with the first that does not
pass the name on. Generators are arbitrary here, and may request modules while they run.

* `Loader.Visited`: rules that have been visited one after another, where every visit starts from
  what the earlier ones have left.
* `Loader.Ends`: how a request ends after the visits that were made.
* `World.CallsBelow`, `World.resolve_callsBelow`: the calls of nested requests, told apart by their
  levels.
* `World.dispatch_visits`: a request to a loader makes such visits and no other calls of its own.
* `World.Invokes`, `World.wouldHandle_iff_invokes`: whether it makes any can be told beforehand.
-/

namespace ModuleSynthesis

variable {σ : Type} {world middle after start : World σ} {answer : Answer} {level : Nat}
  {requests : Requests σ} {request name : String} {loader : Loader σ}

/-! ## Visits -/

/-- A call of the generator of a rule, and what came of it. -/
structure Visit (σ : Type) where
  /-- The rule. -/
  rule : Rule σ
  /-- What the generator saw. -/
  context : Context
  /-- What it has done. -/
  outcome : Outcome
  /-- The world that it left. -/
  after : World σ

namespace Visit

/-- The rule with its captures. -/
def entry (visit : Visit σ) : Rule σ × List String :=
  (visit.rule, visit.context.captures)

/-- The call in the journal. -/
def call (visit : Visit σ) (level : Nat) (loader : Loader σ) : Call :=
  ⟨level, loader.id, visit.rule.glob.text, visit.context⟩

/-- The world that the last of some visits left. -/
def leaves (start : World σ) (visits : List (Visit σ)) : World σ :=
  match visits.getLast? with
  | none => start
  | some last => last.after

/-- Visits of the first ones of the rules that match a name are of rules whose globs match it, in
order. -/
theorem rules_prefix_of_entries {visits : List (Visit σ)} {rules : List (Rule σ)}
    (h : visits.map (·.entry) <+: Rule.matching rules name) :
    visits.map (·.rule) <+: rules.filter (·.glob.isMatch name) := by
  have hrules := h.map Prod.fst
  rw [List.map_map, Rule.map_fst_matching] at hrules
  exact hrules

/-- What they see as captures are those of the globs. -/
theorem captures?_of_entries {visits : List (Visit σ)} {rules : List (Rule σ)}
    (h : visits.map (·.entry) <+: Rule.matching rules name) :
    ∀ visit ∈ visits, visit.rule.glob.captures? name = some visit.context.captures :=
  fun _ hvisit => (Rule.mem_matching_iff.mp (h.subset (List.mem_map_of_mem hvisit))).2

end Visit

namespace Loader

/-- The fragments that visited rules leave to the next one: all that they added, or nothing. -/
def gathered (loader : Loader σ) (visits : List (Visit σ)) : List String :=
  match loader.fragmentPolicy with
  | .discard => []
  | .accumulate => visits.flatMap (·.outcome.emitted)

/-- What a generator sees after earlier visits. -/
def contextAfter (loader : Loader σ) (name : String) (earlier : List (Visit σ))
    (captures : List String) : Context :=
  ⟨name, captures, loader.gathered earlier⟩

/-- The world after visits that have all passed a name on. -/
def reached (loader : Loader σ) (name : String) (start : World σ) (visits : List (Visit σ)) :
    World σ :=
  match visits.getLast? with
  | none => start
  | some last => last.after.log (.skipped loader.id name last.rule.glob.text)

/-- What the generator of a rule does after earlier visits. -/
def runAfter (level : Nat) (requests : Requests σ) (loader : Loader σ) (name : String)
    (start : World σ) (earlier : List (Visit σ)) (rule : Rule σ) (captures : List String) :
    Option (Outcome × World σ) :=
  let context := loader.contextAfter name earlier captures
  (rule.generator context).run requests
    ((loader.reached name start earlier).log (.called ⟨level, loader.id, rule.glob.text, context⟩))

/-- Rules are visited one after another. -/
inductive Visited (level : Nat) (requests : Requests σ) (loader : Loader σ) (name : String)
    (start : World σ) : List (Visit σ) → Prop
  /-- None has been visited. -/
  | nil : Visited level requests loader name start []
  /-- All earlier ones have passed the name on, and the last one takes up from there. -/
  | concat {earlier : List (Visit σ)} {visit : Visit σ}
    (before : Visited level requests loader name start earlier)
    (passed : ∀ other ∈ earlier, other.outcome.exit = .next)
    (sees : visit.context = loader.contextAfter name earlier visit.context.captures)
    (runs : loader.runAfter level requests name start earlier visit.rule visit.context.captures =
      some (visit.outcome, visit.after)) :
    Visited level requests loader name start (earlier ++ [visit])

/-- How a request ends after visits of the first ones of the rules that match: with an answer, or
with none where a generator does not come to an end. -/
inductive Ends (level : Nat) (requests : Requests σ) (loader : Loader σ) (name : String)
    (start : World σ) (rules : List (Rule σ × List String)) (visits : List (Visit σ)) :
    Option Answer → Prop
  /-- All rules have passed the name on. -/
  | declined (all : visits.map (·.entry) = rules)
    (passed : ∀ visit ∈ visits, visit.outcome.exit = .next) :
    Ends level requests loader name start rules visits (some (.ok none))
  /-- The last generator says that the fragments are final, and the record is taken. -/
  | made {earlier : List (Visit σ)} {last : Visit σ} {outcome : RecordOutcome}
    {registry : Registry} {unit : SourceUnit} (split : visits = earlier ++ [last])
    (final : last.outcome.exit = .done ∨ last.outcome.exit = .stop)
    (recorded : (last.after.registries loader.registry).record name
      ⟨loader.id, last.rule.glob.text, last.after.now⟩ = .ok (outcome, registry))
    (assembled : unit.MadeOf loader.style name loader.id last.rule.glob.text
      (loader.gathered earlier ++ last.outcome.emitted)) :
    Ends level requests loader name start rules visits (some (.ok (some unit)))
  /-- The last generator says so, and the record is refused. -/
  | refused {earlier : List (Visit σ)} {last : Visit σ} {error : RegistryError}
    (split : visits = earlier ++ [last])
    (final : last.outcome.exit = .done ∨ last.outcome.exit = .stop)
    (refused : (last.after.registries loader.registry).record name
      ⟨loader.id, last.rule.glob.text, last.after.now⟩ = .error error) :
    Ends level requests loader name start rules visits (some (.error (.registry error)))
  /-- The last generator fails. -/
  | failed {earlier : List (Visit σ)} {last : Visit σ} {cause : Cause}
    (split : visits = earlier ++ [last]) (fails : last.outcome.exit = .fail cause) :
    Ends level requests loader name start rules visits
      (some (.error (.generator name last.rule.glob.text cause)))
  /-- All visited rules have passed the name on, and the next generator does not come to an end. -/
  | endless {rule : Rule σ} {captures : List String}
    (next : visits.map (·.entry) ++ [(rule, captures)] <+: rules)
    (passed : ∀ visit ∈ visits, visit.outcome.exit = .next)
    (runs : loader.runAfter level requests name start visits rule captures = none) :
    Ends level requests loader name start rules visits none

theorem gathered_concat (loader : Loader σ) (visits : List (Visit σ)) (visit : Visit σ) :
    loader.gathered (visits ++ [visit]) =
      loader.carry (loader.gathered visits ++ visit.outcome.emitted) := by
  rw [gathered, gathered, carry]
  cases loader.fragmentPolicy with
  | discard => rfl
  | accumulate => simp

theorem reached_concat (loader : Loader σ) (name : String) (start : World σ)
    (visits : List (Visit σ)) (visit : Visit σ) :
    loader.reached name start (visits ++ [visit]) =
      visit.after.log (.skipped loader.id name visit.rule.glob.text) := by
  simp [reached]

/-- The last visit ends a request if its fragments are final. What is noted meanwhile makes no
difference. -/
theorem ends_finish {rules : List (Rule σ × List String)} {earlier : List (Visit σ)}
    {last : Visit σ} (final : last.outcome.exit = .done ∨ last.outcome.exit = .stop)
    (hregistries : world.registries = last.after.registries) (hnow : world.now = last.after.now) :
    loader.Ends level requests name start rules (earlier ++ [last])
      (some (loader.finish name last.rule.glob.text
        (loader.gathered earlier ++ last.outcome.emitted) world).1) := by
  rw [finish]
  split
  · next error hrecord =>
    rw [hregistries, hnow] at hrecord
    exact .refused rfl final hrecord
  · next outcome registry hrecord =>
    rw [hregistries, hnow] at hrecord
    exact .made rfl final hrecord (SourceUnit.madeOf_iff.mpr rfl)

/-- Where some rule matches, a request that has an answer has visited one. -/
theorem Ends.visits_ne_nil {rules : List (Rule σ × List String)} {visits : List (Visit σ)}
    (h : loader.Ends level requests name start rules visits (some answer)) (hrules : rules ≠ []) :
    visits ≠ [] := by
  rintro rfl
  cases h with
  | declined all => exact hrules all.symm
  | made split | refused split | failed split => simp at split

/-! ## Matching rules -/

theorem calls_reached (loader : Loader σ) (name : String) (start : World σ)
    (visits : List (Visit σ)) :
    (loader.reached name start visits).calls = (Visit.leaves start visits).calls := by
  rw [reached, Visit.leaves]
  cases visits.getLast? with
  | none => rfl
  | some last => exact World.calls_log (fun _ h => by cases h) last.after

/-- Once some rules have passed a name on, further ones are visited until one does not, and nothing
is called afterwards. -/
theorem tryRules_visits {matching : List (Rule σ × List String)} {visits : List (Visit σ)}
    {rules : List (Rule σ × List String)}
    (hvisited : loader.Visited level requests name start visits)
    (hpassed : ∀ visit ∈ visits, visit.outcome.exit = .next)
    (hrules : visits.map (·.entry) ++ rules = matching) :
    ∃ all : List (Visit σ), all.map (·.entry) <+: matching ∧
      loader.Visited level requests name start all ∧
      loader.Ends level requests name start matching all
        ((loader.tryRules level requests name rules (loader.gathered visits)
          (loader.reached name start visits)).map (·.1)) ∧
      ∀ answer after, loader.tryRules level requests name rules (loader.gathered visits)
        (loader.reached name start visits) = some (answer, after) →
          after.calls = (Visit.leaves start all).calls := by
  induction rules generalizing visits with
  | nil =>
    have hall : visits.map (·.entry) = matching := by rw [← hrules, List.append_nil]
    refine ⟨visits, hall ▸ List.prefix_rfl, hvisited, .declined hall hpassed, ?_⟩
    rintro _ _ ⟨⟩
    exact (World.calls_log (fun _ h => by cases h) _).trans (calls_reached loader name start visits)
  | cons first rules ih =>
    obtain ⟨rule, captures⟩ := first
    rw [tryRules]
    dsimp only [Context.emitAll]
    cases hrun : loader.runAfter level requests name start visits rule captures with
    | none =>
      have hnext : visits.map (·.entry) ++ [(rule, captures)] <+: matching :=
        ⟨rules, by rw [← hrules, List.append_assoc, List.singleton_append]⟩
      rw [runAfter, contextAfter] at hrun
      rw [hrun]
      refine ⟨visits, ⟨_, hrules⟩, hvisited, .endless hnext hpassed hrun, ?_⟩
      rintro _ _ ⟨⟩
    | some result =>
      obtain ⟨outcome, middle⟩ := result
      let visit : Visit σ := ⟨rule, loader.contextAfter name visits captures, outcome, middle⟩
      have hvisit : loader.Visited level requests name start (visits ++ [visit]) :=
        .concat hvisited hpassed rfl hrun
      have hsplit : (visits ++ [visit]).map (·.entry) ++ rules = matching := by
        rw [← hrules, List.map_append, List.append_assoc]; rfl
      have hleaves : Visit.leaves start (visits ++ [visit]) = middle := by
        simp [Visit.leaves, visit]
      rw [runAfter, contextAfter] at hrun
      rw [hrun]
      dsimp only
      cases hexit : outcome.exit with
      | done =>
        refine ⟨_, ⟨_, hsplit⟩, hvisit, ends_finish (.inl hexit) rfl rfl, ?_⟩
        intro answer after h
        have hafter : (loader.finish _ _ _ _).2 = after := congrArg Prod.snd (Option.some.inj h)
        rw [← hafter, calls_finish, hleaves]
      | stop =>
        refine ⟨_, ⟨_, hsplit⟩, hvisit, ends_finish (.inr hexit) rfl rfl, ?_⟩
        intro answer after h
        have hafter : (loader.finish _ _ _ _).2 = after := congrArg Prod.snd (Option.some.inj h)
        rw [← hafter, calls_finish, hleaves]
        exact World.calls_log (fun _ h => by cases h) middle
      | next =>
        have hall : ∀ other ∈ visits ++ [visit], other.outcome.exit = .next := by
          intro other hother
          rcases List.mem_append.mp hother with hearlier | hlast
          · exact hpassed other hearlier
          · rw [List.mem_singleton.mp hlast]; exact hexit
        have hrest := ih hvisit hall hsplit
        rw [gathered_concat, reached_concat] at hrest
        exact hrest
      | fail cause =>
        refine ⟨_, ⟨_, hsplit⟩, hvisit, .failed rfl hexit, ?_⟩
        rintro _ _ ⟨⟩
        rw [hleaves]
        exact World.calls_log (fun _ h => by cases h) middle

end Loader

/-! ## Nested calls -/

/-- All calls between two worlds are below a level. -/
def World.CallsBelow (level : Nat) (world after : World σ) : Prop :=
  ∃ calls, after.calls = world.calls ++ calls ∧ ∀ call ∈ calls, call.level < level

namespace World.CallsBelow

theorem of_calls_eq (h : after.calls = world.calls) : world.CallsBelow level after :=
  ⟨[], by rw [h, List.append_nil], fun _ hcall => by cases hcall⟩

theorem trans (h : world.CallsBelow level middle) (h' : middle.CallsBelow level after) :
    world.CallsBelow level after := by
  obtain ⟨calls, hcalls, hbelow⟩ := h
  obtain ⟨later, hlater, hlater_below⟩ := h'
  refine ⟨calls ++ later, by rw [hlater, hcalls, List.append_assoc], fun call hcall => ?_⟩
  exact (List.mem_append.mp hcall).elim (hbelow call) (hlater_below call)

theorem mono {bound : Nat} (h : world.CallsBelow level after) (hle : level ≤ bound) :
    world.CallsBelow bound after := by
  obtain ⟨calls, hcalls, hbelow⟩ := h
  exact ⟨calls, hcalls, fun call hcall => Nat.lt_of_lt_of_le (hbelow call hcall) hle⟩

end World.CallsBelow

/-- Requests whose calls are below a level. -/
def Requests.CallsBelow (level : Nat) (requests : Requests σ) : Prop :=
  ∀ request world answer after, requests request world = some (answer, after) →
    world.CallsBelow level after

theorem Program.run_callsBelow (hr : requests.CallsBelow level) {α : Type}
    {program : Program σ α} {result : α}
    (h : program.run requests world = some (result, after)) : world.CallsBelow level after := by
  induction program generalizing world with
  | done => cases h; exact .of_calls_eq rfl
  | update change next ih =>
    have hnext : (next world.memory).run requests
      { world with memory := change world.memory } = some (result, after) := h
    obtain ⟨calls, hcalls, hbelow⟩ := ih world.memory hnext
    exact ⟨calls, hcalls, hbelow⟩
  | resolve request next ih =>
    rw [run] at h
    split at h
    · next answer middle hrequest => exact (hr _ _ _ _ hrequest).trans (ih answer h)
    · cases h

namespace Loader

/-- Of the calls that visits make, those at the level of the request itself are theirs; all others
are below. -/
theorem Visited.calls (hr : requests.CallsBelow level) {visits : List (Visit σ)}
    (h : loader.Visited level requests name start visits) :
    ∃ calls, (Visit.leaves start visits).calls = start.calls ++ calls ∧
      calls.filter (·.level = level) = visits.map (·.call level loader) ∧
      ∀ call ∈ calls, call.level ≤ level := by
  induction h with
  | nil => exact ⟨[], (List.append_nil _).symm, rfl, fun _ hcall => by cases hcall⟩
  | @concat earlier visit _ _ sees runs ih =>
    obtain ⟨calls, hcalls, hown, hbounded⟩ := ih
    rw [runAfter, ← sees] at runs
    obtain ⟨nested, hnested, hbelow⟩ := Program.run_callsBelow hr runs
    have hnone : nested.filter (·.level = level) = [] := by
      simpa using fun call hcall => Nat.ne_of_lt (hbelow call hcall)
    refine ⟨calls ++ visit.call level loader :: nested, ?_, ?_, ?_⟩
    · rw [World.calls_log_called, calls_reached, hcalls] at hnested
      simpa [Visit.leaves, Visit.call] using hnested
    · simp [hown, hnone, Visit.call]
    · intro call hcall
      rcases List.mem_append.mp hcall with hearlier | hlater
      · exact hbounded call hearlier
      · rcases List.mem_cons.mp hlater with rfl | hinner
        · exact Nat.le_refl _
        · exact Nat.le_of_lt (hbelow call hinner)

/-- What a loader declines without looking at its rules: names that are empty, have an empty
segment or are not admitted. -/
def Declines (loader : Loader σ) (name : String) : Prop :=
  name = "" ∨ "" ∈ Name.segments name ∨ loader.admits name = false

theorem declines_iff : loader.Declines name ↔ loader.considers name = false := by
  have hempty : Name.isWellFormed name = false ↔ "" ∈ Name.segments name := by
    simp [Name.isWellFormed, Name.segments, String.ext_iff]
  have hsegment : name = "" → "" ∈ Name.segments name := by
    rintro rfl
    decide
  rw [Declines, considers, Bool.and_eq_false_iff, hempty, ← or_assoc,
    or_iff_right_of_imp hsegment]

/-- A request to a loader that does not decline it visits matching rules in order. -/
theorem visits_of_considers (hc : loader.considers (Name.ofRequest request)) (level : Nat)
    (requests : Requests σ) (world : World σ) :
    ∃ visits : List (Visit σ),
      visits.map (·.entry) <+: Rule.matching loader.rules (Name.ofRequest request) ∧
      loader.Visited level requests (Name.ofRequest request) world visits ∧
      loader.Ends level requests (Name.ofRequest request) world
        (Rule.matching loader.rules (Name.ofRequest request)) visits
        ((loader.dispatch level requests request world).map (·.1)) ∧
      ∀ answer after, loader.dispatch level requests request world = some (answer, after) →
        after.calls = (Visit.leaves world visits).calls := by
  rw [dispatch, if_pos hc]
  have hgathered : loader.gathered ([] : List (Visit σ)) = [] := by
    rw [gathered]; split <;> rfl
  have hnil : loader.Visited level requests (Name.ofRequest request) world [] := .nil
  have hrules : [].map Visit.entry ++ Rule.matching loader.rules (Name.ofRequest request) =
    Rule.matching loader.rules (Name.ofRequest request) := rfl
  have h := tryRules_visits hnil (fun _ hvisit => by cases hvisit) hrules
  rw [hgathered] at h
  exact h

/-- A request to a loader makes no calls above its own level. -/
theorem dispatch_callsBelow (hr : requests.CallsBelow level)
    (h : loader.dispatch level requests request world = some (answer, after)) :
    world.CallsBelow (level + 1) after := by
  cases hc : loader.considers (Name.ofRequest request) with
  | true =>
    obtain ⟨visits, -, hvisited, -, hafter⟩ := visits_of_considers hc level requests world
    obtain ⟨calls, hcalls, -, hbounded⟩ := hvisited.calls hr
    exact ⟨calls, (hafter answer after h).trans hcalls, fun call hcall =>
      Nat.lt_succ_of_le (hbounded call hcall)⟩
  | false =>
    rw [dispatch, hc] at h
    cases h
    exact .of_calls_eq (World.calls_log (loader.refusal_ne_called request) world)

end Loader

namespace Resolver

theorem answer_callsBelow (hr : requests.CallsBelow level) {resolver : Resolver σ}
    (h : resolver.answer level requests request world = some (answer, after)) :
    world.CallsBelow (level + 1) after := by
  cases resolver with
  | loader loader =>
    rw [Resolver.answer] at h
    exact Loader.dispatch_callsBelow hr h
  | custom serve =>
    rw [Resolver.answer] at h
    exact (Program.run_callsBelow hr h).mono (Nat.le_succ level)

theorem firstAnswer_callsBelow (hr : requests.CallsBelow level) {resolvers : List (Resolver σ)}
    (h : firstAnswer level requests request resolvers world = some (answer, after)) :
    world.CallsBelow (level + 1) after := by
  induction resolvers generalizing world with
  | nil => cases h; exact .of_calls_eq rfl
  | cons resolver resolvers ih =>
    rw [firstAnswer] at h
    split at h
    · next middle hfirst => exact (answer_callsBelow hr hfirst).trans (ih h)
    · exact answer_callsBelow hr h

end Resolver

namespace World

/-- Requests to the chain make no calls at the level of whoever makes them. -/
theorem resolve_callsBelow (level : Nat) : Requests.CallsBelow level (resolve (σ := σ) level) := by
  induction level with
  | zero => exact fun _ _ _ _ => nofun
  | succ level ih =>
    intro request world answer after h
    rw [resolve] at h
    split at h
    · cases h; exact .of_calls_eq (calls_log (fun _ h => by cases h) world)
    · split at h
      · next unit served hfirst =>
        cases h
        have hserved := Resolver.firstAnswer_callsBelow ih hfirst
        exact hserved.trans (.of_calls_eq rfl)
      · next served hfirst =>
        cases h
        have hserved := Resolver.firstAnswer_callsBelow ih hfirst
        exact hserved.trans (.of_calls_eq (calls_log (fun _ h => by cases h) served))
      · exact Resolver.firstAnswer_callsBelow ih h

/-- A request to a loader is declined without any call if its name is empty, has an empty segment
or is not admitted. Otherwise the rules that match are visited in order up to the first that does
not pass the name on, and that is how the request ends. Every generator sees the name, the captures
of its rule, which are those of its glob, and what the earlier ones have left; the calls of the
request itself, which are told from nested ones by their level, are those of the visits. -/
theorem dispatch_visits (world : World σ) (level : Nat) (loader : Loader σ) (request : String) :
    (loader.Declines (Name.ofRequest request) →
      ∃ after, world.dispatch level loader request = some (.ok none, after) ∧
        after.calls = world.calls) ∧
    (¬ loader.Declines (Name.ofRequest request) →
      ∃ visits : List (Visit σ),
        visits.map (·.rule) <+: loader.rules.filter (·.glob.isMatch (Name.ofRequest request)) ∧
        (∀ visit ∈ visits, visit.rule.glob.captures? (Name.ofRequest request) =
          some visit.context.captures) ∧
        visits.map (·.entry) <+: Rule.matching loader.rules (Name.ofRequest request) ∧
        loader.Visited level (resolve level) (Name.ofRequest request) world visits ∧
        loader.Ends level (resolve level) (Name.ofRequest request) world
          (Rule.matching loader.rules (Name.ofRequest request)) visits
          ((world.dispatch level loader request).map (·.1)) ∧
        ∀ answer after, world.dispatch level loader request = some (answer, after) →
          ∃ calls, after.calls = world.calls ++ calls ∧
            calls.filter (·.level = level) = visits.map (·.call level loader) ∧
            ∀ call ∈ calls, call.level ≤ level) := by
  constructor
  · intro hdeclines
    rw [dispatch, Loader.dispatch, Loader.declines_iff.mp hdeclines]
    exact ⟨_, rfl, calls_log (loader.refusal_ne_called request) world⟩
  · intro hnot
    rw [Loader.declines_iff, Bool.not_eq_false] at hnot
    obtain ⟨visits, hmatching, hvisited, hends, hafter⟩ :=
      Loader.visits_of_considers hnot level (resolve level) world
    obtain ⟨calls, hcalls, hown, hbounded⟩ := hvisited.calls (resolve_callsBelow level)
    exact ⟨visits, Visit.rules_prefix_of_entries hmatching, Visit.captures?_of_entries hmatching,
      hmatching, hvisited, hends, fun answer after h =>
        ⟨calls, (hafter answer after h).trans hcalls, hown, hbounded⟩⟩

/-! ## Whether a generator is called -/

/-- A request to a loader calls the generator of one of its rules itself, rather than by requests
that generators make meanwhile. -/
inductive Invokes (world : World σ) (level : Nat) (loader : Loader σ) (request : String) : Prop
  /-- The request has an answer, and there is a call of its own among those that it has added. -/
  | returned {answer : Answer} {after : World σ} {calls : List Call} {rule : Rule σ}
    {context : Context} (served : world.dispatch level loader request = some (answer, after))
    (added : after.calls = world.calls ++ calls) (listed : rule ∈ loader.rules)
    (called : ⟨level, loader.id, rule.glob.text, context⟩ ∈ calls) :
    Invokes world level loader request
  /-- The request has no answer, as a generator that is called after those of some earlier rules
  does not come to an end. -/
  | endless {earlier : List (Visit σ)} {rule : Rule σ} {captures : List String}
    (unanswered : world.dispatch level loader request = none)
    (visited : loader.Visited level (resolve level) (Name.ofRequest request) world earlier)
    (passed : ∀ visit ∈ earlier, visit.outcome.exit = .next) (listed : rule ∈ loader.rules)
    (runs : loader.runAfter level (resolve level) (Name.ofRequest request) world earlier rule
      captures = none) : Invokes world level loader request

/-- A loader that would handle a request calls a generator for it. -/
theorem invokes_of_wouldHandle (h : loader.wouldHandle request) (world : World σ) (level : Nat) :
    world.Invokes level loader request := by
  rw [Loader.wouldHandle, Bool.and_eq_true] at h
  obtain ⟨hconsiders, hmatch⟩ := h
  obtain ⟨visits, hmatching, hvisited, hends, hafter⟩ :=
    Loader.visits_of_considers hconsiders level (resolve level) world
  cases hdispatch : world.dispatch level loader request with
  | none =>
    rw [dispatch] at hdispatch
    rw [hdispatch] at hends
    cases hends with
    | endless next passed runs =>
      have hlisted := Rule.mem_matching_iff.mp (next.subset (List.mem_concat_self))
      exact .endless hdispatch hvisited passed hlisted.1 runs
  | some result =>
    obtain ⟨answer, after⟩ := result
    obtain ⟨calls, hcalls, hown, -⟩ := hvisited.calls (resolve_callsBelow level)
    have hsome : visits ≠ [] := by
      rw [dispatch] at hdispatch
      rw [hdispatch] at hends
      refine hends.visits_ne_nil fun hnone => ?_
      rw [Rule.matching_eq_nil_iff.mp hnone] at hmatch
      cases hmatch
    obtain ⟨visit, hvisit⟩ := List.exists_mem_of_ne_nil visits hsome
    have hlisted := Rule.mem_matching_iff.mp (hmatching.subset (List.mem_map_of_mem hvisit))
    have hcalled : visit.call level loader ∈ calls.filter (·.level = level) := by
      rw [hown]
      exact List.mem_map_of_mem hvisit
    exact .returned hdispatch ((hafter answer after hdispatch).trans hcalls) hlisted.1
      (List.mem_filter.mp hcalled).1

/-- Whether a request to a loader calls the generator of one of its rules is told beforehand, in
every world, by whether the loader would handle it. If it would not, the request is declined. -/
theorem wouldHandle_iff_invokes (world : World σ) (level : Nat) (loader : Loader σ)
    (request : String) :
    (loader.wouldHandle request ↔ world.Invokes level loader request) ∧
    (loader.wouldHandle request = false → ∃ after,
      world.dispatch level loader request = some (.ok none, after) ∧
        after.calls = world.calls) := by
  have hdeclined (h : loader.wouldHandle request = false) : ∃ after,
      world.dispatch level loader request = some (.ok none, after) ∧
        after.calls = world.calls := by
    obtain ⟨event, hevent, hdispatch⟩ :=
      Loader.dispatch_of_not_wouldHandle h level (resolve level) world
    exact ⟨_, hdispatch, calls_log hevent world⟩
  refine ⟨⟨fun h => invokes_of_wouldHandle h world level, fun h => ?_⟩, hdeclined⟩
  refine Bool.not_eq_false _ ▸ fun hnot => ?_
  obtain ⟨after, hdispatch, hcalls⟩ := hdeclined hnot
  cases h with
  | returned served added _ called =>
    cases hdispatch.symm.trans served
    rw [hcalls, List.self_eq_append_right] at added
    rw [added] at called
    cases called
  | endless unanswered => cases hdispatch.symm.trans unanswered

end World

end ModuleSynthesis
