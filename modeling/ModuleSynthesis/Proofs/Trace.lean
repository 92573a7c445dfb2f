import ModuleSynthesis.Proofs.Dispatch
import ModuleSynthesis.Proofs.Glob.Fit
import ModuleSynthesis.Proofs.Loader

/-!
# What a request leaves behind

Loaders whose generators request nothing always have an answer, and the only thing that lasts of a
request to them is the unit that it ends with: its record, and its place in the chain.

* `Program.Requestless`, `Loader.Requestless`: programs and loaders that request nothing.
* `Scope.silent`, `World.Moves.sameStores`: what happens before a unit is made leaves registries and
  chain alone.
* `Loader.dispatch_requestless`, `World.resolve_settles`: requests to such loaders, directly and of
  a chain, have an answer, and this is what comes of them.
* `World.request_leaves_no_trace`: where no unit comes of a request nothing has changed, and
  otherwise at most one record was added.
-/

namespace ModuleSynthesis

variable {σ : Type} {world middle after : World σ} {answer : Answer} {request : String}
  {unit : SourceUnit}

/-! ## Programs that request nothing -/

/-- Whatever it finds in the memory, a program requests nothing. -/
inductive Program.Requestless {α : Type} : Program σ α → Prop
  /-- It is over. -/
  | done (result : α) : Requestless (.done result)
  /-- It uses the memory and requests nothing afterwards. -/
  | update (change : σ → σ) {next : σ → Program σ α}
    (h : ∀ memory, (next memory).Requestless) : Requestless (.update change next)

/-- None of the generators of a loader requests anything. -/
def Loader.Requestless (loader : Loader σ) : Prop :=
  ∀ rule ∈ loader.rules, ∀ context, (rule.generator context).Requestless

/-- A scope of chains that ask loaders alone, and such as request nothing. -/
def Scope.requestless : Scope σ where
  asks resolver := ∃ loader, resolver = .loader loader ∧ loader.Requestless
  dispatches _ := True
  writes _ _ _ := True

/-- A scope in which no unit is made or kept and nothing is put on record. -/
def Scope.silent : Scope σ where
  asks _ := False
  dispatches _ := False
  writes _ _ _ := False

/-- A program that requests nothing comes to an end, and changes the memory alone. -/
theorem Program.Requestless.run {α : Type} {program : Program σ α} (h : program.Requestless)
    (requests : Requests σ) (world : World σ) :
    ∃ result after, program.run requests world = some (result, after) ∧
      world.Moves .silent after := by
  induction h generalizing world with
  | done result => exact ⟨result, world, rfl, .refl⟩
  | update change _ ih =>
    obtain ⟨result, after, hrun, moves⟩ :=
      ih world.memory { world with memory := change world.memory }
    exact ⟨result, after, hrun, .head (.remember world change) moves⟩

/-! ## Registries and chain -/

/-- The registries and the chain, with what it has loaded, are as before. -/
structure World.SameStores (world after : World σ) : Prop where
  registries : after.registries = world.registries
  chain : after.chain = world.chain

/-- A loader has put a unit on record, if the name of the unit had none, and has written nothing
else. -/
structure Loader.RecordsOnly (loader : Loader σ) (unit : SourceUnit) (world after : World σ) :
    Prop where
  others : ∀ id ≠ loader.registry, after.registries id = world.registries id
  first : (world.registries loader.registry).entries[unit.name]? = none →
    after.registries loader.registry = (world.registries loader.registry).insert
      { name := unit.name, loader := loader.id, pattern := unit.pattern, recordedAt := world.now }
  later : ∀ record, (world.registries loader.registry).entries[unit.name]? = some record →
    after.registries loader.registry = world.registries loader.registry

/-- The registries, the chain and the time are as before where no unit is made or kept. -/
theorem World.Moves.silent (h : world.Moves .silent after) :
    world.SameStores after ∧ after.now = world.now := by
  refine h.invariant (I := fun after => world.SameStores after ∧ after.now = world.now) ?_
    ⟨⟨rfl, rfl⟩, rfl⟩
  rintro before after hm ⟨⟨hregistries, hchain⟩, hnow⟩
  cases hm with
  | remember | note => exact ⟨⟨hregistries, hchain⟩, hnow⟩
  | make direct => exact direct.elim
  | load asked => exact asked.elim
  | keep asked => exact asked.elim
  | register asked => exact asked.elim
  | write written => exact written.elim

theorem World.Moves.sameStores (h : world.Moves .silent after) : world.SameStores after :=
  h.silent.1

namespace Loader

variable {loader : Loader σ}

/-- A loader that makes a unit puts it on record and writes nothing else. -/
theorem Makes.recordsOnly (moves : world.Moves .silent middle)
    (made : loader.Makes request middle unit after) : loader.RecordsOnly unit world after := by
  obtain ⟨⟨hregistries, -⟩, hnow⟩ := moves.silent
  obtain ⟨outcome, hrecord⟩ := made.record_eq
  rw [made.loader_eq, hregistries, hnow] at hrecord
  refine ⟨fun id hid => (made.registries_of_ne hid).trans (congrFun hregistries id), ?_, ?_⟩
  · intro hnone
    rw [Registry.record_of_eq_none hnone] at hrecord
    exact (congrArg Prod.snd (Except.ok.inj hrecord)).symm
  · intro record hsome
    rcases Registry.record_cases hrecord with ⟨hnone, -⟩ | ⟨_, -, -, hsame⟩
    · cases hsome.symm.trans hnone
    · exact hsame

/-! ## Requests -/

theorem tryRules_requestless (hc : loader.considers (Name.ofRequest request))
    {rules : List (Rule σ × List String)}
    (hrules : ∀ entry ∈ rules, ∀ context, (entry.1.generator context).Requestless)
    (level : Nat) (requests : Requests σ) (carried : List String) (world : World σ) :
    ∃ answer after,
      loader.tryRules level requests (Name.ofRequest request) rules carried world =
        some (answer, after) ∧
      loader.Serves .silent request world answer after := by
  induction rules generalizing carried world with
  | nil => exact ⟨_, _, rfl, .declined (.single (.note _ _ rfl))⟩
  | cons entry rules ih =>
    obtain ⟨rule, captures⟩ := entry
    have called : world.Move .silent (world.log (.called ⟨level, loader.id, rule.glob.text,
      ⟨Name.ofRequest request, captures, carried⟩⟩)) := .note _ _ rfl
    obtain ⟨outcome, middle, hrun, ran⟩ := (hrules _ List.mem_cons_self _).run requests
      (world.log (.called ⟨level, loader.id, rule.glob.text,
        ⟨Name.ofRequest request, captures, carried⟩⟩))
    have reached : world.Moves .silent middle := .head called ran
    rw [tryRules]
    dsimp only
    rw [hrun]
    dsimp only
    cases outcome.exit with
    | done => exact ⟨_, _, rfl, (finish_serves hc rfl).after_moves reached⟩
    | stop =>
      have stopped := reached.tail (.note middle
        (.stopped loader.id (Name.ofRequest request) rule.glob.text) rfl)
      exact ⟨_, _, rfl, (finish_serves hc rfl).after_moves stopped⟩
    | next =>
      have skipped := reached.tail (.note middle
        (.skipped loader.id (Name.ofRequest request) rule.glob.text) rfl)
      obtain ⟨answer, after, hrest, serves⟩ :=
        ih (fun entry hentry => hrules entry (List.mem_cons_of_mem _ hentry)) _ _
      exact ⟨answer, after, hrest, serves.after_moves skipped⟩
    | fail cause => exact ⟨_, _, rfl, .failed (reached.tail (.note _ _ rfl))⟩

/-- A loader that requests nothing has an answer to every request, and this is what comes of it. -/
theorem dispatch_requestless (hl : loader.Requestless) (level : Nat) (requests : Requests σ)
    (request : String) (world : World σ) :
    ∃ answer after, loader.dispatch level requests request world = some (answer, after) ∧
      loader.Serves .silent request world answer after := by
  rw [dispatch]
  split
  · next hc =>
    refine tryRules_requestless hc (fun entry hentry => ?_) level requests [] world
    obtain ⟨rule, captures⟩ := entry
    exact hl rule (Rule.mem_matching_iff.mp hentry).1
  · exact ⟨_, _, rfl, .declined (.single (.note _ _ (loader.isGenerated_refusal request)))⟩

end Loader

/-- How a request to loaders in order ends that request nothing: one of them makes a unit, or
nothing is made. -/
inductive Resolver.Ends (resolvers : List (Resolver σ)) (request : String) (world : World σ) :
    Answer → World σ → Prop
  /-- One of them makes a unit. -/
  | made {loader : Loader σ} {middle after : World σ} {unit : SourceUnit}
    (asked : .loader loader ∈ resolvers) (moves : world.Moves .silent middle)
    (made : loader.Makes request middle unit after) :
    Ends resolvers request world (.ok (some unit)) after
  /-- Nothing is made. -/
  | nothing {answer : Answer} {after : World σ} (hnone : ∀ unit, answer ≠ .ok (some unit))
    (moves : world.Moves .silent after) : Ends resolvers request world answer after

theorem Resolver.firstAnswer_requestless {resolvers : List (Resolver σ)}
    (hs : ∀ resolver ∈ resolvers, Scope.requestless.asks resolver) (level : Nat)
    (requests : Requests σ) (request : String) (world : World σ) :
    ∃ answer after, firstAnswer level requests request resolvers world = some (answer, after) ∧
      Ends resolvers request world answer after := by
  induction resolvers generalizing world with
  | nil => exact ⟨_, _, rfl, .nothing (by rintro _ ⟨⟩) .refl⟩
  | cons resolver resolvers ih =>
    obtain ⟨loader, rfl, hl⟩ := hs resolver List.mem_cons_self
    obtain ⟨answer, middle, hdispatch, serves⟩ :=
      Loader.dispatch_requestless hl level requests request world
    rw [firstAnswer, Resolver.answer, hdispatch]
    cases serves with
    | made moves made => exact ⟨_, _, rfl, .made List.mem_cons_self moves made⟩
    | refused moves => exact ⟨_, _, rfl, .nothing (by rintro _ ⟨⟩) moves⟩
    | failed moves => exact ⟨_, _, rfl, .nothing (by rintro _ ⟨⟩) moves⟩
    | declined passed =>
      obtain ⟨answer, after, hrest, ends⟩ :=
        ih (fun other hother => hs other (List.mem_cons_of_mem _ hother)) middle
      refine ⟨answer, after, hrest, ?_⟩
      cases ends with
      | made asked moves made =>
        exact .made (List.mem_cons_of_mem _ asked) (passed.trans moves) made
      | nothing hnone moves => exact .nothing hnone (passed.trans moves)

namespace World

/-- How a request to a chain of loaders ends that request nothing. -/
inductive Settles (request : String) (world : World σ) : Answer → World σ → Prop
  /-- The chain has kept a unit from before. -/
  | reused {unit : SourceUnit}
    (kept : world.chain.unitAt? (world.chain.pathOf request) = some unit) :
    Settles request world (.ok (some unit))
      (world.log (.reused request (world.chain.pathOf request)))
  /-- One of the loaders makes a unit, and the chain keeps it. -/
  | loaded {loader : Loader σ} {middle after : World σ} {unit : SourceUnit}
    (missing : world.chain.unitAt? (world.chain.pathOf request) = none)
    (asked : .loader loader ∈ world.chain.resolvers) (moves : world.Moves .silent middle)
    (made : loader.Makes request middle unit after) :
    Settles request world (.ok (some unit)) (after.keep request unit)
  /-- Nothing is made. -/
  | nothing {answer : Answer} {after : World σ} (hnone : ∀ unit, answer ≠ .ok (some unit))
    (moves : world.Moves .silent after) : Settles request world answer after

/-- A chain of loaders that request nothing has an answer to every request, and this is what comes
of it. -/
theorem resolve_settles (ha : world.AsksOnly .requestless) (level : Nat) (request : String) :
    ∃ answer after, resolve (level + 1) request world = some (answer, after) ∧
      world.Settles request answer after := by
  rw [resolve]
  split
  · next unit hkept => exact ⟨_, _, rfl, .reused hkept⟩
  · next hmissing =>
    obtain ⟨answer, after, hfirst, ends⟩ :=
      Resolver.firstAnswer_requestless ha level (resolve level) request world
    rw [hfirst]
    cases ends with
    | @made loader middle after unit asked moves made =>
      have hpath : after.chain.pathOf request = world.chain.pathOf request := by
        rw [made.chain_eq, moves.sameStores.chain]
      refine ⟨_, _, rfl, ?_⟩
      rw [← hpath]
      exact .loaded hmissing asked moves made
    | nothing hnone moves =>
      cases answer with
      | error error => exact ⟨_, _, rfl, .nothing hnone moves⟩
      | ok unit? =>
        cases unit? with
        | none => exact ⟨_, _, rfl, .nothing hnone (moves.tail (.note _ _ rfl))⟩
        | some unit => exact absurd rfl (hnone unit)

/-- Requests to loaders whose generators request nothing always have an answer, and leave no trace
if no unit comes of them. If a loader that is requested directly makes a unit, then the unit is put
on record if its name had none, and nothing else is written. If the chain has no unit, then all the
registries and the chain, with what it has loaded, are as before, whichever loaders were asked. -/
theorem request_leaves_no_trace (world : World σ) (level : Nat) (request : String) :
    (∀ loader : Loader σ, loader.Requestless →
      ∃ answer after, world.dispatch level loader request = some (answer, after) ∧
        ((∀ unit, answer ≠ .ok (some unit)) → world.SameStores after) ∧
        ∀ unit, answer = .ok (some unit) → loader.RecordsOnly unit world after) ∧
    (world.AsksOnly .requestless →
      ∃ answer after, resolve (level + 1) request world = some (answer, after) ∧
        ((∀ unit, answer ≠ .ok (some unit)) → world.SameStores after)) := by
  constructor
  · intro loader hl
    obtain ⟨answer, after, hdispatch, serves⟩ :=
      Loader.dispatch_requestless hl level (resolve level) request world
    refine ⟨answer, after, hdispatch, fun hnone => (serves.moves hnone).sameStores, ?_⟩
    rintro unit rfl
    cases serves with
    | made moves made => exact made.recordsOnly moves
  · intro ha
    obtain ⟨answer, after, hresolve, settles⟩ := resolve_settles ha level request
    refine ⟨answer, after, hresolve, fun hnone => ?_⟩
    cases settles with
    | reused => exact absurd rfl (hnone _)
    | loaded => exact absurd rfl (hnone _)
    | nothing _ moves => exact moves.sameStores

end World

/-- A loader that has a line for every name and leaves in one way. -/
def drafts (id : String) (exit : Exit) : Loader Unit where
  id := id
  rules := [⟨.everyName, fun _ => .done ⟨["draft"], exit⟩⟩]
  allowList? := none
  fragmentPolicy := .accumulate
  style := {}
  registry := .own 0

/-- A world with a name on record of which another loader makes a unit again, where the registry
refuses second loaders. -/
def drafting : World Unit where
  memory := ()
  registries := fun _ => Registry.insert { policy := .rejectDuplicates }
    { name := "App", loader := "site", pattern := "*", recordedAt := "" }
  chain := (Chain.caching.register (.loader (drafts "first" .next))).register
    (.loader (drafts "second" .done))
  now := ""

/-- The refusal of a registry that a request ends with. -/
def Answer.refusal? : Answer → Option RegistryError
  | .error (.registry error) => some error
  | _ => none

theorem Answer.refusal?_eq_some_iff {error : RegistryError} :
    answer.refusal? = some error ↔ answer = .error (.registry error) := by
  rcases answer with (_ | found) | unit? <;> simp [refusal?]

theorem drafts_requestless (id : String) (exit : Exit) : (drafts id exit).Requestless := by
  intro rule hrule context
  rw [List.mem_singleton.mp hrule]
  exact .done _

theorem drafting_asksOnly : drafting.AsksOnly .requestless := by
  intro resolver hr
  rcases List.mem_cons.mp hr with rfl | hr
  · exact ⟨_, rfl, drafts_requestless _ _⟩
  · rw [List.mem_singleton.mp hr]
    exact ⟨_, rfl, drafts_requestless _ _⟩

theorem drafting_request_leaves_no_trace :
    drafting.AsksOnly .requestless ∧ (drafts "third" .stop).Requestless ∧
    (∃ error after, World.resolve 1 "App" drafting = some (.error (.registry error), after) ∧
      drafting.SameStores after) ∧
    ∃ unit after,
      drafting.dispatch 0 (drafts "third" .stop) "Lib" = some (.ok (some unit), after) ∧
      (drafts "third" .stop).RecordsOnly unit drafting after := by
  have hrefused : (World.resolve 1 "App" drafting).bind (·.1.refusal?) =
      some (.duplicateGeneration "App" "site" "second") := by decide +kernel
  have hmade : ((drafting.dispatch 0 (drafts "third" .stop) "Lib").bind (·.1.toOption.join)).map
      (·.fragments) = some ["draft"] := by decide +kernel
  have htrace := World.request_leaves_no_trace drafting 0
  refine ⟨drafting_asksOnly, drafts_requestless _ _, ?_, ?_⟩
  · obtain ⟨answer, after, hresolve, hsame⟩ := (htrace "App").2 drafting_asksOnly
    rw [hresolve] at hrefused ⊢
    obtain rfl := Answer.refusal?_eq_some_iff.mp hrefused
    exact ⟨_, after, rfl, hsame (by rintro _ ⟨⟩)⟩
  · obtain ⟨answer, after, hdispatch, -, hrecords⟩ :=
      (htrace "Lib").1 (drafts "third" .stop) (drafts_requestless _ _)
    rw [hdispatch] at hmade ⊢
    cases answer with
    | error => cases hmade
    | ok unit? =>
      cases unit? with
      | none => cases hmade
      | some unit => exact ⟨unit, after, rfl, hrecords unit rfl⟩

end ModuleSynthesis
