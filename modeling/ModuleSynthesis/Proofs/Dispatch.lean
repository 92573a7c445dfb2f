import ModuleSynthesis.Proofs.Move

/-!
# Requests as moves

What a request does to a world, said once for loaders, for chains and for sessions; nothing else
looks into their definitions.

* `Loader.Serves`, `Loader.dispatch_serves`: how a request to a loader ends.
* `World.Resolves`, `World.resolve_resolves`: how a request to a chain ends.
* `Loader.dispatch_congr`, `Resolver.firstAnswer_congr`: requests that are made meanwhile are made
  in worlds that these moves have reached.
* `World.performAll_moves`: sessions take moves alone.
* `World.Step`, `World.performAll_reaches`: the same where it does not matter who does what.
-/

namespace ModuleSynthesis

variable {σ : Type} {scope : Scope σ} {world middle after : World σ} {answer : Answer}

/-! ## How requests end -/

/-- How a request to a loader ends. -/
inductive Loader.Serves (scope : Scope σ) (loader : Loader σ) (request : String)
    (world : World σ) : Answer → World σ → Prop
  /-- The last thing that happens is that the loader makes a unit. -/
  | made {middle after : World σ} {unit : SourceUnit} (moves : world.Moves scope middle)
    (made : loader.Makes request middle unit after) : Serves scope loader request world
      (.ok (some unit)) after
  /-- The registry refuses the record. -/
  | refused {after : World σ} {pattern : String} {error : RegistryError}
    (moves : world.Moves scope after)
    (refused : (after.registries loader.registry).record (Name.ofRequest request)
      ⟨loader.id, pattern, after.now⟩ = .error error) : Serves scope loader request world
      (.error (.registry error)) after
  /-- A generator fails. -/
  | failed {after : World σ} {pattern : String} {cause : Cause} (moves : world.Moves scope after) :
    Serves scope loader request world
      (.error (.generator (Name.ofRequest request) pattern cause)) after
  /-- No rule generates the name. -/
  | declined {after : World σ} (moves : world.Moves scope after) :
    Serves scope loader request world (.ok none) after

/-- How a request to a chain ends. -/
inductive World.Resolves (scope : Scope σ) (request : String) (world : World σ) :
    Answer → World σ → Prop
  /-- The chain has kept a unit from before. -/
  | reused {unit : SourceUnit}
    (kept : world.chain.unitAt? (world.chain.pathOf request) = some unit) :
    Resolves scope request world (.ok (some unit))
      (world.log (.reused request (world.chain.pathOf request)))
  /-- A loader makes a unit, and the chain keeps it at once. -/
  | loaded {loader : Loader σ} {middle after : World σ} {unit : SourceUnit}
    (missing : world.chain.unitAt? (world.chain.pathOf request) = none)
    (asked : scope.asks (.loader loader)) (moves : world.Moves scope middle)
    (made : loader.Makes request middle unit after) :
    Resolves scope request world (.ok (some unit)) (after.keep request unit)
  /-- A loader fails, or is refused its record. -/
  | failed {loader : Loader σ} {middle after : World σ} {error : DispatchError}
    (asked : scope.asks (.loader loader)) (moves : world.Moves scope middle)
    (serves : loader.Serves scope request middle (.error error) after) :
    Resolves scope request world (.error error) after
  /-- No resolver takes the request up. -/
  | unhandled {middle : World σ} (moves : world.Moves scope middle) :
    Resolves scope request world (.ok none) (middle.log (.unhandled request))
  /-- A resolver that is no loader has the answer. -/
  | custom {serve : String → Program σ Answer} {after : World σ} {answer : Answer}
    (asked : scope.asks (.custom serve)) (moves : world.Moves scope after) :
    Resolves scope request world answer after

theorem Loader.isGenerated_refusal (loader : Loader σ) (request : String) :
    (loader.refusal request).isGenerated = false := by
  rw [Loader.refusal]; split <;> rfl

namespace Loader.Serves

variable {loader : Loader σ} {request : String}

/-- What happens before a request counts as part of it. -/
theorem after_moves (hm : world.Moves scope middle)
    (h : loader.Serves scope request middle answer after) :
    loader.Serves scope request world answer after := by
  cases h with
  | made moves made => exact .made (hm.trans moves) made
  | refused moves refused => exact .refused (hm.trans moves) refused
  | failed moves => exact .failed (hm.trans moves)
  | declined moves => exact .declined (hm.trans moves)

/-- A loader that makes no unit takes moves alone. -/
theorem moves (h : loader.Serves scope request world answer after)
    (hunit : ∀ unit, answer ≠ .ok (some unit)) : world.Moves scope after := by
  cases h with
  | made => exact absurd rfl (hunit _)
  | refused moves => exact moves
  | failed moves => exact moves
  | declined moves => exact moves

/-- So does one that is requested directly. -/
theorem moves_of_dispatches (hd : scope.dispatches loader)
    (h : loader.Serves scope request world answer after) : world.Moves scope after := by
  cases h with
  | made moves made => exact moves.tail (.make hd made)
  | refused moves => exact moves
  | failed moves => exact moves
  | declined moves => exact moves

end Loader.Serves

/-- A request to a chain takes moves alone. -/
theorem World.Resolves.moves {request : String}
    (h : world.Resolves scope request answer after) : world.Moves scope after := by
  cases h with
  | reused => exact .single (.note _ _ rfl)
  | loaded _ asked moves made => exact moves.tail (.load asked made)
  | failed asked moves serves => exact moves.trans (serves.moves fun _ => nofun)
  | unhandled moves => exact moves.tail (.note _ _ rfl)
  | custom _ moves => exact moves

/-! ## Requests -/

/-- Requests that take moves alone. -/
def Requests.Moves (scope : Scope σ) (requests : Requests σ) : Prop :=
  ∀ request world answer after, world.AsksOnly scope →
    requests request world = some (answer, after) → world.Moves scope after

section

variable {requests : Requests σ} (hr : requests.Moves scope) (ha : world.AsksOnly scope)
  {level : Nat} {request : String}

include hr ha

theorem Program.run_moves {α : Type} {program : Program σ α} {result : α}
    (h : program.run requests world = some (result, after)) : world.Moves scope after := by
  induction program generalizing world with
  | done outcome => cases h; exact .refl
  | update change next ih =>
    have first : world.Move scope { world with memory := change world.memory } :=
      .remember world change
    exact .head first (ih _ (first.asksOnly ha) h)
  | resolve request next ih =>
    rw [run] at h
    cases hreq : requests request world with
    | none => rw [hreq] at h; cases h
    | some result =>
      obtain ⟨answer, middle⟩ := result
      rw [hreq] at h
      have first : world.Moves scope middle := hr request world answer middle ha hreq
      exact first.trans (ih answer (first.asksOnly ha) h)

omit hr ha in
theorem Loader.finish_serves {loader : Loader σ} (hc : loader.considers (Name.ofRequest request))
    {pattern : String} {fragments : List String}
    (h : loader.finish (Name.ofRequest request) pattern fragments world = (answer, after)) :
    loader.Serves scope request world answer after := by
  rw [finish] at h
  split at h
  · next error hrecord => cases h; exact .refused .refl hrecord
  · next outcome registry hrecord =>
    cases h
    exact .made .refl ⟨hc, rfl, outcome, registry, hrecord, rfl⟩

theorem Loader.tryRules_serves {loader : Loader σ}
    (hc : loader.considers (Name.ofRequest request)) {rules : List (Rule σ × List String)}
    {carried : List String}
    (h : loader.tryRules level requests (Name.ofRequest request) rules carried world =
      some (answer, after)) : loader.Serves scope request world answer after := by
  induction rules generalizing carried world with
  | nil => cases h; exact .declined (.single (.note _ _ rfl))
  | cons first rules ih =>
    obtain ⟨rule, captures⟩ := first
    rw [tryRules] at h
    have called : world.Move scope (world.log (.called ⟨level, loader.id, rule.glob.text,
      ⟨Name.ofRequest request, captures, carried⟩⟩)) := .note _ _ rfl
    split at h
    · cases h
    · next outcome middle hrun =>
      have ran := Program.run_moves hr (called.asksOnly ha) hrun
      refine .after_moves (.head called ran) ?_
      have hmiddle : middle.AsksOnly scope := ran.asksOnly (called.asksOnly ha)
      split at h
      · exact finish_serves hc (Option.some.inj h)
      · exact (finish_serves hc (Option.some.inj h)).after_moves (.single (.note _ _ rfl))
      · have skipped : middle.Move scope
            (middle.log (.skipped loader.id (Name.ofRequest request) rule.glob.text)) :=
          .note _ _ rfl
        exact (ih (skipped.asksOnly hmiddle) h).after_moves (.single skipped)
      · cases h
        exact .failed (.single (.note _ _ rfl))

/-- How a request to a loader ends. -/
theorem Loader.dispatch_serves {loader : Loader σ}
    (h : loader.dispatch level requests request world = some (answer, after)) :
    loader.Serves scope request world answer after := by
  rw [dispatch] at h
  split at h
  · next hc => exact tryRules_serves hr ha hc h
  · cases h
    exact .declined (.single (.note _ _ (isGenerated_refusal loader request)))

theorem Resolver.answer_cases {resolver : Resolver σ}
    (h : resolver.answer level requests request world = some (answer, after)) :
    (∃ loader, resolver = .loader loader ∧ loader.Serves scope request world answer after) ∨
    (∃ serve, resolver = .custom serve ∧ world.Moves scope after) := by
  cases resolver with
  | loader loader =>
    rw [Resolver.answer] at h
    exact .inl ⟨loader, rfl, Loader.dispatch_serves hr ha h⟩
  | custom serve =>
    rw [Resolver.answer] at h
    exact .inr ⟨serve, rfl, Program.run_moves hr ha h⟩

/-- A resolver that does not take a request up takes moves alone. -/
theorem Resolver.answer_moves {resolver : Resolver σ}
    (h : resolver.answer level requests request world = some (.ok none, after)) :
    world.Moves scope after := by
  rcases answer_cases hr ha h with ⟨_, -, serves⟩ | ⟨_, -, moves⟩
  · exact serves.moves fun _ => nofun
  · exact moves

/-- How a request to resolvers in order ends: none of them takes it up, or one of them ends it. -/
theorem Resolver.firstAnswer_cases {resolvers : List (Resolver σ)}
    (hs : ∀ resolver ∈ resolvers, scope.asks resolver)
    (h : firstAnswer level requests request resolvers world = some (answer, after)) :
    (answer = .ok none ∧ world.Moves scope after) ∨
    (∃ loader middle, scope.asks (.loader loader) ∧ world.Moves scope middle ∧
      loader.Serves scope request middle answer after) ∨
    (∃ serve, scope.asks (.custom serve) ∧ world.Moves scope after) := by
  induction resolvers generalizing world with
  | nil => cases h; exact .inl ⟨rfl, .refl⟩
  | cons resolver resolvers ih =>
    have asked : scope.asks resolver := hs _ List.mem_cons_self
    rw [firstAnswer] at h
    split at h
    · next middle hfirst =>
      have passed : world.Moves scope middle := answer_moves hr ha hfirst
      rcases ih (passed.asksOnly ha) (fun other ho => hs other (List.mem_cons_of_mem _ ho)) h with
        ⟨hnone, moves⟩ | ⟨loader, later, hl, moves, serves⟩ | ⟨serve, hc, moves⟩
      · exact .inl ⟨hnone, passed.trans moves⟩
      · exact .inr (.inl ⟨loader, later, hl, passed.trans moves, serves⟩)
      · exact .inr (.inr ⟨serve, hc, passed.trans moves⟩)
    · rcases Resolver.answer_cases hr ha h with ⟨loader, rfl, serves⟩ | ⟨serve, rfl, moves⟩
      · exact .inr (.inl ⟨loader, world, asked, .refl, serves⟩)
      · exact .inr (.inr ⟨serve, asked, moves⟩)

end

namespace World

/-- A unit that the chain gets is kept under the path that the request had at first. -/
theorem Moves.keep_eq (h : world.Moves scope after) (request : String) (unit : SourceUnit) :
    { after with chain := after.chain.keep (world.chain.pathOf request) unit } =
      after.keep request unit := by
  rw [World.keep, h.extends.pathOf_eq]

/-- How a request to a chain ends. -/
theorem resolve_resolves (level : Nat) {request : String} (ha : world.AsksOnly scope)
    (h : resolve level request world = some (answer, after)) :
    world.Resolves scope request answer after := by
  induction level generalizing request world answer after with
  | zero => cases h
  | succ level ih =>
    have hr : Requests.Moves scope (resolve (σ := σ) level) := fun _ _ _ _ ha h => (ih ha h).moves
    rw [resolve] at h
    split at h
    · next unit hkept => cases h; exact .reused hkept
    · next hmissing =>
      split at h
      · next unit served hf =>
        cases h
        rcases Resolver.firstAnswer_cases hr ha ha hf with
          ⟨hnone, -⟩ | ⟨loader, middle, asked, moves, serves⟩ | ⟨serve, asked, moves⟩
        · cases hnone
        · cases serves with
          | made inner made =>
            have all : world.Moves scope _ := moves.trans inner
            have hpath : served.chain.pathOf request = world.chain.pathOf request := by
              rw [made.chain_eq, all.extends.pathOf_eq]
            rw [← hpath]
            exact .loaded hmissing asked all made
        · rw [moves.keep_eq]
          exact .custom asked (moves.tail (.keep asked request unit))
      · next served hf =>
        cases h
        rcases Resolver.firstAnswer_cases hr ha ha hf with
          ⟨-, moves⟩ | ⟨loader, middle, asked, moves, serves⟩ | ⟨serve, asked, moves⟩
        · exact .unhandled moves
        · exact .unhandled (moves.trans (serves.moves fun _ => nofun))
        · exact .unhandled moves
      · next hunit hnone =>
        rcases Resolver.firstAnswer_cases hr ha ha h with
          ⟨rfl, -⟩ | ⟨loader, middle, asked, moves, serves⟩ | ⟨serve, asked, moves⟩
        · exact absurd h (hnone _)
        · cases answer with
          | error error => exact .failed asked moves serves
          | ok unit? =>
            cases unit? with
            | none => exact absurd h (hnone _)
            | some unit => exact absurd h (hunit _ _)
        · exact .custom asked moves

theorem resolve_moves (level : Nat) : Requests.Moves scope (resolve (σ := σ) level) :=
  fun _ _ _ _ ha h => (resolve_resolves level ha h).moves

/-- How a request to a loader ends whose generators may request modules of the chain. -/
theorem dispatch_serves {level : Nat} {loader : Loader σ} {request : String}
    (ha : world.AsksOnly scope)
    (h : world.dispatch level loader request = some (answer, after)) :
    loader.Serves scope request world answer after :=
  Loader.dispatch_serves (resolve_moves level) ha h

end World

/-! ## Where requests are made

Generators request modules in worlds that the request that they serve has reached, and nowhere else:
how requests would be answered in other worlds makes no difference. -/

section

variable {requests others : Requests σ} (hr : requests.Moves scope) (ha : world.AsksOnly scope)
  (heq : ∀ request reached, world.Moves scope reached →
    requests request reached = others request reached)
  {level : Nat} {request : String}

include hr ha heq

theorem Program.run_congr {α : Type} (program : Program σ α) :
    program.run requests world = program.run others world := by
  induction program generalizing world with
  | done => rfl
  | update change next ih =>
    have first : world.Move scope { world with memory := change world.memory } :=
      .remember world change
    exact ih _ (first.asksOnly ha) fun request reached moves =>
      heq request reached (.head first moves)
  | resolve request next ih =>
    rw [run, run, ← heq request world .refl]
    cases hreq : requests request world with
    | none => rfl
    | some result =>
      obtain ⟨answer, middle⟩ := result
      have first : world.Moves scope middle := hr request world answer middle ha hreq
      exact ih answer (first.asksOnly ha) fun request reached moves =>
        heq request reached (first.trans moves)

theorem Loader.tryRules_congr (loader : Loader σ) (name : String)
    (rules : List (Rule σ × List String)) (carried : List String) :
    loader.tryRules level requests name rules carried world =
      loader.tryRules level others name rules carried world := by
  induction rules generalizing carried world with
  | nil => rfl
  | cons first rules ih =>
    obtain ⟨rule, captures⟩ := first
    have called : world.Move scope (world.log (.called ⟨level, loader.id, rule.glob.text,
      ⟨name, captures, carried⟩⟩)) := .note _ _ rfl
    rw [tryRules, tryRules, ← Program.run_congr hr (called.asksOnly ha) fun request reached moves =>
      heq request reached (.head called moves)]
    split
    · rfl
    · next outcome middle hrun =>
      have ran := Program.run_moves hr (called.asksOnly ha) hrun
      have skipped : middle.Move scope
          (middle.log (.skipped loader.id name rule.glob.text)) := .note _ _ rfl
      have passed : world.Moves scope _ := .tail (.head called ran) skipped
      cases outcome.exit with
      | next =>
        exact ih (passed.asksOnly ha) (fun request reached moves =>
          heq request reached (passed.trans moves)) _
      | done | stop | fail => rfl

/-- A request to a loader makes no requests but in worlds that it has reached. -/
theorem Loader.dispatch_congr (loader : Loader σ) :
    loader.dispatch level requests request world = loader.dispatch level others request world := by
  rw [dispatch, dispatch]
  split
  · exact tryRules_congr hr ha heq loader _ _ _
  · rfl

theorem Resolver.answer_congr (resolver : Resolver σ) :
    resolver.answer level requests request world = resolver.answer level others request world := by
  cases resolver with
  | loader loader =>
    rw [Resolver.answer, Resolver.answer]
    exact Loader.dispatch_congr hr ha heq loader
  | custom serve =>
    rw [Resolver.answer, Resolver.answer]
    exact Program.run_congr hr ha heq (serve request)

/-- A request to the chain makes no requests but in worlds that it has reached. -/
theorem Resolver.firstAnswer_congr (resolvers : List (Resolver σ)) :
    firstAnswer level requests request resolvers world =
      firstAnswer level others request resolvers world := by
  induction resolvers generalizing world with
  | nil => rfl
  | cons resolver resolvers ih =>
    rw [firstAnswer, firstAnswer, ← answer_congr hr ha heq resolver]
    split
    · next middle hfirst =>
      have passed : world.Moves scope middle := answer_moves hr ha hfirst
      exact ih (passed.asksOnly ha) fun request reached moves =>
        heq request reached (passed.trans moves)
    · rfl

end

/-! ## Sessions -/

/-- Whether a scope allows an action. -/
def Action.Within (scope : Scope σ) : Action σ → Prop
  | .dispatch loader _ => scope.dispatches loader
  | .resolve _ => True
  | .register resolver => scope.asks resolver
  | .record id name loader pattern => ∀ before outcome registry now,
    before.record name ⟨loader, pattern, now⟩ = .ok (outcome, registry) →
      scope.writes id before registry
  | .clear id => ∀ before, scope.writes id before before.clear

namespace World

variable {level : Nat} {action : Action σ} {actions : List (Action σ)} {reply : Reply}
  {replies : List Reply}

theorem perform_moves (hw : action.Within scope) (ha : world.AsksOnly scope)
    (h : perform level action world = some (reply, after)) : world.Moves scope after := by
  cases action with
  | dispatch loader request =>
    rw [perform] at h
    obtain ⟨⟨answer, middle⟩, hd, he⟩ := Option.map_eq_some_iff.mp h
    cases he
    exact (dispatch_serves ha hd).moves_of_dispatches hw
  | resolve request =>
    rw [perform] at h
    obtain ⟨⟨answer, middle⟩, hd, he⟩ := Option.map_eq_some_iff.mp h
    cases he
    exact (resolve_resolves level ha hd).moves
  | register resolver => cases h; exact .single (.register world hw)
  | record id name loader pattern =>
    rw [perform] at h
    split at h
    · cases h; exact .refl
    · next outcome registry hrecord =>
      cases h
      exact .single (.write (hw _ _ _ _ hrecord))
  | clear id => cases h; exact .single (.write (hw _))

/-- A session is its first action and what follows on it. -/
theorem performAll_cons_eq_some_iff :
    performAll level (action :: actions) world = some (replies, after) ↔
      ∃ reply middle rest, perform level action world = some (reply, middle) ∧
        performAll level actions middle = some (rest, after) ∧ replies = reply :: rest := by
  rw [performAll]
  constructor
  · intro h
    split at h
    · cases h
    · next reply middle hfirst =>
      split at h
      · cases h
      · next rest final hrest =>
        cases h
        exact ⟨reply, middle, rest, hfirst, hrest, rfl⟩
  · rintro ⟨reply, middle, rest, hfirst, hrest, rfl⟩
    rw [hfirst]
    dsimp only
    rw [hrest]

/-- A session takes moves alone. -/
theorem performAll_moves (hw : ∀ action ∈ actions, action.Within scope) (ha : world.AsksOnly scope)
    (h : performAll level actions world = some (replies, after)) : world.Moves scope after := by
  induction actions generalizing world replies with
  | nil => cases h; exact .refl
  | cons action actions ih =>
    obtain ⟨reply, middle, rest, hfirst, hrest, -⟩ := performAll_cons_eq_some_iff.mp h
    have first : world.Moves scope middle := perform_moves (hw action List.mem_cons_self) ha hfirst
    exact first.trans
      (ih (fun other ho => hw other (List.mem_cons_of_mem _ ho)) (first.asksOnly ha) hrest)

end World

/-! ## Where it does not matter who does what -/

/-- What happens to a world at once while a request is served. -/
inductive World.Step : World σ → World σ → Prop
  /-- A generator changes the memory. -/
  | remember (world : World σ) (change : σ → σ) :
    Step world { world with memory := change world.memory }
  /-- Something is noted, but not that a unit was generated. -/
  | note (world : World σ) (event : Event) (h : event.isGenerated = false) :
    Step world (world.log event)
  /-- A loader puts a name that it considers on record and makes the unit. -/
  | generate (world : World σ) (loader : Loader σ) (request pattern : String)
    (fragments : List String) (outcome : RecordOutcome) (registry : Registry)
    (considered : loader.considers (Name.ofRequest request))
    (recorded : (world.registries loader.registry).record (Name.ofRequest request)
      ⟨loader.id, pattern, world.now⟩ = .ok (outcome, registry)) :
    Step world ((world.setRegistry loader.registry registry).log (.generated loader.registry
      (.assemble loader.style (Name.ofRequest request) loader.id pattern fragments)))
  /-- The chain keeps a unit. -/
  | keep (world : World σ) (path : String) (unit : SourceUnit) :
    Step world { world with chain := world.chain.keep path unit }
  /-- The chain gets one more resolver. -/
  | register (world : World σ) (resolver : Resolver σ) : Step world (world.register resolver)

/-- Any number of steps. -/
def World.Reaches : World σ → World σ → Prop :=
  Relation.ReflTransGen World.Step

/-- An invariant of every step is one of any number of steps. -/
theorem World.Reaches.invariant {I : World σ → Prop}
    (hstep : ∀ world after, World.Step world after → I world → I after) {world after : World σ}
    (h : world.Reaches after) (hworld : I world) : I after := by
  induction h with
  | refl => exact hworld
  | tail _ hs ih => exact hstep _ _ hs ih

theorem Loader.Makes.step {loader : Loader σ} {request : String} {unit : SourceUnit}
    (h : loader.Makes request world unit after) : World.Step world after := by
  obtain ⟨outcome, registry, hrecord, rfl⟩ := h.recorded
  rw [h.assembled]
  exact .generate world loader request unit.pattern unit.fragments outcome registry h.considered
    hrecord

/-- Moves are steps where loaders alone write registries. -/
theorem World.Moves.reaches (hwrites : ∀ id before registry, ¬ scope.writes id before registry)
    (h : world.Moves scope after) : world.Reaches after := by
  induction h with
  | refl => exact .refl
  | tail _ hm ih =>
    cases hm with
    | remember change => exact ih.tail (.remember _ change)
    | note event he => exact ih.tail (.note _ event he)
    | make _ made => exact ih.tail made.step
    | load _ made => exact (ih.tail made.step).tail (.keep _ _ _)
    | keep _ request unit => exact ih.tail (.keep _ _ unit)
    | register => exact ih.tail (.register _ _)
    | write written => exact absurd written (hwrites _ _ _)

/-- Whether an action leaves the registries to the requests that it makes. -/
def Action.isRequest : Action σ → Bool
  | .dispatch _ _ | .resolve _ | .register _ => true
  | .record _ _ _ _ | .clear _ => false

/-- A scope that leaves the registries to the requests. -/
def Scope.requests : Scope σ where
  asks _ := True
  dispatches _ := True
  writes _ _ _ := False

theorem World.performAll_reaches {level : Nat} {actions : List (Action σ)}
    (ha : ∀ action ∈ actions, action.isRequest) {world after : World σ} {replies : List Reply}
    (h : performAll level actions world = some (replies, after)) : world.Reaches after := by
  have hwithin : ∀ action ∈ actions, action.Within .requests := fun action hm => by
    have hrequest : action.isRequest := ha action hm
    cases action with
    | dispatch | resolve | register => trivial
    | record | clear => cases hrequest
  exact (performAll_moves hwithin (fun _ _ => trivial) h).reaches fun _ _ _ => id

end ModuleSynthesis
