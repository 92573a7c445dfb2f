import ModuleSynthesis.Proofs.Coherence
import ModuleSynthesis.Proofs.Loader
import ModuleSynthesis.Proofs.Name.Path
import ModuleSynthesis.Proofs.Sharing

/-!
# What a chain has loaded

The loaded units of a chain stand under request paths. A session may do to the world what it likes,
between the requests to the chain and inside of its generators.

* `Scope.unrestricted`, `Scope.loaderSessions`: sessions that may do anything, and those whose
  chains ask nothing but loaders.
* `World.Moves.loaded_permanent`: a loaded unit stays, and to give it out again has no effects.
* `World.Moves.serves_requested_name`: a chain of loaders gives out units of the requested name
  alone, and keeps them under its path.
* `World.Moves.loaded_request_iff`: when the path of a loaded unit is a request for that unit.
-/

namespace ModuleSynthesis

variable {σ : Type} {scope : Scope σ} {start world after : World σ} {request : String}
  {unit : SourceUnit}

/-! ## Sessions -/

/-- A scope that allows everything. -/
def Scope.unrestricted : Scope σ where
  asks _ := True
  dispatches _ := True
  writes _ _ _ := True

/-- A scope in which chains ask nothing but loaders, and everything else is allowed. -/
def Scope.loaderSessions : Scope σ :=
  { unrestricted with asks := fun resolver => ∃ loader, resolver = .loader loader }

theorem Action.within_unrestricted (action : Action σ) : action.Within .unrestricted := by
  cases action with
  | dispatch | resolve | register => trivial
  | record | clear => exact fun _ => by simp [Scope.unrestricted]

/-- Every action but the registration of other resolvers. -/
theorem Action.within_loaderSessions {action : Action σ}
    (h : ∀ serve, action ≠ .register (.custom serve)) : action.Within .loaderSessions := by
  cases action with
  | dispatch | resolve => trivial
  | register resolver =>
    cases resolver with
    | loader loader => exact ⟨loader, rfl⟩
    | custom serve => exact absurd rfl (h serve)
  | record | clear => exact fun _ => by simp [Scope.loaderSessions, Scope.unrestricted]

namespace World

/-! ## Loaded units stay -/

/-- Whatever a session does, a loaded unit stays, and it answers every later request for its name.
That calls no generator and leaves the memory, the chain and the registries as they are. -/
theorem Moves.loaded_permanent (h : world.Moves scope after)
    (hloaded : world.chain.unitAt? (world.chain.pathOf request) = some unit) :
    after.chain.unitAt? (after.chain.pathOf request) = some unit ∧
      ∀ other, Name.ofRequest other = Name.ofRequest request → ∀ level, ∃ final,
        resolve (level + 1) other after = some (.ok (some unit), final) ∧
          final.calls = after.calls ∧ final.memory = after.memory ∧ final.chain = after.chain ∧
          final.registries = after.registries := by
  refine ⟨(h.resolve_reused hloaded rfl 0).1, fun other hother level => ?_⟩
  have hreused := (h.resolve_reused hloaded hother level).2
  have hcalls : (after.log (.reused other (after.chain.pathOf other))).calls = after.calls :=
    calls_log (fun _ he => by cases he) after
  exact ⟨_, hreused, hcalls, rfl, rfl, rfl⟩

end World

/-- What may happen between two requests for a page: a registry is emptied, the chain gets one more
loader, a loader that is no part of it fails, and a module of another name is loaded. -/
def errands : List (Action Unit) :=
  [.clear (.own 0), .register (.loader (stubs "late" (.own 0))),
    .dispatch (pages (.own 0) (.fail (.message "no page"))) "App::Page", .resolve "Shop/Menu.pm"]

theorem guarded_loaded_permanent :
    ∃ replies world replies' after page,
      World.performAll 3 [.resolve "App::Page"] guarded = some (replies, world) ∧
      World.performAll 3 errands world = some (replies', after) ∧
      world.Moves .unrestricted after ∧
      world.chain.unitAt? (world.chain.pathOf "App::Page") = some page ∧
      after.chain.unitAt? (after.chain.pathOf "App::Page") = some page ∧
      ∀ other, Name.ofRequest other = Name.ofRequest "App::Page" → ∀ level, ∃ final,
        World.resolve (level + 1) other after = some (.ok (some page), final) ∧
          final.calls = after.calls ∧ final.memory = after.memory ∧ final.chain = after.chain ∧
          final.registries = after.registries := by
  have hrun : ((World.performAll 3 [.resolve "App::Page"] guarded).bind fun (_, world) =>
      (World.performAll 3 errands world).map fun _ =>
        (world.chain.unitAt? (world.chain.pathOf "App::Page")).isSome) = some true := by
    decide +kernel
  obtain ⟨⟨replies, world⟩, hfirst, hrest⟩ := Option.bind_eq_some_iff.mp hrun
  obtain ⟨⟨replies', after⟩, hsecond, hkept⟩ := Option.map_eq_some_iff.mp hrest
  obtain ⟨page, hpage⟩ := Option.isSome_iff_exists.mp hkept
  have hmoves : world.Moves .unrestricted after :=
    World.performAll_moves (fun action _ => action.within_unrestricted) (fun _ _ => trivial) hsecond
  exact ⟨replies, world, replies', after, page, hfirst, hsecond, hmoves, hpage,
    World.Moves.loaded_permanent hmoves hpage⟩

namespace World

/-! ## Names of loaded units -/

/-- A chain keeps units of well-formed names that requests ask for, under the paths of these. -/
def KeepsNamed (world : World σ) : Prop :=
  ∀ path unit, world.chain.unitAt? path = some unit →
    Name.isWellFormed unit.name ∧
      ∃ request, Name.ofRequest request = unit.name ∧ world.chain.pathOf request = path

theorem keepsNamed_of_unitAt?_eq_none (hempty : ∀ path, world.chain.unitAt? path = none) :
    world.KeepsNamed := by
  intro path unit hkept
  rw [hempty path] at hkept
  cases hkept

end World

theorem Loader.Makes.isWellFormed {loader : Loader σ}
    (h : loader.Makes request world unit after) : Name.isWellFormed unit.name := by
  have hconsidered := h.considered
  rw [Loader.considers, Bool.and_eq_true] at hconsidered
  rw [h.name_eq]
  exact hconsidered.1

namespace World.KeepsNamed

theorem move (hm : World.Move .loaderSessions world after) (h : world.KeepsNamed) :
    after.KeepsNamed := by
  intro path unit hkept
  cases hm with
  | remember | note | register | write => exact h path unit hkept
  | make _ made => rw [made.chain_eq] at hkept ⊢; exact h path unit hkept
  | keep asked => obtain ⟨loader, hl⟩ := asked; cases hl
  | @load middle _ requested loaded _ made =>
    have hpath (other : String) :
        (middle.keep requested loaded).chain.pathOf other = middle.chain.pathOf other :=
      (Chain.Extends.keep _ _ _).pathOf_eq other
    rw [World.keep, Chain.unitAt?_keep] at hkept
    simp only [hpath]
    rcases Option.or_eq_some_iff.mp hkept with hold | ⟨-, hnew⟩
    · rw [made.chain_eq] at hold ⊢
      exact h path unit hold
    · obtain ⟨⟨hrequested, -⟩, hunit⟩ := Option.ite_none_right_eq_some.mp hnew
      cases hunit
      exact ⟨made.isWellFormed, requested, made.name_eq.symm, hrequested⟩

theorem moves (hm : world.Moves .loaderSessions after) (h : world.KeepsNamed) :
    after.KeepsNamed :=
  hm.invariant (fun _ _ => move) h

/-- A loaded unit stands under the path of its name. -/
theorem path_eq (h : world.KeepsNamed) {path : String}
    (hkept : world.chain.unitAt? path = some unit) :
    path = Name.toPath unit.name world.chain.extension := by
  obtain ⟨-, request, hname, hpath⟩ := h path unit hkept
  rw [← hpath, Chain.pathOf, hname]

/-- A unit that a chain of loaders gives out has the requested name. -/
theorem of_resolves (h : world.KeepsNamed)
    (hr : world.Resolves .loaderSessions request (.ok (some unit)) after) :
    unit.name = Name.ofRequest request := by
  cases hr with
  | reused found =>
    obtain ⟨-, other, hname, hpath⟩ := h _ unit found
    rw [← hname]
    exact (Chain.pathOf_eq_iff _ _ _).mp hpath
  | loaded _ _ _ made => exact made.name_eq
  | custom asked => obtain ⟨loader, hl⟩ := asked; cases hl

end World.KeepsNamed

namespace World

/-- A chain that asks nothing but loaders and has loaded nothing at first, whatever its extension:
in every world that a session reaches, it gives out units of the requested name alone, has loaded
units under the paths of their names alone, and has one path for two requests exactly if they ask
for one name. -/
theorem Moves.serves_requested_name (hempty : ∀ path, start.chain.unitAt? path = none)
    (ha : start.AsksOnly .loaderSessions) (h : start.Moves .loaderSessions world) :
    (∀ level request unit after, resolve level request world = some (.ok (some unit), after) →
      unit.name = Name.ofRequest request) ∧
    (∀ path unit, world.chain.unitAt? path = some unit →
      path = Name.toPath unit.name world.chain.extension) ∧
    ∀ first second, world.chain.pathOf first = world.chain.pathOf second ↔
      Name.ofRequest first = Name.ofRequest second := by
  have hnamed : world.KeepsNamed := (keepsNamed_of_unitAt?_eq_none hempty).moves h
  refine ⟨fun level request unit after hresolve => ?_, fun path unit hkept => hnamed.path_eq hkept,
    Chain.pathOf_eq_iff _⟩
  exact hnamed.of_resolves (resolve_resolves level (h.asksOnly ha) hresolve)

end World

/-- A world whose chain has an extension that looks like the start of a path. -/
def oddlyFiled : World Unit :=
  { guarded with chain := { guarded.chain with extension := "./::" } }

theorem oddlyFiled_serves_requested_name :
    ∃ replies world, World.performAll 3 (.resolve "App/Page.pm" :: errands) oddlyFiled =
        some (replies, world) ∧
      (∀ path, oddlyFiled.chain.unitAt? path = none) ∧
      oddlyFiled.AsksOnly .loaderSessions ∧ oddlyFiled.Moves .loaderSessions world ∧
      (∀ level request unit after,
        World.resolve level request world = some (.ok (some unit), after) →
          unit.name = Name.ofRequest request) ∧
      (∀ path unit, world.chain.unitAt? path = some unit →
        path = Name.toPath unit.name world.chain.extension) ∧
      ∀ first second, world.chain.pathOf first = world.chain.pathOf second ↔
        Name.ofRequest first = Name.ofRequest second := by
  have hrun : (World.performAll 3 (.resolve "App/Page.pm" :: errands) oddlyFiled).isSome := by
    decide +kernel
  obtain ⟨⟨replies, world⟩, hrun⟩ := Option.isSome_iff_exists.mp hrun
  have hempty : ∀ path, oddlyFiled.chain.unitAt? path = none :=
    fun _ => Std.TreeMap.getElem?_emptyc
  have hasks : oddlyFiled.AsksOnly .loaderSessions := fun resolver hr =>
    (guarded_asksOnly resolver hr).imp fun _ h => h.1
  have hwithin : ∀ action ∈ .resolve "App/Page.pm" :: errands, action.Within .loaderSessions :=
    fun action hm => Action.within_loaderSessions fun serve he => by
      subst he
      simp [errands] at hm
  have hmoves : oddlyFiled.Moves .loaderSessions world :=
    World.performAll_moves hwithin hasks hrun
  exact ⟨replies, world, hrun, hempty, hasks, hmoves,
    World.Moves.serves_requested_name hempty hasks hmoves⟩

namespace World

/-! ## Paths of loaded units as requests -/

theorem mem_loadedPaths_iff {path : String} :
    path ∈ world.chain.loadedPaths ↔ ∃ unit, world.chain.unitAt? path = some unit := by
  rw [Chain.loadedPaths, Chain.unitAt?]
  cases world.chain.loaded? with
  | none => simp
  | some loaded =>
    dsimp only
    rw [Std.TreeMap.mem_keys, Std.TreeMap.mem_iff_isSome_getElem?, Option.isSome_iff_exists]

theorem loadedPaths_sorted (world : World σ) : world.chain.loadedPaths.Pairwise (· < ·) := by
  rw [Chain.loadedPaths]
  cases world.chain.loaded? with
  | none => exact .nil
  | some loaded => exact loaded.ordered_keys.imp fun h => compareOfLessAndEq_eq_lt.mp h

/-- Chains that keep the same units have loaded the same paths. -/
theorem loadedPaths_eq_of_unitAt? {other : World σ}
    (h : ∀ path, other.chain.unitAt? path = world.chain.unitAt? path) :
    other.chain.loadedPaths = world.chain.loadedPaths := by
  refine List.Pairwise.eq_of_mem_iff other.loadedPaths_sorted world.loadedPaths_sorted ?_
  intro path
  rw [mem_loadedPaths_iff, mem_loadedPaths_iff, h]

/-- The path of a loaded unit asks for its name exactly if that can be requested by its path. -/
theorem KeepsNamed.ofRequest_path_iff (h : world.KeepsNamed)
    (hextension : world.chain.extension = Name.defaultExtension) {path : String}
    (hkept : world.chain.unitAt? path = some unit) :
    Name.ofRequest path = unit.name ↔ Name.IsRequestable unit.name := by
  obtain ⟨hwellFormed, request, hname, hpath⟩ := h path unit hkept
  have hne : Name.ofRequest request ≠ "" := by
    intro he
    rw [← hname, he] at hwellFormed
    cases hwellFormed
  rw [← hpath, Chain.pathOf, hextension, ← hname]
  exact Name.ofRequest_toPath_iff hne

/-- A chain with the default extension that asks nothing but loaders and has loaded nothing at
first: in every world that a session reaches, the path of a loaded unit is a request for that unit,
which is given out without asking a resolver, exactly if the name of the unit can be requested by
its path. If it cannot, a request for the path gives out no such unit at all. -/
theorem Moves.loaded_request_iff (hempty : ∀ path, start.chain.unitAt? path = none)
    (hextension : start.chain.extension = Name.defaultExtension)
    (ha : start.AsksOnly .loaderSessions) (h : start.Moves .loaderSessions world) {path : String}
    (hpath : path ∈ world.chain.loadedPaths) :
    ∃ unit, world.chain.unitAt? path = some unit ∧
      ((world.chain.isLoaded path ∧ ∀ level, resolve (level + 1) path world =
          some (.ok (some unit), world.log (.reused path (world.chain.pathOf path)))) ↔
        Name.IsRequestable unit.name) ∧
      ∀ level after, resolve level path world = some (.ok (some unit), after) →
        Name.IsRequestable unit.name := by
  obtain ⟨unit, hkept⟩ := mem_loadedPaths_iff.mp hpath
  have hnamed : world.KeepsNamed := (keepsNamed_of_unitAt?_eq_none hempty).moves h
  have hiff := hnamed.ofRequest_path_iff (h.extends.extension.trans hextension) hkept
  have hgiven (level : Nat) (after : World σ)
      (hresolve : resolve level path world = some (.ok (some unit), after)) :
      Name.IsRequestable unit.name :=
    hiff.mp (hnamed.of_resolves (resolve_resolves level (h.asksOnly ha) hresolve)).symm
  refine ⟨unit, hkept, ⟨fun ⟨_, hreused⟩ => hgiven 1 _ (hreused 0), fun hrequestable => ?_⟩, hgiven⟩
  have hsame : world.chain.pathOf path = path := by
    rw [Chain.pathOf, hiff.mpr hrequestable]
    exact (hnamed.path_eq hkept).symm
  have hloaded : world.chain.unitAt? (world.chain.pathOf path) = some unit := by rw [hsame, hkept]
  have hstay : world.Moves .loaderSessions world := .refl
  exact ⟨by rw [Chain.isLoaded, hloaded]; rfl,
    fun level => (hstay.resolve_reused hloaded rfl level).2⟩

end World

/-- A world whose chain keeps an empty unit for every name. -/
def filing : World Unit where
  memory := ()
  chain := Chain.caching.register (.loader (stubs "site" .shared))
  now := ""

theorem filing_asksOnly : filing.AsksOnly .loaderSessions := fun _ hr =>
  ⟨_, List.mem_singleton.mp hr⟩

/-- Requests for names with dots in them: one is a segment of its own, the others stand in front of
and within a segment. -/
def dotted : List (Action Unit) :=
  [.resolve "/./App/Page.pm", .resolve "App/.v1/Page.tar.pm"]

theorem filing_loaded_request_iff :
    ∃ replies world, World.performAll 1 dotted filing = some (replies, world) ∧
      (∀ path, filing.chain.unitAt? path = none) ∧
      filing.chain.extension = Name.defaultExtension ∧ filing.AsksOnly .loaderSessions ∧
      filing.Moves .loaderSessions world ∧ "App/.v1/Page.tar.pm" ∈ world.chain.loadedPaths ∧
      Name.IsRequestable "App::.v1::Page.tar" ∧
      ∃ unit, world.chain.unitAt? "App/.v1/Page.tar.pm" = some unit ∧
        ((world.chain.isLoaded "App/.v1/Page.tar.pm" ∧
            ∀ level, World.resolve (level + 1) "App/.v1/Page.tar.pm" world = some (.ok (some unit),
              world.log (.reused "App/.v1/Page.tar.pm"
                (world.chain.pathOf "App/.v1/Page.tar.pm")))) ↔
          Name.IsRequestable unit.name) ∧
        ∀ level after,
          World.resolve level "App/.v1/Page.tar.pm" world = some (.ok (some unit), after) →
            Name.IsRequestable unit.name := by
  have hpaths : (World.performAll 1 dotted filing).map (fun (_, world) =>
      world.chain.loadedPaths) = some ["./App/Page.pm", "App/.v1/Page.tar.pm"] := by
    decide +kernel
  obtain ⟨⟨replies, world⟩, hrun, hpath⟩ := Option.map_eq_some_iff.mp hpaths
  have hempty : ∀ path, filing.chain.unitAt? path = none := fun _ => Std.TreeMap.getElem?_emptyc
  have hwithin : ∀ action ∈ dotted, action.Within .loaderSessions :=
    fun action hm => Action.within_loaderSessions fun serve he => by
      subst he
      simp [dotted] at hm
  have hmoves : filing.Moves .loaderSessions world :=
    World.performAll_moves hwithin filing_asksOnly hrun
  have hmem : "App/.v1/Page.tar.pm" ∈ world.chain.loadedPaths := by
    dsimp only at hpath
    simp [hpath]
  have hrequestable : Name.IsRequestable "App::.v1::Page.tar" :=
    ⟨by rintro _ ⟨⟩; decide, by decide, by decide⟩
  exact ⟨replies, world, hrun, hempty, rfl, filing_asksOnly, hmoves, hmem, hrequestable,
    World.Moves.loaded_request_iff hempty rfl filing_asksOnly hmoves hmem⟩

/-- The path of the other unit, taken as a request, loses its `./` and asks for another name. -/
theorem filing_path_requests_other :
    ∃ replies world, World.performAll 1 (dotted.take 1) filing = some (replies, world) ∧
      world.chain.loadedPaths = ["./App/Page.pm"] ∧
      world.chain.isLoaded "./App/Page.pm" = false ∧
      ∃ unit other after, world.chain.unitAt? "./App/Page.pm" = some unit ∧
        World.resolve 1 "./App/Page.pm" world = some (.ok (some other), after) ∧
        unit.name = ".::App::Page" ∧ other.name = "App::Page" := by
  have hquery : ((World.performAll 1 (dotted.take 1) filing).bind fun (_, world) =>
      (World.resolve 1 "./App/Page.pm" world).map fun result =>
        (world.chain.loadedPaths, world.chain.isLoaded "./App/Page.pm",
          (world.chain.unitAt? "./App/Page.pm").map (·.name),
          result.1.toOption.map (·.map (·.name)))) =
      some (["./App/Page.pm"], false, some ".::App::Page", some (some "App::Page")) := by
    decide +kernel
  obtain ⟨⟨replies, world⟩, hrun, hrest⟩ := Option.bind_eq_some_iff.mp hquery
  obtain ⟨⟨answer, after⟩, hresolve, h⟩ := Option.map_eq_some_iff.mp hrest
  simp only [Prod.mk.injEq] at h
  obtain ⟨hpaths, hloaded, hkept, hanswer⟩ := h
  obtain ⟨unit, hunit, hname⟩ := Option.map_eq_some_iff.mp hkept
  obtain ⟨other?, hother?, hother⟩ := Option.map_eq_some_iff.mp hanswer
  obtain ⟨other, rfl, hothername⟩ := Option.map_eq_some_iff.mp hother
  cases answer with
  | error => cases hother?
  | ok other? =>
    cases hother?
    exact ⟨replies, world, hrun, hpaths, hloaded, unit, other, after, hunit, hresolve, hname,
      hothername⟩

end ModuleSynthesis
