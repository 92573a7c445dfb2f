import ModuleSynthesis.Proofs.Manifest.Failure
import ModuleSynthesis.Proofs.Trace

/-!
# What a manifest has on record

The registry of an installed manifest gives account of the requests that were made: on record are
the names that were asked for and of which there is a unit, each with the loader and the glob of
that unit, and no others. The chain, where it keeps units, has loaded just these.

* `Answer.unit?`: the unit of an answer.
* `World.Accounts`: what a world has on record and has loaded is what was asked for so far.
* `World.Accounts.resolve`, `World.Accounts.performAll`: requests are answered as the loaders answer
  their names, and are accounted for.
* `Manifest.exists_accounts`: nothing is on record or loaded of a freshly installed manifest.
* `Manifest.exists_session`: so a session of requests is accounted for as a whole.
-/

namespace ModuleSynthesis

variable {σ : Type} {world after : World σ} {registry : RegistryId} {loaders : List CompiledLoader}
  {asked : List String} {request : String} {unit : SourceUnit}

/-- The unit of an answer, if there is one. -/
def Answer.unit? : Answer → Option SourceUnit
  | .ok (some unit) => some unit
  | _ => none

theorem Answer.unit?_eq_some_iff {answer : Answer} {unit : SourceUnit} :
    answer.unit? = some unit ↔ answer = .ok (some unit) := by
  cases answer with
  | error => exact ⟨nofun, nofun⟩
  | ok unit? => cases unit? <;> simp [unit?]

theorem Answer.unit?_eq_none_iff {answer : Answer} :
    answer.unit? = none ↔ ∀ unit, answer ≠ .ok (some unit) := by
  simp only [Option.eq_none_iff_forall_ne_some, ne_eq, unit?_eq_some_iff]

/-- Who made a unit. -/
def SourceUnit.maker (unit : SourceUnit) : String × String :=
  (unit.loader, unit.pattern)

/-- The generators of a manifest request nothing. -/
theorem CompiledLoader.toLoader_requestless (loader : CompiledLoader) (registry : RegistryId) :
    (loader.toLoader registry : Loader σ).Requestless := by
  intro rule hrule context
  obtain ⟨compiled, -, rfl⟩ := List.mem_map.mp hrule
  exact .done _

namespace World

theorem AgreesWith.asksOnly (h : world.AgreesWith registry loaders) :
    world.AsksOnly .requestless := by
  intro resolver hr
  rw [h.resolvers] at hr
  obtain ⟨loader, -, rfl⟩ := List.mem_map.mp hr
  exact ⟨_, rfl, loader.toLoader_requestless registry⟩

/-- A world agrees with loaders, and on record are those of the names that were asked for of which
the loaders have a unit. A chain that keeps units has the units of these names, each under the path
of its name. -/
structure Accounts (world : World σ) (registry : RegistryId) (loaders : List CompiledLoader)
    (asked : List String) : Prop where
  agrees : world.AgreesWith registry loaders
  kept : ∀ path unit, world.chain.unitAt? path = some unit ↔ world.chain.loaded?.isSome ∧
    ∃ request, Name.ofRequest request ∈ asked ∧ world.chain.pathOf request = path ∧
      CompiledLoader.firstAnswer loaders (Name.ofRequest request) = .ok (some unit)
  recorded : ∀ name : String, (world.registries registry).entries[name]?.map (·.maker) =
    if name ∈ asked then (CompiledLoader.firstAnswer loaders name).unit?.map SourceUnit.maker
    else none

namespace Accounts

/-- What is on record for a name that the loaders have a unit of is the maker of the unit. -/
theorem maker_eq (h : world.Accounts registry loaders asked) {name : String} {unit : SourceUnit}
    {record : ProvenanceRecord}
    (hunit : CompiledLoader.firstAnswer loaders name = .ok (some unit))
    (he : (world.registries registry).entries[name]? = some record) :
    record.maker = unit.maker := by
  have hrecorded := h.recorded name
  rw [he, hunit] at hrecorded
  split at hrecorded
  · exact Option.some.inj hrecorded
  · cases hrecorded

/-- One more name is accounted for once it is on record as its answer says. -/
theorem recorded_cons (h : world.Accounts registry loaders asked) {first : String}
    (hothers : ∀ name : String, name ≠ first →
      (after.registries registry).entries[name]? = (world.registries registry).entries[name]?)
    (hfirst : (after.registries registry).entries[first]?.map (·.maker) =
      (CompiledLoader.firstAnswer loaders first).unit?.map SourceUnit.maker) (name : String) :
    (after.registries registry).entries[name]?.map (·.maker) =
      if name ∈ first :: asked then
        (CompiledLoader.firstAnswer loaders name).unit?.map SourceUnit.maker
      else none := by
  by_cases hname : name = first
  · rw [hname, if_pos List.mem_cons_self, hfirst]
  · simp only [hothers name hname, h.recorded name, List.mem_cons, hname, false_or]

/-- A name whose unit is kept was asked for. -/
theorem mem_of_unitAt? (h : world.Accounts registry loaders asked)
    (hkept : world.chain.unitAt? (world.chain.pathOf request) = some unit) :
    Name.ofRequest request ∈ asked := by
  obtain ⟨-, other, hasked, hpath, -⟩ := (h.kept _ _).mp hkept
  have hsame : Name.ofRequest other = Name.ofRequest request := Name.toPath_injective hpath
  rw [← hsame]
  exact hasked

/-- One more name is accounted for once its unit is kept, if there is one, unless another one has
been kept under its path. -/
theorem kept_cons (h : world.Accounts registry loaders asked)
    (hextends : world.chain.Extends after.chain)
    (hunits : ∀ path, after.chain.unitAt? path = (world.chain.unitAt? path).or
      (if world.chain.pathOf request = path ∧ world.chain.loaded?.isSome then
        (CompiledLoader.firstAnswer loaders (Name.ofRequest request)).unit? else none))
    (path : String) (unit : SourceUnit) :
    after.chain.unitAt? path = some unit ↔ after.chain.loaded?.isSome ∧
      ∃ other, Name.ofRequest other ∈ Name.ofRequest request :: asked ∧
        after.chain.pathOf other = path ∧
        CompiledLoader.firstAnswer loaders (Name.ofRequest other) = .ok (some unit) := by
  simp only [hunits, Option.or_eq_some_iff, hextends.keeps, hextends.pathOf_eq, List.mem_cons]
  constructor
  · rintro (hold | ⟨-, hnew⟩)
    · obtain ⟨hkeeps, other, hasked, hfound⟩ := (h.kept path unit).mp hold
      exact ⟨hkeeps, other, .inr hasked, hfound⟩
    · obtain ⟨⟨hpath, hkeeps⟩, hunit⟩ := Option.ite_none_right_eq_some.mp hnew
      exact ⟨hkeeps, request, .inl rfl, hpath, Answer.unit?_eq_some_iff.mp hunit⟩
  · rintro ⟨hkeeps, other, hsame | hasked, hpath, hunit⟩
    · cases hkept : world.chain.unitAt? path with
      | none =>
        have hrequest : world.chain.pathOf request = path := by
          rw [← hpath, Chain.pathOf, Chain.pathOf, hsame]
        rw [hsame] at hunit
        exact .inr ⟨rfl, by rw [if_pos ⟨hrequest, hkeeps⟩, Answer.unit?_eq_some_iff.mpr hunit]⟩
      | some found =>
        -- What is kept under a path is the unit of all names with this path, which are one.
        obtain ⟨-, first, -, hfirst, hfound⟩ := (h.kept path found).mp hkept
        have hnames : Name.ofRequest first = Name.ofRequest other :=
          Name.toPath_injective (hfirst.trans hpath.symm)
        rw [← hnames, hfound] at hunit
        cases hunit
        exact .inl rfl
    · exact .inl ((h.kept path unit).mpr ⟨hkeeps, other, hasked, hpath, hunit⟩)

/-- A request to the chain is answered as the loaders answer its name, which is then accounted
for. -/
theorem resolve (h : world.Accounts registry loaders asked) (level : Nat) (request : String) :
    ∃ after, World.resolve (level + 1) request world =
        some (CompiledLoader.firstAnswer loaders (Name.ofRequest request), after) ∧
      after.Accounts registry loaders (Name.ofRequest request :: asked) := by
  obtain ⟨after, hresolve, hagrees⟩ := h.agrees.resolve level request
  obtain ⟨answer, other, hsettled, settles⟩ := resolve_settles h.agrees.asksOnly level request
  obtain ⟨hanswer, rfl⟩ := Prod.mk.inj (Option.some.inj (hresolve.symm.trans hsettled))
  refine ⟨after, hresolve, hagrees, ?_, ?_⟩
  case refine_1 =>
    refine h.kept_cons (resolve_moves (level + 1) _ _ _ _ h.agrees.asksOnly hresolve).extends ?_
    intro path
    cases settles with
    | @reused unit kept =>
      by_cases hpath : world.chain.pathOf request = path
      · have hfound : world.chain.unitAt? path = some unit := hpath ▸ kept
        rw [hfound, Option.some_or]
        exact hfound
      · rw [if_neg fun h => hpath h.1, Option.or_none]
        rfl
    | nothing hnone moves =>
      rw [hanswer, Answer.unit?_eq_none_iff.mpr hnone, ite_self, Option.or_none,
        moves.sameStores.chain]
    | @loaded _ _ made _ _ _ moves makes =>
      have hchain : made.chain = world.chain := makes.chain_eq.trans moves.sameStores.chain
      rw [World.keep, hchain, hanswer]
      exact Chain.unitAt?_keep _ _ _ _
  case refine_2 =>
    cases settles with
    | reused kept =>
      refine h.recorded_cons (fun _ _ => rfl) ?_
      exact (h.recorded _).trans (if_pos (h.mem_of_unitAt? kept))
    | nothing hnone moves =>
      have hsame := moves.sameStores.registries
      refine h.recorded_cons (fun _ _ => by rw [hsame]) ?_
      rw [hsame, h.recorded, hanswer, Answer.unit?_eq_none_iff.mpr hnone, Option.map_none, ite_self]
    | @loaded loader middle made unit _ asked moves makes =>
      rw [h.agrees.resolvers] at asked
      obtain ⟨compiled, -, hloader⟩ := List.mem_map.mp asked
      cases hloader
      obtain ⟨outcome, hrecord⟩ := makes.record_eq
      rw [makes.name_eq, moves.sameStores.registries, CompiledLoader.toLoader_registry] at hrecord
      have hentry : ∀ name : String, ((made.keep request unit).registries registry).entries[name]? =
          _ := Registry.entry_of_record hrecord
      refine h.recorded_cons (fun name hname => ?_) ?_
      · rw [hentry, if_neg (Ne.symm hname)]
      · rw [hentry, if_pos rfl, hanswer]
        cases he : (world.registries registry).entries[Name.ofRequest request]? with
        | none => rfl
        | some record => exact congrArg some (h.maker_eq hanswer he)

/-- Requests one after another are answered as the loaders answer their names, which are then
accounted for. -/
theorem performAll (h : world.Accounts registry loaders asked) (level : Nat)
    (requests : List String) :
    ∃ after, World.performAll (level + 1) (requests.map .resolve) world =
        some (requests.map fun request =>
          .answered (CompiledLoader.firstAnswer loaders (Name.ofRequest request)), after) ∧
      after.Accounts registry loaders ((requests.map Name.ofRequest).reverse ++ asked) :=
  performAll_of_resolve (I := fun asked world => world.Accounts registry loaders asked)
    (fun _ _ request h => h.resolve level request) requests asked h

end Accounts

end World

/-- Nothing is on record or loaded of a freshly installed manifest. -/
theorem Manifest.exists_accounts {manifest : Manifest} (h : manifest.declared = .ok loaders)
    (memory : σ) (keeps : Bool) (extension now : String) :
    ∃ world, manifest.world memory (.fresh keeps extension) now =
        .ok (loaders.map (·.toLoader (.own 0)), world) ∧
      world.Accounts (.own 0) loaders [] := by
  obtain ⟨world, hworld, hagrees⟩ := Manifest.world_agreesWith h memory keeps extension now
  refine ⟨world, hworld, hagrees, fun path unit => ?_, fun name => ?_⟩
  all_goals
    rw [Manifest.world, Manifest.install_of_declared h] at hworld
    cases hworld
  · have hnone : (Chain.fresh keeps extension : Chain σ).unitAt? path = none :=
      Chain.unitAt?_fresh keeps extension path
    constructor
    · intro hkept
      cases hnone.symm.trans hkept
    · rintro ⟨-, _, hasked, -⟩
      cases hasked
  · exact congrArg _ Std.TreeMap.getElem?_emptyc

theorem World.resolves_within (requests : List String) :
    ∀ action ∈ requests.map (.resolve : String → Action σ), action.Within .requests := by
  simp [Action.Within]

/-- A session of requests with a freshly installed manifest: they are answered as the loaders answer
their names, and are accounted for. The policy of the registry and what the chain makes of paths
stay. -/
theorem Manifest.exists_session {manifest : Manifest} (h : manifest.declared = .ok loaders)
    (memory : σ) (keeps : Bool) (extension now : String) (level : Nat) (requests : List String) :
    ∃ world after, manifest.world memory (.fresh keeps extension) now =
        .ok (loaders.map (·.toLoader (.own 0)), world) ∧
      World.performAll (level + 1) (requests.map .resolve) world =
        some (requests.map fun request =>
          .answered (CompiledLoader.firstAnswer loaders (Name.ofRequest request)), after) ∧
      after.Accounts (.own 0) loaders (requests.map Name.ofRequest).reverse ∧
      (after.registries (.own 0)).policy = manifest.policy ∧
      (Chain.fresh keeps extension : Chain σ).Extends after.chain := by
  obtain ⟨world, hworld, haccounts⟩ := Manifest.exists_accounts h memory keeps extension now
  obtain ⟨after, hperform, hafter⟩ := haccounts.performAll level requests
  rw [List.append_nil] at hafter
  have moves : world.Moves .requests after :=
    World.performAll_moves (World.resolves_within requests) (fun _ _ => trivial) hperform
  have hextends : (world.registries (.own 0)).Extends (after.registries (.own 0)) :=
    moves.registryExtends fun _ _ (h : False) => h.elim
  refine ⟨world, after, hworld, hperform, hafter, ?_, ?_⟩
  all_goals
    rw [Manifest.world, Manifest.install_of_declared h] at hworld
    cases hworld
  · exact hextends.policy
  · refine Chain.Extends.trans ?_ moves.extends
    exact ⟨rfl, rfl, fun _ _ hkept => hkept⟩

end ModuleSynthesis
