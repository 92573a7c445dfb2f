import ModuleSynthesis.Proofs.Dispatch
import ModuleSynthesis.Proofs.Glob.Fit
import ModuleSynthesis.Proofs.Name

/-!
# What a chain keeps

A chain that keeps units looks for a kept one, asks its loaders and keeps what they made. Generators
may request modules meanwhile, the requested one included, so more than one unit of its name may be
made. The chain keeps the first of them and gives out the last.

* `World.firstSince?`: the first unit of a name that was generated since an earlier world.
* `World.resolve_kept`: what the chain keeps after it has given out a unit.
* `World.Moves.resolve_reused`: a unit that is kept answers all later requests for its name.
* `World.resolve_coherent_iff`: when the chain keeps the unit that it gave out.
-/

namespace ModuleSynthesis

variable {σ : Type} {scope : Scope σ} {start world after : World σ} {request : String}
  {unit : SourceUnit}

/-! ## Units generated since an earlier world -/

/-- The unit of a name that an event says was generated. -/
def Event.unitNamed? (name : String) : Event → Option SourceUnit
  | .generated _ unit => if unit.name = name then some unit else none
  | _ => none

theorem Event.unitNamed?_of_not_isGenerated {event : Event} (h : event.isGenerated = false)
    (name : String) : event.unitNamed? name = none := by
  cases event with
  | generated => cases h
  | _ => rfl

namespace World

/-- What has happened since an earlier world, in order. -/
def eventsSince (world start : World σ) : List Event :=
  (world.journal.take (world.journal.length - start.journal.length)).reverse

/-- The first unit of a name that was generated since an earlier world. -/
def firstSince? (world start : World σ) (name : String) : Option SourceUnit :=
  (world.eventsSince start).findSome? (·.unitNamed? name)

theorem firstSince?_eq {events : List Event} (h : world.journal = events ++ start.journal)
    (name : String) :
    world.firstSince? start name = events.reverse.findSome? (·.unitNamed? name) := by
  rw [firstSince?, eventsSince, h, List.length_append, Nat.add_sub_cancel, List.take_left]

theorem firstSince?_self (world : World σ) (name : String) :
    world.firstSince? world name = none := by
  have hjournal : world.journal = [] ++ world.journal := rfl
  exact firstSince?_eq hjournal name

/-- One more event counts where there was no unit of the name yet. -/
theorem firstSince?_of_cons {event : Event} (hsuffix : start.journal <:+ world.journal)
    (h : after.journal = event :: world.journal) (name : String) :
    after.firstSince? start name = (world.firstSince? start name).or (event.unitNamed? name) := by
  obtain ⟨events, hevents⟩ := hsuffix
  have hafter : after.journal = (event :: events) ++ start.journal := by
    rw [h, ← hevents, List.cons_append]
  rw [firstSince?_eq hafter, firstSince?_eq hevents.symm, List.reverse_cons,
    List.findSome?_append, List.findSome?_singleton]

/-- A unit counts that a loader made for the chain, where there was none of its name yet. -/
theorem firstSince?_keep {middle : World σ} {loader : Loader σ} {requested : String}
    (hsuffix : start.journal <:+ world.journal) (made : loader.Makes requested world unit middle)
    (name : String) :
    (middle.keep requested unit).firstSince? start name =
      (world.firstSince? start name).or
        (if Name.ofRequest requested = name then some unit else none) := by
  have hjournal : (middle.keep requested unit).journal =
      .generated loader.registry unit :: world.journal := made.journal_eq
  rw [firstSince?_of_cons hsuffix hjournal, Event.unitNamed?, made.name_eq]

end World

/-! ## While a request is served -/

/-- A scope in which the chain serves a request and asks nothing but loaders. -/
def Scope.loaders : Scope σ where
  asks resolver := ∃ loader, resolver = .loader loader
  dispatches _ := False
  writes _ _ _ := False

/-- While a request for a name is served that the chain had not kept, it keeps the first unit that
was made of that name. -/
structure World.KeepsFirst (start : World σ) (request : String) (world : World σ) : Prop where
  journal : start.journal <:+ world.journal
  keeps : world.chain.loaded?.isSome
  unitAt : world.chain.unitAt? (world.chain.pathOf request) =
    world.firstSince? start (Name.ofRequest request)

theorem Chain.pathOf_eq_iff (chain : Chain σ) (first second : String) :
    chain.pathOf first = chain.pathOf second ↔ Name.ofRequest first = Name.ofRequest second :=
  ⟨fun h => Name.toPath_injective h, fun h => by rw [Chain.pathOf, Chain.pathOf, h]⟩

namespace World.KeepsFirst

/-- A loader makes a unit, and the chain keeps it at once. -/
theorem load {middle : World σ} {loader : Loader σ} {requested : String}
    (made : loader.Makes requested world unit middle) (h : start.KeepsFirst request world) :
    start.KeepsFirst request (middle.keep requested unit) := by
  have hpath : (middle.keep requested unit).chain.pathOf request = middle.chain.pathOf request :=
    (Chain.Extends.keep _ _ _).pathOf_eq request
  have hkeeps : middle.chain.loaded?.isSome := by rw [made.chain_eq]; exact h.keeps
  refine ⟨?_, ?_, ?_⟩
  · rw [World.keep, made.journal_eq]
    exact h.journal.trans (List.suffix_cons _ _)
  · rw [World.keep, Chain.loaded?_keep]
    exact hkeeps
  · rw [hpath, firstSince?_keep h.journal made, World.keep, Chain.unitAt?_keep, made.chain_eq,
      h.unitAt, ← made.chain_eq]
    by_cases hname : Name.ofRequest requested = Name.ofRequest request
    · rw [if_pos ⟨(Chain.pathOf_eq_iff _ _ _).mpr hname, hkeeps⟩, if_pos hname]
    · rw [if_neg fun hp => hname ((Chain.pathOf_eq_iff _ _ _).mp hp.1), if_neg hname]

theorem move (hm : World.Move .loaders world after) (h : start.KeepsFirst request world) :
    start.KeepsFirst request after := by
  cases hm with
  | remember change => exact ⟨h.journal, h.keeps, h.unitAt⟩
  | note event he =>
    refine ⟨h.journal.trans (List.suffix_cons _ _), h.keeps, ?_⟩
    rw [firstSince?_of_cons h.journal rfl, Event.unitNamed?_of_not_isGenerated he, Option.or_none]
    exact h.unitAt
  | make direct => exact direct.elim
  | load _ made => exact h.load made
  | keep asked => obtain ⟨loader, hl⟩ := asked; cases hl
  | register => exact ⟨h.journal, h.keeps, h.unitAt⟩
  | write written => exact written.elim

end World.KeepsFirst

namespace World

/-- The chain keeps the first unit of the name that was generated while the request was served. If
none was, the unit that it gave out had been kept before. -/
theorem resolve_kept {level : Nat} (ha : world.AsksOnly .loaders)
    (hk : world.chain.loaded?.isSome)
    (h : resolve level request world = some (.ok (some unit), after)) :
    after.chain.unitAt? (after.chain.pathOf request) =
      some ((after.firstSince? world (Name.ofRequest request)).getD unit) := by
  cases resolve_resolves level ha h with
  | reused kept =>
    rw [firstSince?_of_cons List.suffix_rfl rfl, firstSince?_self]
    exact kept
  | @loaded _ middle made _ missing _ moves makes =>
    have hstart : world.KeepsFirst request world :=
      ⟨List.suffix_rfl, hk, by rw [missing, firstSince?_self]⟩
    have hmiddle : world.KeepsFirst request middle :=
      moves.invariant (fun _ _ => KeepsFirst.move) hstart
    have hend := hmiddle.load makes
    rw [hend.unitAt, firstSince?_keep hmiddle.journal makes, if_pos rfl]
    cases middle.firstSince? world (Name.ofRequest request) <;> rfl
  | custom asked => obtain ⟨loader, hl⟩ := asked; cases hl

/-- A unit that is kept answers all later requests for its name, and nothing happens but that this
is noted. -/
theorem Moves.resolve_reused (h : world.Moves scope after)
    (hk : world.chain.unitAt? (world.chain.pathOf request) = some unit) {other : String}
    (hother : Name.ofRequest other = Name.ofRequest request) (level : Nat) :
    after.chain.unitAt? (after.chain.pathOf other) = some unit ∧
      resolve (level + 1) other after =
        some (.ok (some unit), after.log (.reused other (after.chain.pathOf other))) := by
  have hkept : after.chain.unitAt? (after.chain.pathOf other) = some unit := by
    rw [(Chain.pathOf_eq_iff _ _ _).mpr hother, h.extends.pathOf_eq]
    exact h.extends.units _ _ hk
  exact ⟨hkept, by rw [resolve]; simp only [hkept]⟩

/-- In whatever world a chain that keeps units and asks nothing but loaders gives out a unit: it
keeps a unit for the name from then on, and gives out that one whenever the name is requested
again. This is the same unit exactly if the first unit of the name that was generated while the
request was served, if one was, is the unit that was given out. -/
theorem resolve_coherent_iff {level : Nat} (ha : world.AsksOnly .loaders)
    (hk : world.chain.loaded?.isSome)
    (h : resolve level request world = some (.ok (some unit), after)) :
    ∃ kept, after.chain.unitAt? (after.chain.pathOf request) = some kept ∧
      (∀ (scope : Scope σ) later, after.Moves scope later →
        ∀ other, Name.ofRequest other = Name.ofRequest request → ∀ level,
          later.chain.unitAt? (later.chain.pathOf other) = some kept ∧
          resolve (level + 1) other later =
            some (.ok (some kept), later.log (.reused other (later.chain.pathOf other)))) ∧
      (kept = unit ↔
        ∀ first, after.firstSince? world (Name.ofRequest request) = some first → first = unit) := by
  have hkept := resolve_kept ha hk h
  refine ⟨_, hkept, fun scope later hm other hother level =>
    hm.resolve_reused hkept hother level, ?_⟩
  cases after.firstSince? world (Name.ofRequest request) with
  | none => exact ⟨fun _ _ => nofun, fun _ => rfl⟩
  | some first => exact ⟨fun he _ hf => Option.some.inj hf ▸ he, fun hall => hall first rfl⟩

end World

/-- A loader for all names. The first call of its generator includes the page once more, and so
requests a module whose generation is under way. -/
def selfIncluding : Loader Nat where
  id := "site"
  rules := [⟨.everyName, fun _ => .update (· + 1) fun calls =>
    if calls = 0 then
      .resolve "App::Page" fun
        | .ok (some unit) => .done ⟨[unit.source, "our $page;"], .done⟩
        | .ok none => .done ⟨["not handled", "our $page;"], .done⟩
        | .error error => .done ⟨[], .fail (.dispatch error)⟩
    else .done ⟨["our $page;"], .done⟩⟩]
  allowList? := none
  fragmentPolicy := .discard
  style := {}
  registry := .shared

/-- A world with this loader in a chain that keeps units. -/
def selfIncludingWorld : World Nat :=
  { memory := 0, chain := Chain.caching.register (.loader selfIncluding), now := "" }

/-- The page as it is made inside of its own generation. -/
def innerPage : SourceUnit :=
  .assemble {} "App::Page" "site" "**" ["our $page;"]

/-- The page with the inner one included. -/
def outerPage : SourceUnit :=
  .assemble {} "App::Page" "site" "**" [innerPage.source, "our $page;"]

theorem selfIncludingWorld_resolve :
    ∃ after, World.resolve 2 "App::Page" selfIncludingWorld = some (.ok (some outerPage), after) ∧
      after.chain.unitAt? (after.chain.pathOf "App::Page") = some innerPage := by
  have hrun : (World.resolve 2 "App::Page" selfIncludingWorld).map (fun (answer, after) =>
      (answer.toOption, after.chain.unitAt? (after.chain.pathOf "App::Page"))) =
      some (some (some outerPage), some innerPage) := by decide +kernel
  obtain ⟨⟨answer, after⟩, hresolve, h⟩ := Option.map_eq_some_iff.mp hrun
  simp only [Prod.mk.injEq] at h
  cases answer with
  | error => cases h.1
  | ok unit? => cases h.1; exact ⟨after, hresolve, h.2⟩

theorem selfIncludingWorld_asksOnly : selfIncludingWorld.AsksOnly .loaders := fun _ hr =>
  ⟨selfIncluding, List.mem_singleton.mp hr⟩

theorem selfIncluding_resolve_coherent_iff :
    selfIncludingWorld.AsksOnly .loaders ∧ selfIncludingWorld.chain.loaded?.isSome ∧
      ∃ after,
        World.resolve 2 "App::Page" selfIncludingWorld = some (.ok (some outerPage), after) ∧
        ∃ kept, after.chain.unitAt? (after.chain.pathOf "App::Page") = some kept ∧
          (∀ (scope : Scope Nat) later, after.Moves scope later →
            ∀ other, Name.ofRequest other = Name.ofRequest "App::Page" → ∀ level,
              later.chain.unitAt? (later.chain.pathOf other) = some kept ∧
              World.resolve (level + 1) other later =
                some (.ok (some kept), later.log (.reused other (later.chain.pathOf other)))) ∧
          (kept = outerPage ↔
            ∀ first, after.firstSince? selfIncludingWorld (Name.ofRequest "App::Page") =
              some first → first = outerPage) := by
  obtain ⟨after, hresolve, -⟩ := selfIncludingWorld_resolve
  exact ⟨selfIncludingWorld_asksOnly, rfl, after, hresolve,
    World.resolve_coherent_iff selfIncludingWorld_asksOnly rfl hresolve⟩

/-- The chain gives out the outer page and keeps the inner one, which answers the next request. -/
theorem selfIncluding_resolve_incoherent :
    ∃ after final,
      World.resolve 2 "App::Page" selfIncludingWorld = some (.ok (some outerPage), after) ∧
      after.chain.unitAt? (after.chain.pathOf "App::Page") = some innerPage ∧
      World.resolve 1 "App/Page.pm" after = some (.ok (some innerPage), final) ∧
      innerPage ≠ outerPage := by
  obtain ⟨after, hresolve, hkept⟩ := selfIncludingWorld_resolve
  have hsame : Name.ofRequest "App/Page.pm" = Name.ofRequest "App::Page" := by decide +kernel
  have hstay : after.Moves .loaders after := .refl
  exact ⟨after, _, hresolve, hkept, (hstay.resolve_reused hkept hsame 0).2, by decide +kernel⟩

end ModuleSynthesis
