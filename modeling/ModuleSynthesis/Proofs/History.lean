import ModuleSynthesis.Proofs.Dispatch
import ModuleSynthesis.Proofs.Glob.Fit
import ModuleSynthesis.Proofs.Name
import ModuleSynthesis.Proofs.Provenance
import ModuleSynthesis.Proofs.World

/-!
# Provenance as history

Where only requests write the registries, what they hold can be read off the journal: a name is on
record exactly if a unit of that name was generated, and the first of them says by whom.

* `World.firstGenerated?`: the first unit of a name that went on record in a registry.
* `World.KeepsHistory`: the registries agree with the journal. Every step of a world keeps this.
* `Loader.generated_query_iff`: which of the names that a loader generated it knows again when it is
  asked for them.
-/

namespace ModuleSynthesis

variable {σ : Type}

/-! ## The first unit of a name -/

/-- The unit of a name that an event puts on record in a registry. -/
def Event.unitOf? (id : RegistryId) (name : String) : Event → Option SourceUnit
  | .generated other unit => if other = id ∧ unit.name = name then some unit else none
  | _ => none

/-- The first unit of a name that went on record in a registry. -/
def World.firstGenerated? (world : World σ) (id : RegistryId) (name : String) :
    Option SourceUnit :=
  world.journal.reverse.findSome? (·.unitOf? id name)

theorem World.firstGenerated?_log (world : World σ) (event : Event) (id : RegistryId)
    (name : String) :
    (world.log event).firstGenerated? id name =
      (world.firstGenerated? id name).or (event.unitOf? id name) := by
  rw [firstGenerated?, log, List.reverse_cons, List.findSome?_append, List.findSome?_singleton]
  rfl

theorem World.firstGenerated?_setRegistry (world : World σ) (written : RegistryId)
    (registry : Registry) (id : RegistryId) (name : String) :
    (world.setRegistry written registry).firstGenerated? id name = world.firstGenerated? id name :=
  rfl

theorem Event.unitOf?_of_not_isGenerated {event : Event} (h : event.isGenerated = false)
    (id : RegistryId) (name : String) : event.unitOf? id name = none := by
  cases event with
  | generated => cases h
  | _ => rfl

theorem Event.unitOf?_eq_some_iff {event : Event} {id : RegistryId} {name : String}
    {unit : SourceUnit} :
    event.unitOf? id name = some unit ↔ event = .generated id unit ∧ unit.name = name := by
  cases event with
  | generated other found =>
    rw [unitOf?, Option.ite_none_right_eq_some, Option.some.injEq, generated.injEq]
    constructor
    · rintro ⟨⟨hid, hname⟩, rfl⟩
      exact ⟨⟨hid, rfl⟩, hname⟩
    · rintro ⟨⟨hid, rfl⟩, hname⟩
      exact ⟨⟨hid, hname⟩, rfl⟩
  | _ => simp [unitOf?]

/-- The first unit of a name is of that name, and it was generated. -/
theorem World.generated_of_firstGenerated? {world : World σ} {id : RegistryId} {name : String}
    {unit : SourceUnit} (h : world.firstGenerated? id name = some unit) :
    .generated id unit ∈ world.journal ∧ unit.name = name := by
  obtain ⟨event, hm, he⟩ := List.exists_of_findSome?_eq_some h
  obtain ⟨rfl, hname⟩ := Event.unitOf?_eq_some_iff.mp he
  exact ⟨List.mem_reverse.mp hm, hname⟩

/-- There is a first unit of a name exactly if a unit of the name was generated. -/
theorem World.firstGenerated?_isSome_iff {world : World σ} {id : RegistryId} {name : String} :
    (world.firstGenerated? id name).isSome ↔
      ∃ unit, .generated id unit ∈ world.journal ∧ unit.name = name := by
  constructor
  · intro hfirst
    obtain ⟨unit, hunit⟩ := Option.isSome_iff_exists.mp hfirst
    exact ⟨unit, generated_of_firstGenerated? hunit⟩
  · rintro ⟨unit, hm, hname⟩
    have hunit : (Event.generated id unit).unitOf? id name = some unit :=
      Event.unitOf?_eq_some_iff.mpr ⟨rfl, hname⟩
    exact List.findSome?_isSome_iff.mpr
      ⟨_, List.mem_reverse.mpr hm, Option.isSome_of_eq_some hunit⟩

/-! ## Registries that agree with the journal -/

/-- Every entry of a registry is that of the first unit of its name. -/
def World.RecordsFirst (world : World σ) (id : RegistryId) : Prop :=
  ∀ name,
    ((world.registries id).entries[name]?.map fun record => (record.loader, record.pattern)) =
      (world.firstGenerated? id name).map fun unit => (unit.loader, unit.pattern)

theorem World.RecordsFirst.step {world after : World σ} (hs : World.Step world after)
    {id : RegistryId} (h : world.RecordsFirst id) : after.RecordsFirst id := by
  cases hs with
  | remember change => exact h
  | keep path unit => exact h
  | register resolver => exact h
  | note event he =>
    intro name
    rw [firstGenerated?_log, Event.unitOf?_of_not_isGenerated he, Option.or_none]
    exact h name
  | generate loader request pattern fragments outcome registry considered recorded =>
    intro name
    have hbefore := h name
    rw [firstGenerated?_log, firstGenerated?_setRegistry, log, registries_setRegistry,
      Event.unitOf?]
    by_cases hid : id = loader.registry
    · subst hid
      rw [if_pos rfl, Registry.entry_of_record recorded]
      by_cases hname : Name.ofRequest request = name
      · subst hname
        -- the entry and the first unit are both old, or both come from this step
        rw [if_pos rfl, if_pos ⟨rfl, rfl⟩]
        cases he : (world.registries loader.registry).entries[Name.ofRequest request]? with
        | none =>
          rw [he] at hbefore
          rw [Option.map_eq_none_iff.mp hbefore.symm]
          rfl
        | some record =>
          rw [he] at hbefore
          obtain ⟨unit, hfirst, hmaker⟩ := Option.map_eq_some_iff.mp hbefore.symm
          rw [hfirst]
          exact congrArg some hmaker.symm
      · rw [if_neg hname, if_neg fun hsame => hname hsame.2, Option.or_none]
        exact hbefore
    · rw [if_neg hid, if_neg fun hsame => hid hsame.1.symm, Option.or_none]
      exact hbefore

/-- Where nothing is on record and nothing has happened. -/
theorem World.recordsFirst_of_isEmpty {world : World σ} {id : RegistryId}
    (hregistry : (world.registries id).isEmpty) (hjournal : world.journal = []) :
    world.RecordsFirst id := by
  intro name
  rw [Std.TreeMap.getElem?_of_isEmpty hregistry, firstGenerated?, hjournal]
  rfl

/-- Every entry of a registry is that of the first unit of its name, and units have the names that
requests ask for. -/
structure World.KeepsHistory (world : World σ) : Prop where
  entries : ∀ id name,
    ((world.registries id).entries[name]?.map fun record => (record.loader, record.pattern)) =
      (world.firstGenerated? id name).map fun unit => (unit.loader, unit.pattern)
  named : ∀ id unit, .generated id unit ∈ world.journal →
    ∃ request, unit.name = Name.ofRequest request

namespace World.KeepsHistory

theorem step {world after : World σ} (hs : World.Step world after) (h : world.KeepsHistory) :
    after.KeepsHistory := by
  refine ⟨fun id => RecordsFirst.step hs (h.entries id), fun id unit hm => ?_⟩
  cases hs with
  | remember | keep | register => exact h.named id unit hm
  | note event he =>
    rcases List.mem_cons.mp hm with rfl | hm
    · cases he
    · exact h.named id unit hm
  | generate loader request pattern fragments outcome registry considered recorded =>
    rcases List.mem_cons.mp hm with hm | hm
    · cases hm
      exact ⟨request, rfl⟩
    · exact h.named id unit hm

end World.KeepsHistory

/-- Nothing is on record, and nothing has happened. -/
structure World.IsFresh (world : World σ) : Prop where
  registries : ∀ id, (world.registries id).isEmpty
  journal : world.journal = []

theorem World.IsFresh.keepsHistory {world : World σ} (h : world.IsFresh) : world.KeepsHistory := by
  refine ⟨fun id => recordsFirst_of_isEmpty (h.registries id) h.journal, fun id unit hm => ?_⟩
  rw [h.journal] at hm
  cases hm

/-- In a session whose registries are written by requests only, the registries agree with the
journal. -/
theorem World.keepsHistory_of_performAll {start world : World σ} (hstart : start.IsFresh)
    {level : Nat} {actions : List (Action σ)} (hrequests : ∀ action ∈ actions, action.isRequest)
    {replies : List Reply} (hrun : performAll level actions start = some (replies, world)) :
    world.KeepsHistory :=
  (performAll_reaches hrequests hrun).invariant (fun _ _ => KeepsHistory.step) hstart.keepsHistory

/-! ## Names that a loader is asked for -/

namespace Loader

variable {loader : Loader σ} {world : World σ} {name : String}

theorem mem_generated_iff (h : world.KeepsHistory) :
    name ∈ loader.generated world ↔
      ∃ unit, world.firstGenerated? loader.registry name = some unit ∧ unit.loader = loader.id := by
  have hentry := h.entries loader.registry name
  rw [generated, Registry.mem_namesGeneratedBy]
  constructor
  · rintro ⟨record, he, hl⟩
    rw [he] at hentry
    obtain ⟨unit, hfirst, hmaker⟩ := Option.map_eq_some_iff.mp hentry.symm
    exact ⟨unit, hfirst, (congrArg Prod.fst hmaker).trans hl⟩
  · rintro ⟨unit, hfirst, hl⟩
    rw [hfirst] at hentry
    obtain ⟨record, he, hmaker⟩ := Option.map_eq_some_iff.mp hentry
    exact ⟨record, he, (congrArg Prod.fst hmaker).trans hl⟩

/-- A loader knows a name again exactly if it generated the name that this one asks for. -/
theorem query_iff :
    (loader.wasGenerated world name ∧ loader.generatedBy? world name = some loader.id) ↔
      Name.ofRequest name ∈ loader.generated world := by
  rw [wasGenerated, generatedBy?, generated, Registry.mem_namesGeneratedBy,
    Registry.wasGenerated_iff, Registry.generatedBy?_eq_some_iff]
  exact ⟨And.right, fun ⟨record, he, hl⟩ => ⟨⟨record, he⟩, record, he, hl⟩⟩

/-- After a session whose registries are written by requests only, the names of a loader are those
of the units that it was the first to generate. It knows such a name again, when it is asked for
it, exactly if the name is bare, or else asks for another name that the loader generated as well.
Where the loader writes the registry of the process, that registry says the same. -/
theorem generated_query_iff {start : World σ} (hstart : start.IsFresh) {level : Nat}
    {actions : List (Action σ)} (hrequests : ∀ action ∈ actions, action.isRequest)
    {replies : List Reply} (hrun : World.performAll level actions start = some (replies, world)) :
    (name ∈ loader.generated world ↔
      ∃ unit, world.firstGenerated? loader.registry name = some unit ∧ unit.loader = loader.id) ∧
    (name ∈ loader.generated world →
      ((loader.wasGenerated world name ∧ loader.generatedBy? world name = some loader.id) ↔
        Name.IsBare name ∨
          (Name.ofRequest name ≠ name ∧ Name.ofRequest name ∈ loader.generated world))) ∧
    (loader.registry = .shared →
      world.wasGenerated name = loader.wasGenerated world name ∧
        world.generatedBy? name = loader.generatedBy? world name) := by
  have hhistory := World.keepsHistory_of_performAll hstart hrequests hrun
  refine ⟨mem_generated_iff hhistory, fun hname => ?_, fun hshared => ?_⟩
  · obtain ⟨unit, hfirst, -⟩ := (mem_generated_iff hhistory).mp hname
    obtain ⟨hgenerated, hunit⟩ := World.generated_of_firstGenerated? hfirst
    obtain ⟨request, hrequest⟩ := hhistory.named _ _ hgenerated
    rw [hunit] at hrequest
    have hbare : Name.ofRequest name = name ↔ Name.IsBare name := by
      rw [hrequest]
      exact Name.ofRequest_ofRequest_eq_iff request
    rw [query_iff, ← hbare]
    by_cases hsame : Name.ofRequest name = name
    · exact ⟨fun _ => .inl hsame, fun _ => by rw [hsame]; exact hname⟩
    · exact ⟨fun hother => .inr ⟨hsame, hother⟩, fun h => (h.resolve_left hsame).2⟩
  · rw [World.wasGenerated, World.generatedBy?, wasGenerated, generatedBy?, hshared]
    exact ⟨rfl, rfl⟩

/-- A loader that generates an empty module for every name, into the registry of the process. -/
def everything : Loader Unit where
  id := "site"
  rules := [⟨.everyName, fun _ => .done ⟨[], .done⟩⟩]
  allowList? := none
  fragmentPolicy := .discard
  style := {}
  registry := .shared

/-- A world in which nothing has happened. -/
def quiet : World Unit :=
  { memory := (), now := "" }

theorem quiet_isFresh : quiet.IsFresh :=
  ⟨fun _ => rfl, rfl⟩

/-- A request for an archive with two extensions, of which its name loses one. -/
def archived : Option (List Reply × World Unit) :=
  World.performAll 1 [.dispatch everything "Foo/Bar.tar.gz"] quiet

theorem everything_generated_query :
    ∃ replies world, archived = some (replies, world) ∧
      ("Foo::Bar.tar" ∈ everything.generated world ↔
        ∃ unit, world.firstGenerated? .shared "Foo::Bar.tar" = some unit ∧ unit.loader = "site") ∧
      ("Foo::Bar.tar" ∈ everything.generated world →
        ((everything.wasGenerated world "Foo::Bar.tar" ∧
            everything.generatedBy? world "Foo::Bar.tar" = some "site") ↔
          Name.IsBare "Foo::Bar.tar" ∨
            (Name.ofRequest "Foo::Bar.tar" ≠ "Foo::Bar.tar" ∧
              Name.ofRequest "Foo::Bar.tar" ∈ everything.generated world))) ∧
      (RegistryId.shared = .shared →
        world.wasGenerated "Foo::Bar.tar" = everything.wasGenerated world "Foo::Bar.tar" ∧
          world.generatedBy? "Foo::Bar.tar" = everything.generatedBy? world "Foo::Bar.tar") := by
  obtain ⟨⟨replies, world⟩, hrun⟩ := Option.isSome_iff_exists.mp (by decide : archived.isSome)
  exact ⟨replies, world, hrun, generated_query_iff quiet_isFresh (by simp [Action.isRequest]) hrun⟩

/-- The name that it reports as generated is not generated when it is asked for it. -/
theorem everything_forgets_archive :
    ∃ replies world, archived = some (replies, world) ∧
      everything.generated world = ["Foo::Bar.tar"] ∧
      everything.wasGenerated world "Foo::Bar.tar" = false ∧
      everything.generatedBy? world "Foo::Bar.tar" = none ∧
      world.wasGenerated "Foo::Bar.tar" = false ∧
      world.generatedBy? "Foo::Bar.tar" = none := by
  have hquery : archived.map (fun (_, world) => (everything.generated world,
      everything.wasGenerated world "Foo::Bar.tar", everything.generatedBy? world "Foo::Bar.tar",
      world.wasGenerated "Foo::Bar.tar", world.generatedBy? "Foo::Bar.tar")) =
      some (["Foo::Bar.tar"], false, none, false, none) := by decide +kernel
  obtain ⟨⟨replies, world⟩, hrun, h⟩ := Option.map_eq_some_iff.mp hquery
  simp only [Prod.mk.injEq] at h
  exact ⟨replies, world, hrun, h⟩

end Loader

end ModuleSynthesis
