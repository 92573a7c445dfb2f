import ModuleSynthesis.Proofs.Provenance.Log
import ModuleSynthesis.Proofs.Text.Order

/-!
# Listings of a registry

A registry lists its records in the order of names, all of them or those of one loader. The lists
of the loaders part the list of all names: every name is in that of the loader that generated it,
and in no other one.

* `Registry.countP_snapshot`, `Registry.find?_snapshot`: one record of each name, which is the one
  that is on record for it.
* `Registry.namesGeneratedBy_eq_filter`, `Registry.flatMap_namesGeneratedBy_perm`: the lists of the
  loaders, and what they are together.
* `World.performTimed_listsWrites`: the listings of a registry after any log of writes.
-/

namespace ModuleSynthesis

/-! ## Any registry -/

namespace Registry

variable {registry : Registry} {name loader : String}

theorem nodup_names_snapshot (registry : Registry) : (registry.snapshot.map (·.name)).Nodup :=
  registry.names_snapshot_sorted.imp fun h => String.ne_of_lt h

theorem length_snapshot (registry : Registry) : registry.snapshot.length = registry.size := by
  rw [snapshot, List.length_map, Std.TreeMap.length_toList, size]

theorem mem_names_snapshot_iff :
    name ∈ registry.snapshot.map (·.name) ↔ registry.wasGenerated name := by
  rw [wasGenerated_iff, List.mem_map]
  constructor
  · rintro ⟨record, hrecord, rfl⟩
    exact ⟨_, mem_snapshot_iff.mp hrecord⟩
  · rintro ⟨record, he⟩
    exact ⟨record, mem_snapshot_of_entry he, registry.name_of_entry name record he⟩

/-- There is one record of each name that is on record, and none of another. -/
theorem countP_snapshot (registry : Registry) (name : String) :
    registry.snapshot.countP (·.name = name) = if registry.wasGenerated name then 1 else 0 := by
  have hcount : registry.snapshot.countP (·.name = name) =
      (registry.snapshot.map (·.name)).count name := by
    rw [List.count, List.countP_map]
    rfl
  rw [hcount, registry.nodup_names_snapshot.count]
  simp only [mem_names_snapshot_iff]

/-- The record of a name in the listing is the one that is on record for it. -/
theorem find?_snapshot (registry : Registry) (name : String) :
    registry.snapshot.find? (·.name = name) = registry.recordFor? name := by
  cases hfind : registry.snapshot.find? (·.name = name) with
  | none =>
    cases he : registry.entries[name]? with
    | none => rw [recordFor?, he]
    | some record =>
      have hname := List.find?_eq_none.mp hfind _ (mem_snapshot_of_entry he)
      exact absurd (decide_eq_true (registry.name_of_entry name record he)) hname
  | some record =>
    have he := mem_snapshot_iff.mp (List.mem_of_find?_eq_some hfind)
    have hname : record.name = name := by simpa using List.find?_some hfind
    rw [recordFor?, ← hname, he]

/-- The names of a loader are those whose record carries its id, in the order of all names. -/
theorem namesGeneratedBy_eq_filter (registry : Registry) (loader : String) :
    registry.namesGeneratedBy loader = (registry.snapshot.map (·.name)).filter
      fun name => (registry.recordFor? name).map (·.loader) = some loader := by
  rw [namesGeneratedBy, List.filter_map]
  congr 1
  refine List.filter_congr fun record hrecord => ?_
  have he := mem_snapshot_iff.mp hrecord
  simp [recordFor?, he]

theorem disjoint_namesGeneratedBy {first second : String} (h : first ≠ second) :
    (registry.namesGeneratedBy first).Disjoint (registry.namesGeneratedBy second) := by
  intro name hfirst hsecond
  obtain ⟨record, he, rfl⟩ := mem_namesGeneratedBy.mp hfirst
  obtain ⟨other, hother, rfl⟩ := mem_namesGeneratedBy.mp hsecond
  cases he.symm.trans hother
  exact h rfl

theorem exists_mem_namesGeneratedBy_iff :
    (∃ loader, name ∈ registry.namesGeneratedBy loader) ↔ registry.wasGenerated name := by
  rw [wasGenerated_iff]
  constructor
  · rintro ⟨loader, hname⟩
    obtain ⟨record, he, -⟩ := mem_namesGeneratedBy.mp hname
    exact ⟨record, he⟩
  · rintro ⟨record, he⟩
    exact ⟨record.loader, mem_namesGeneratedBy.mpr ⟨record, he, rfl⟩⟩

/-- The lists of different loaders, if they are all of those on record, are together the list of
all names. -/
theorem flatMap_namesGeneratedBy_perm {loaders : List String} (hnodup : loaders.Nodup)
    (hall : ∀ record ∈ registry.snapshot, record.loader ∈ loaders) :
    (loaders.flatMap registry.namesGeneratedBy).Perm (registry.snapshot.map (·.name)) := by
  have hlists : (loaders.flatMap registry.namesGeneratedBy).Nodup := by
    refine List.nodup_flatMap.mpr ⟨fun loader _ => ?_, hnodup.imp disjoint_namesGeneratedBy⟩
    rw [namesGeneratedBy_eq_filter]
    exact registry.nodup_names_snapshot.filter _
  refine (List.perm_ext_iff_of_nodup hlists registry.nodup_names_snapshot).mpr fun name => ?_
  rw [mem_names_snapshot_iff, ← exists_mem_namesGeneratedBy_iff, List.mem_flatMap]
  constructor
  · rintro ⟨loader, -, hname⟩
    exact ⟨loader, hname⟩
  · rintro ⟨loader, hname⟩
    obtain ⟨record, he, rfl⟩ := mem_namesGeneratedBy.mp hname
    exact ⟨record.loader, hall record (mem_snapshot_of_entry he), hname⟩

end Registry

/-! ## Logs of writes -/

variable {σ : Type} {start world : World σ} {id : RegistryId} {before : List (Action σ)}
  {log : List (String × Action σ)}

namespace World

/-- The listings of a registry after a log, where a name is on record if a record of it was asked
for since the registry was last emptied. -/
structure ListsWrites (world : World σ) (id : RegistryId) (log : List (Action σ)) : Prop where
  countP_snapshot : ∀ name, (world.registries id).snapshot.countP (·.name = name) =
    if (Attempt.first? id name log).isSome then 1 else 0
  sorted : ((world.registries id).snapshot.map fun record => Text.bytes record.name).Pairwise
    (· < ·)
  size_eq : (world.registries id).size = (world.registries id).snapshot.length
  recordFor?_eq : ∀ name, (world.registries id).recordFor? name =
    (world.registries id).snapshot.find? (·.name = name)
  namesGeneratedBy_eq : ∀ loader, (world.registries id).namesGeneratedBy loader =
    ((world.registries id).snapshot.map (·.name)).filter
      fun name => ((world.registries id).recordFor? name).map (·.loader) = some loader
  disjoint : ∀ first second, first ≠ second →
    ((world.registries id).namesGeneratedBy first).Disjoint
      ((world.registries id).namesGeneratedBy second)
  exists_mem_iff : ∀ name, (∃ loader, name ∈ (world.registries id).namesGeneratedBy loader) ↔
    (Attempt.first? id name log).isSome
  perm : ∀ loaders : List String, loaders.Nodup →
    (∀ record ∈ (world.registries id).snapshot, record.loader ∈ loaders) →
    (loaders.flatMap (world.registries id).namesGeneratedBy).Perm
      ((world.registries id).snapshot.map (·.name))

theorem RecordsLog.listsWrites (h : start.RecordsLog id before world) :
    world.ListsWrites id before := by
  have hrecorded := h.viewsFirstWrites.wasGenerated_eq
  constructor
  case countP_snapshot =>
    intro name
    rw [Registry.countP_snapshot, hrecorded]
  case sorted =>
    have hsorted := (world.registries id).names_snapshot_sorted
    rw [List.pairwise_map] at hsorted ⊢
    exact hsorted.imp Text.bytes_lt_iff.mpr
  case size_eq => exact (Registry.length_snapshot _).symm
  case recordFor?_eq => exact fun name => (Registry.find?_snapshot _ name).symm
  case namesGeneratedBy_eq => exact Registry.namesGeneratedBy_eq_filter _
  case disjoint => exact fun _ _ => Registry.disjoint_namesGeneratedBy
  case exists_mem_iff =>
    intro name
    rw [Registry.exists_mem_namesGeneratedBy_iff, hrecorded]
  case perm => exact fun _ => Registry.flatMap_namesGeneratedBy_perm

/-- Every log of writes runs to its end. A registry that was empty before then lists one record of
each name that is on record, in the order of the bytes of the names, and these are as many as it
says and those that it gives for the names. The names of a loader are those of these names whose
record carries its id, in the same order. So no name is in the lists of two loaders, every name
that is on record is in one of them, and the lists of all loaders are together that of all names. -/
theorem performTimed_listsWrites (hempty : (start.registries id).isEmpty)
    (hwrites : ∀ entry ∈ log, entry.2.isRequest = false) (level : Nat) :
    ∃ replies world, performTimed level log start = some (replies, world) ∧
      (world.registries id).policy = (start.registries id).policy ∧
      world.ListsWrites id (log.map (·.2)) := by
  have hstart : start.RecordsLog id [] start :=
    ⟨rfl, fun name => by rw [Std.TreeMap.getElem?_of_isEmpty hempty]; rfl⟩
  obtain ⟨replies, world, hrun, hlog⟩ := hstart.performTimed hwrites level
  exact ⟨replies, world, hrun, hlog.policy, hlog.listsWrites⟩

end World

/-- Names of two loaders, which come in another order than they are listed in. A name of one of them
is refused to the other one, and one that was on record before is forgotten. -/
def shelving : List (String × Action Unit) :=
  [("08:00", .record (.own 0) "A::Old" "pages" "**"), ("08:30", .clear (.own 0)),
    ("09:00", .record (.own 0) "Z::One" "pages" "**"),
    ("09:10", .record (.own 0) "B::Two" "shop" "B::*"),
    ("09:20", .record (.own 0) "A::Three" "pages" "A::*"),
    ("09:30", .record (.own 0) "Z::One" "shop" "*::One")]

theorem shelving_listsWrites :
    (strict.registries (.own 0)).isEmpty ∧ (∀ entry ∈ shelving, entry.2.isRequest = false) ∧
      ∃ replies world, World.performTimed 0 shelving strict = some (replies, world) ∧
        (world.registries (.own 0)).policy = .rejectDuplicates ∧
        world.ListsWrites (.own 0) (shelving.map (·.2)) := by
  have hwrites : ∀ entry ∈ shelving, entry.2.isRequest = false := by
    simp [shelving, Action.isRequest]
  exact ⟨rfl, hwrites, World.performTimed_listsWrites rfl hwrites 0⟩

example : (World.performTimed 0 shelving strict).map (fun (_, world) =>
    ((world.registries (.own 0)).namesGeneratedBy "pages",
      (world.registries (.own 0)).namesGeneratedBy "shop")) =
    some (["A::Three", "Z::One"], ["B::Two"]) := by decide

end ModuleSynthesis
