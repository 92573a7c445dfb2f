import Mathlib.Data.List.Sort
import ModuleSynthesis.Provenance

/-!
# Records

* `Registry.record_cases`: what a record that is not refused does.
* `Registry.entry_of_record`: a record that is not refused is put under its name where there is
  none, and leaves every other entry alone.
* `Registry.record_of_loader_eq`: a record is not refused unless another loader generated the name.
* `Registry.loader_of_record`: under the policy of refusal a record that is taken leaves the name to
  its loader.
* `Registry.Extends`: what a registry holds later on. Records alone never change an entry.
* `Registry.mem_namesGeneratedBy`: the names of a loader are those whose entry carries its id.
* `Registry.mem_snapshot_iff`, `Registry.names_snapshot_sorted`: the listing of all records.
* `Registry.SameButTime`: registries that differ in nothing but times go on to do so.
-/

namespace ModuleSynthesis

namespace Registry

variable {registry after : Registry} {name : String} {origin : Origin} {outcome : RecordOutcome}

theorem entry_of_insert (registry : Registry) (record : ProvenanceRecord) (other : String) :
    (registry.insert record).entries[other]? =
      if record.name = other then some record else registry.entries[other]? := by
  simp [insert, Std.TreeMap.getElem?_insert]

/-! ## One record -/

/-- The first record for a name is taken. -/
theorem record_of_eq_none (h : registry.entries[name]? = none) (origin : Origin) :
    registry.record name origin = .ok (.recorded, registry.insert (origin.under name)) := by
  rw [record, h]

/-- A later one is passed over or refused. -/
theorem record_of_eq_some {existing : ProvenanceRecord}
    (h : registry.entries[name]? = some existing) (origin : Origin) :
    registry.record name origin =
      if registry.policy = .rejectDuplicates ∧ existing.loader ≠ origin.loader then
        .error (.duplicateGeneration name existing.loader origin.loader)
      else .ok (.alreadyRecorded, registry) := by
  rw [record, h]

/-- A record that is not refused is the first for its name, or changes nothing. -/
theorem record_cases (h : registry.record name origin = .ok (outcome, after)) :
    (registry.entries[name]? = none ∧ after = registry.insert (origin.under name)) ∨
    ∃ existing, registry.entries[name]? = some existing ∧
      (registry.policy = .rejectDuplicates → existing.loader = origin.loader) ∧
      after = registry := by
  cases he : registry.entries[name]? with
  | none =>
    rw [record_of_eq_none he] at h
    cases h
    exact .inl ⟨rfl, rfl⟩
  | some existing =>
    rw [record_of_eq_some he] at h
    split at h
    · cases h
    · next hr =>
      cases h
      exact .inr ⟨existing, rfl, fun hpolicy => Decidable.not_not.mp fun hne => hr ⟨hpolicy, hne⟩,
        rfl⟩

/-- After a record every name has the entry that it had; the recorded one has got the record if it
had none. -/
theorem entry_of_record (h : registry.record name origin = .ok (outcome, after)) (other : String) :
    after.entries[other]? =
      if name = other then some (registry.entries[name]?.getD (origin.under name))
      else registry.entries[other]? := by
  rcases record_cases h with ⟨he, rfl⟩ | ⟨existing, he, -, rfl⟩
  · rw [he]
    exact entry_of_insert registry (origin.under name) other
  · by_cases ho : name = other
    · rw [if_pos ho, ← ho, he]; rfl
    · rw [if_neg ho]

/-- A record that no other loader's entry stands against is not refused. -/
theorem record_of_loader_eq
    (h : ∀ existing, registry.entries[name]? = some existing → existing.loader = origin.loader) :
    ∃ outcome after, registry.record name origin = .ok (outcome, after) := by
  cases he : registry.entries[name]? with
  | none => exact ⟨_, _, record_of_eq_none he origin⟩
  | some existing =>
    rw [record_of_eq_some he]
    exact ⟨_, _, if_neg fun hr => hr.2 (h existing he)⟩

/-- A registry that is not under the policy of refusal refuses no record. -/
theorem policy_of_record_error {error : RegistryError}
    (h : registry.record name origin = .error error) : registry.policy = .rejectDuplicates := by
  cases he : registry.entries[name]? with
  | none => rw [record_of_eq_none he] at h; cases h
  | some existing =>
    rw [record_of_eq_some he] at h
    split at h
    · next hr => exact hr.1
    · cases h

theorem policy_of_record (h : registry.record name origin = .ok (outcome, after)) :
    after.policy = registry.policy := by
  rcases record_cases h with ⟨-, rfl⟩ | ⟨_, -, -, rfl⟩ <;> rfl

/-- Under the policy of refusal a name is that of the loader whose record was taken. -/
theorem loader_of_record (hpolicy : registry.policy = .rejectDuplicates)
    (h : registry.record name origin = .ok (outcome, after)) :
    after.generatedBy? name = some origin.loader := by
  rw [generatedBy?, entry_of_record h, if_pos rfl, Option.map_some]
  rcases record_cases h with ⟨he, -⟩ | ⟨existing, he, hloader, -⟩
  · rw [he]; rfl
  · rw [he]
    exact congrArg some (hloader hpolicy)

/-! ## Later registries -/

/-- A registry has the policy of another one and all its entries. -/
structure Extends (registry after : Registry) : Prop where
  policy : after.policy = registry.policy
  entries : ∀ (name : String) (record : ProvenanceRecord),
    registry.entries[name]? = some record → after.entries[name]? = some record

namespace Extends

theorem refl (registry : Registry) : registry.Extends registry :=
  ⟨rfl, fun _ _ h => h⟩

theorem trans {first second third : Registry} (h : first.Extends second)
    (h' : second.Extends third) : first.Extends third :=
  ⟨h'.policy.trans h.policy,
    fun name record he => h'.entries name record (h.entries name record he)⟩

theorem record (h : registry.record name origin = .ok (outcome, after)) :
    registry.Extends after := by
  refine ⟨policy_of_record h, fun other found he => ?_⟩
  rw [entry_of_record h]
  by_cases ho : name = other
  · subst ho; rw [if_pos rfl, he]; rfl
  · rw [if_neg ho, he]

theorem generatedBy? (h : registry.Extends after) {loader : String}
    (hg : registry.generatedBy? name = some loader) : after.generatedBy? name = some loader := by
  obtain ⟨record, he, rfl⟩ := Option.map_eq_some_iff.mp hg
  rw [Registry.generatedBy?, h.entries name record he]; rfl

end Extends

/-! ## Queries -/

theorem generatedBy?_eq_some_iff {loader : String} :
    registry.generatedBy? name = some loader ↔
      ∃ record, registry.entries[name]? = some record ∧ record.loader = loader := by
  simp [generatedBy?]

theorem wasGenerated_iff :
    registry.wasGenerated name ↔ ∃ record, registry.entries[name]? = some record := by
  rw [wasGenerated, Std.TreeMap.contains_eq_isSome_getElem?, Option.isSome_iff_exists]

/-- The records are the entries, each under its name. -/
theorem mem_snapshot_iff {record : ProvenanceRecord} :
    record ∈ registry.snapshot ↔ registry.entries[record.name]? = some record := by
  rw [snapshot, List.mem_map]
  constructor
  · rintro ⟨⟨name, record⟩, hm, rfl⟩
    have he := Std.TreeMap.mem_toList_iff_getElem?_eq_some.mp hm
    rw [registry.name_of_entry name record he]
    exact he
  · intro he
    exact ⟨(record.name, record), Std.TreeMap.mem_toList_iff_getElem?_eq_some.mpr he, rfl⟩

theorem mem_snapshot_of_entry {record : ProvenanceRecord}
    (h : registry.entries[name]? = some record) : record ∈ registry.snapshot := by
  rw [← registry.name_of_entry name record h] at h
  exact mem_snapshot_iff.mpr h

theorem mem_namesGeneratedBy {loader : String} :
    name ∈ registry.namesGeneratedBy loader ↔
      ∃ record, registry.entries[name]? = some record ∧ record.loader = loader := by
  simp only [namesGeneratedBy, List.mem_map, List.mem_filter, decide_eq_true_eq]
  constructor
  · rintro ⟨record, ⟨hm, hl⟩, rfl⟩
    exact ⟨record, mem_snapshot_iff.mp hm, hl⟩
  · rintro ⟨record, he, hl⟩
    exact ⟨record, ⟨mem_snapshot_of_entry he, hl⟩, registry.name_of_entry name record he⟩

/-- Records are in the order of their names, and no two are of one name. -/
theorem names_snapshot_sorted (registry : Registry) :
    (registry.snapshot.map (·.name)).Pairwise (· < ·) := by
  have hnames : registry.snapshot.map (·.name) = registry.entries.toList.map Prod.fst := by
    rw [snapshot, List.map_map]
    refine List.map_congr_left fun ⟨name, record⟩ hm => ?_
    exact registry.name_of_entry name record (Std.TreeMap.mem_toList_iff_getElem?_eq_some.mp hm)
  rw [hnames, List.pairwise_map]
  have hordered := registry.entries.ordered_keys_toList
  exact hordered.imp fun h => compareOfLessAndEq_eq_lt.mp h

end Registry

/-! ## Times -/

/-- Who made the unit that is on record. -/
def Origin.maker (origin : Origin) : String × String :=
  (origin.loader, origin.pattern)

theorem Origin.loader_eq_of_maker {origin origin' : Origin} (h : origin'.maker = origin.maker) :
    origin'.loader = origin.loader :=
  congrArg Prod.fst h

/-- Some record has a name and a maker exactly if the entry of the name has that maker. -/
theorem Registry.exists_mem_snapshot_iff {registry : Registry} {name : String}
    {maker : String × String} :
    (∃ record ∈ registry.snapshot, record.name = name ∧ record.maker = maker) ↔
      registry.entries[name]?.map (·.maker) = some maker := by
  rw [Option.map_eq_some_iff]
  constructor
  · rintro ⟨record, hm, rfl, rfl⟩
    exact ⟨record, mem_snapshot_iff.mp hm, rfl⟩
  · rintro ⟨record, he, rfl⟩
    exact ⟨record, mem_snapshot_of_entry he, registry.name_of_entry name record he, rfl⟩

/-- Registries of one policy that have the same names on record, with the same makers. -/
structure Registry.SameButTime (registry other : Registry) : Prop where
  policy : other.policy = registry.policy
  makers : ∀ name : String,
    other.entries[name]?.map (·.maker) = registry.entries[name]?.map (·.maker)

namespace Registry.SameButTime

variable {registry other : Registry} {name : String} {origin origin' : Origin}

/-- A record of one maker is taken by both registries, which still differ in nothing but times, or
it is refused by both. -/
theorem record (h : registry.SameButTime other) (hmaker : origin'.maker = origin.maker) :
    (∃ error, registry.record name origin = .error error ∧
      other.record name origin' = .error error) ∨
    ∃ outcome after after', registry.record name origin = .ok (outcome, after) ∧
      other.record name origin' = .ok (outcome, after') ∧ after.SameButTime after' := by
  have hname := h.makers name
  cases he : registry.entries[name]? with
  | none =>
    have he' : other.entries[name]? = none := by simpa [he] using hname
    refine .inr ⟨_, _, _, record_of_eq_none he origin, record_of_eq_none he' origin', h.policy,
      fun found => ?_⟩
    rw [entry_of_insert, entry_of_insert, Origin.under_name, Origin.under_name]
    by_cases hfound : name = found
    · rw [if_pos hfound, if_pos hfound]
      exact congrArg some hmaker
    · rw [if_neg hfound, if_neg hfound]
      exact h.makers found
  | some existing =>
    rw [he] at hname
    obtain ⟨existing', he', hexisting⟩ := Option.map_eq_some_iff.mp hname
    rw [record_of_eq_some he, record_of_eq_some he', h.policy,
      Origin.loader_eq_of_maker hexisting, Origin.loader_eq_of_maker hmaker]
    split
    · exact .inl ⟨_, rfl, rfl⟩
    · exact .inr ⟨_, _, _, rfl, rfl, h⟩

/-- The listings of all records are the same then, apart from the times. -/
theorem snapshot_eq (h : registry.SameButTime other) :
    other.snapshot.map (fun record => (record.name, record.maker)) =
      registry.snapshot.map fun record => (record.name, record.maker) := by
  have hsorted (registry : Registry) :
      (registry.snapshot.map fun record => (record.name, record.maker)).Pairwise
        fun entry later => entry.1 < later.1 := by
    have hnames := registry.names_snapshot_sorted
    rw [List.pairwise_map] at hnames ⊢
    exact hnames
  let before (entry later : String × String × String) : Prop := entry.1 < later.1
  have hirrefl : Std.Irrefl before := ⟨fun entry => String.lt_irrefl entry.1⟩
  have hantisymm : Std.Antisymm before :=
    ⟨fun _ _ hbefore hafter => absurd hafter (String.lt_asymm hbefore)⟩
  refine List.Pairwise.eq_of_mem_iff (hsorted other) (hsorted registry) fun ⟨name, maker⟩ => ?_
  simp only [List.mem_map, Prod.mk.injEq, exists_mem_snapshot_iff, h.makers]

end Registry.SameButTime

end ModuleSynthesis
