import Std.Data.TreeMap

/-!
# Provenance

A registry remembers which loader generated a name first, by which glob, and when. A record is kept
under its name and never replaced. Under one policy a later record for a name is passed over; under
the other it is refused when it comes from another loader.

* `Registry`: records, each under its own name.
* `Registry.record`: the outcome of a record, and the registry after it.
* `Registry.generatedBy?`, `Registry.wasGenerated`, `Registry.recordFor?`: what is known of a name.
* `Registry.namesGeneratedBy`, `Registry.snapshot`: listings in the order of names.
-/

namespace ModuleSynthesis

/-- What a registry does with a second record for a name. -/
inductive RegistryPolicy where
  /-- The first record stands; later ones are passed over. -/
  | firstWriterWins
  /-- The first record stands; a later one of another loader is an error. -/
  | rejectDuplicates
deriving DecidableEq, Repr, Inhabited

/-- Where a name comes from. -/
structure Origin where
  /-- The id of the loader that generated the name. -/
  loader : String
  /-- The glob of the rule that did. -/
  pattern : String
  /-- The time of the record. -/
  recordedAt : String
deriving DecidableEq, Repr

/-- A name with its origin. -/
structure ProvenanceRecord extends Origin where
  /-- The name. -/
  name : String
deriving DecidableEq, Repr

/-- A name put to an origin. -/
def Origin.under (origin : Origin) (name : String) : ProvenanceRecord :=
  { toOrigin := origin, name }

@[simp]
theorem Origin.under_name (origin : Origin) (name : String) : (origin.under name).name = name := rfl

/-- Where there is no record, none is kept under another name. -/
theorem ProvenanceRecord.name_of_none (name : String) (record : ProvenanceRecord)
    (h : ({} : Std.TreeMap String ProvenanceRecord)[name]? = some record) :
    record.name = name := by
  rw [Std.TreeMap.getElem?_emptyc] at h
  cases h

/-- What became of a record. -/
inductive RecordOutcome where
  /-- It is the first for its name. -/
  | recorded
  /-- The name had an entry, which stays. -/
  | alreadyRecorded
deriving DecidableEq, Repr

/-- Why a record is refused. -/
inductive RegistryError where
  /-- Another loader generated the name before. -/
  | duplicateGeneration (name existing attempted : String)
deriving DecidableEq, Repr

/-- The wording of an error. -/
def RegistryError.message : RegistryError → String
  | .duplicateGeneration name existing attempted =>
    "`" ++ name ++ "` was already generated by " ++ existing ++ "; refusing record from " ++
      attempted

/-- Records under their names, and the policy for second records. -/
structure Registry where
  /-- What to do with a second record for a name. -/
  policy : RegistryPolicy := .firstWriterWins
  /-- The record that is kept under a name. -/
  entries : Std.TreeMap String ProvenanceRecord := {}
  /-- A record is kept under its own name. -/
  name_of_entry : ∀ (name : String) (record : ProvenanceRecord),
    entries[name]? = some record → record.name = name := by exact ProvenanceRecord.name_of_none

namespace Registry

/-- The registry without entries. -/
def clear (registry : Registry) : Registry :=
  { policy := registry.policy }

/-- The registry with a record under its name. -/
def insert (registry : Registry) (record : ProvenanceRecord) : Registry where
  policy := registry.policy
  entries := registry.entries.insert record.name record
  name_of_entry name found h := by
    rw [Std.TreeMap.getElem?_insert] at h
    split at h
    · next hname =>
      cases h
      exact Std.compare_eq_iff_eq.mp hname
    · exact registry.name_of_entry name found h

/-- Puts a name and its origin on record. -/
def record (registry : Registry) (name : String) (origin : Origin) :
    Except RegistryError (RecordOutcome × Registry) :=
  match registry.entries[name]? with
  | none => .ok (.recorded, registry.insert (origin.under name))
  | some existing =>
    if registry.policy = .rejectDuplicates ∧ existing.loader ≠ origin.loader then
      .error (.duplicateGeneration name existing.loader origin.loader)
    else .ok (.alreadyRecorded, registry)

/-- What is on record for a name. -/
def recordFor? (registry : Registry) (name : String) : Option ProvenanceRecord :=
  registry.entries[name]?

/-- The loader that generated a name. -/
def generatedBy? (registry : Registry) (name : String) : Option String :=
  registry.entries[name]?.map (·.loader)

/-- Whether a name is on record. -/
def wasGenerated (registry : Registry) (name : String) : Bool :=
  registry.entries.contains name

/-- All records, in the order of names. -/
def snapshot (registry : Registry) : List ProvenanceRecord :=
  registry.entries.toList.map Prod.snd

/-- The names that a loader generated, in order. -/
def namesGeneratedBy (registry : Registry) (loader : String) : List String :=
  (registry.snapshot.filter (·.loader = loader)).map (·.name)

/-- The number of names on record. -/
def size (registry : Registry) : Nat :=
  registry.entries.size

/-- Whether no name is on record. -/
def isEmpty (registry : Registry) : Bool :=
  registry.entries.isEmpty

end Registry

end ModuleSynthesis
