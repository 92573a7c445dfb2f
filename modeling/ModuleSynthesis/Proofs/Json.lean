import Mathlib.Data.List.Nodup
import ModuleSynthesis.Json

/-!
# Fields of JSON objects

Objects are written in the order of their keys, which makes no difference to what is found in them.

* `Json.field?`: what an object holds under a key.
* `Json.field?_object`: an object holds the entries that it was made of.
-/

namespace ModuleSynthesis.Json

/-- What an object holds under a key. -/
def field? (json : Json) (key : String) : Option Json :=
  match json with
  | .record fields => fields.lookup key
  | _ => none

/-- Where keys are different, the order of entries makes no difference. -/
theorem lookup_eq_of_perm {fields entries : List (String × Json)} (h : fields.Perm entries)
    (hnodup : (entries.map Prod.fst).Nodup) (key : String) :
    fields.lookup key = entries.lookup key := by
  induction h with
  | nil => rfl
  | cons entry _ ih =>
    rw [List.map_cons, List.nodup_cons] at hnodup
    rw [List.lookup_cons, List.lookup_cons, ih hnodup.2]
  | swap first second rest =>
    obtain ⟨key₁, value₁⟩ := first
    obtain ⟨key₂, value₂⟩ := second
    have hne : key₁ ≠ key₂ := by
      rw [List.map_cons, List.map_cons, List.nodup_cons] at hnodup
      exact fun heq => hnodup.1 (heq ▸ List.mem_cons_self)
    rw [List.lookup_cons, List.lookup_cons, List.lookup_cons, List.lookup_cons]
    cases hfirst : key == key₁ with
    | false => rfl
    | true =>
      have hsecond : (key == key₂) = false :=
        beq_eq_false_iff_ne.mpr (beq_iff_eq.mp hfirst ▸ hne)
      rw [hsecond]
  | trans hleft hright ihleft ihright =>
    rw [ihleft ((hright.map Prod.fst).nodup_iff.mpr hnodup), ihright hnodup]

/-- An object holds the entries that it was made of. -/
theorem field?_object {entries : List (String × Json)} (h : (entries.map Prod.fst).Nodup)
    (key : String) : (object entries).field? key = entries.lookup key :=
  lookup_eq_of_perm (List.mergeSort_perm _ _) h key

end ModuleSynthesis.Json
