import ModuleSynthesis.Proofs.Check
import ModuleSynthesis.Proofs.Manifest.Compiled

/-!
# What compiles in a manifest

A manifest compiles exactly if its parts do, and then each part is compiled on its own: what a text
becomes depends on its rule alone, and what a rule becomes does not depend on where it stands.

* `Glob.templateFor_eq_ok_iff`: the texts that are templates for a glob.
* `RuleEntry.compile_eq_ok_iff`: what a rule becomes; its loader and its index are for errors only.
* `LoaderEntry.becomes_of_declare`: what an entry becomes.
* `LoaderEntry.declares_of_declareAll`, `LoaderEntry.nodup_of_declareAll`: the loaders of a manifest
  are in the order of its entries, and no two of them have one id.
-/

namespace ModuleSynthesis

/-! ## Templates -/

namespace Glob

variable {glob : Glob}

/-- A template for a glob mentions no more captures than the glob has. -/
theorem templateFor_eq_ok_iff {text : String} {template : Template} :
    glob.templateFor text = .ok template ↔
      Template.parse text = .ok template ∧ template.maxCapture ≤ glob.wildcards := by
  rw [templateFor]
  cases Template.parse text with
  | error error => simp
  | ok parsed =>
    dsimp only
    split
    · next hle =>
      constructor
      · rintro ⟨⟩; exact ⟨rfl, hle⟩
      · rintro ⟨⟨⟩, -⟩; rfl
    · next hgt =>
      refine ⟨nofun, ?_⟩
      rintro ⟨⟨⟩, hle⟩
      exact absurd hle hgt

theorem templatesFor_eq_checkAll (texts : List String) (first : Nat) :
    glob.templatesFor texts = checkAll (fun _ => glob.templateFor) first texts := by
  induction texts generalizing first with
  | nil => rfl
  | cons text texts ih =>
    rw [templatesFor, checkAll, ih (first + 1)]
    cases glob.templateFor text with
    | error => rfl
    | ok template => cases checkAll (fun _ => glob.templateFor) (first + 1) texts <;> rfl

theorem templatesFor_eq_ok_iff {texts : List String} {templates : List Template} :
    glob.templatesFor texts = .ok templates ↔
      List.Forall₂ (fun text template => glob.templateFor text = .ok template) texts
        templates := by
  rw [templatesFor_eq_checkAll texts 0]
  refine checkAll_eq_ok_iff ?_
  exact fun _ _ _ => Iff.rfl

end Glob

/-! ## Rules -/

namespace RuleEntry

variable {entry : RuleEntry} {loader : String} {index : Nat}

/-- A rule of a manifest becomes a compiled rule. -/
structure Becomes (entry : RuleEntry) (rule : CompiledRule) : Prop where
  glob : Glob.compile entry.pattern = .ok rule.glob
  action : rule.action = entry.action
  fragments : List.Forall₂ (fun text template => rule.glob.templateFor text = .ok template)
    entry.fragments rule.fragments
  message : entry.action = .fail →
    ∃ text, entry.message? = some text ∧ rule.glob.templateFor text = .ok rule.message
  silent : entry.action ≠ .fail → entry.message? = none ∧ rule.message = ⟨[]⟩

theorem Becomes.text_glob {rule : CompiledRule} (h : entry.Becomes rule) :
    rule.glob.text = entry.pattern :=
  Glob.text_of_compile h.glob

/-- A rule has a message exactly if it fails. -/
theorem compileMessage_eq_ok_iff {glob : Glob} {message : Template} :
    entry.compileMessage loader index glob = .ok message ↔
      (entry.action = .fail →
        ∃ text, entry.message? = some text ∧ glob.templateFor text = .ok message) ∧
      (entry.action ≠ .fail → entry.message? = none ∧ message = ⟨[]⟩) := by
  rw [compileMessage]
  split
  · next hfail hnone => simp [hfail, hnone]
  · next text hfail hsome =>
    simp only [hfail, hsome, true_implies, ne_eq, not_true_eq_false, false_implies, and_true]
    cases htemplate : glob.templateFor text <;> simp [htemplate]
  · next hsome hnot =>
    have haction : entry.action ≠ .fail := hnot
    simp [hsome, haction]
  · next hnone hnot =>
    have haction : entry.action ≠ .fail := hnot
    simp [hnone, haction, eq_comm]

/-- What a rule becomes does not depend on its loader and its index. -/
theorem compile_eq_ok_iff {rule : CompiledRule} :
    entry.compile loader index = .ok rule ↔ entry.Becomes rule := by
  rw [compile]
  constructor
  · intro h
    split at h
    · cases h
    · next glob hglob =>
      split at h
      · cases h
      · next fragments hfragments =>
        split at h
        · cases h
        · next message hmessage =>
          cases h
          have ⟨hfail, hsilent⟩ := compileMessage_eq_ok_iff.mp hmessage
          exact ⟨hglob, rfl, Glob.templatesFor_eq_ok_iff.mp hfragments, hfail, hsilent⟩
  · rintro ⟨hglob, haction, hfragments, hfail, hsilent⟩
    have htemplates := Glob.templatesFor_eq_ok_iff.mpr hfragments
    have hmessage : entry.compileMessage loader index rule.glob = .ok rule.message :=
      compileMessage_eq_ok_iff.mpr ⟨hfail, hsilent⟩
    simp only [hglob, htemplates, hmessage, ← haction]

theorem compileAll_eq_checkAll (loader : String) (index : Nat) (entries : List RuleEntry) :
    compileAll loader index entries =
      checkAll (fun index entry => entry.compile loader index) index entries := by
  induction entries generalizing index with
  | nil => rfl
  | cons entry entries ih =>
    rw [compileAll, checkAll, ih (index + 1)]
    cases entry.compile loader index with
    | error => rfl
    | ok rule =>
      cases checkAll (fun index entry => entry.compile loader index) (index + 1) entries <;> rfl

theorem compileAll_eq_ok_iff {entries : List RuleEntry} {rules : List CompiledRule} :
    compileAll loader index entries = .ok rules ↔ List.Forall₂ Becomes entries rules := by
  rw [compileAll_eq_checkAll]
  refine checkAll_eq_ok_iff ?_
  exact fun _ _ _ => compile_eq_ok_iff

end RuleEntry

/-! ## Loaders -/

namespace LoaderEntry

variable {entry : LoaderEntry} {entries : List LoaderEntry} {style : Style} {first : Nat}
  {seen : List String} {loader : CompiledLoader} {loaders : List CompiledLoader}

/-- A loader of a manifest becomes a compiled loader. -/
structure Becomes (entry : LoaderEntry) (style : Style) (id : String) (loader : CompiledLoader) :
    Prop where
  id_eq : loader.id = id
  rules : List.Forall₂ RuleEntry.Becomes entry.rules loader.rules
  allowList : LoaderSpec.buildAllowList entry.matchOnly = .ok loader.allowList?
  fragmentPolicy_eq : loader.fragmentPolicy = entry.fragmentPolicy
  style_eq : loader.style = style

theorem becomes_of_declare {id : String} (h : entry.declare style id = .ok loader) :
    entry.Becomes style id loader := by
  rw [declare] at h
  split at h
  · cases h
  · next rules hrules =>
    split at h
    · cases h
    · next allowList? hallowList =>
      cases h
      exact ⟨rfl, RuleEntry.compileAll_eq_ok_iff.mp hrules, hallowList, rfl, rfl⟩

theorem Becomes.declare {id : String} (h : entry.Becomes style id loader) :
    entry.declare style id = .ok loader := by
  have hrules : RuleEntry.compileAll id 0 entry.rules = .ok loader.rules :=
    RuleEntry.compileAll_eq_ok_iff.mpr h.rules
  rw [LoaderEntry.declare, hrules, h.allowList, ← h.id_eq, ← h.fragmentPolicy_eq, ← h.style_eq]

theorem exists_cons_of_declareAll
    (h : declareAll style first seen (entry :: entries) = .ok loaders) :
    ∃ loader rest, loaders = loader :: rest ∧ entry.idAt first ∉ seen ∧
      entry.declare style (entry.idAt first) = .ok loader ∧
      declareAll style (first + 1) (entry.idAt first :: seen) entries = .ok rest := by
  rw [declareAll] at h
  split at h
  · cases h
  · next hnew =>
    split at h
    · cases h
    · next loader hdeclare =>
      split at h
      · cases h
      · next rest hrest =>
        cases h
        exact ⟨loader, rest, rfl, hnew, hdeclare, hrest⟩

/-- Compiled loaders are in the order of their entries. -/
theorem declares_of_declareAll (h : declareAll style first seen entries = .ok loaders) :
    List.Forall₂ (fun entry loader => entry.declare style loader.id = .ok loader) entries
      loaders := by
  induction entries generalizing first seen loaders with
  | nil => cases h; exact .nil
  | cons entry entries ih =>
    obtain ⟨loader, rest, rfl, -, hdeclare, hrest⟩ := exists_cons_of_declareAll h
    rw [← (becomes_of_declare hdeclare).id_eq] at hdeclare
    exact .cons hdeclare (ih hrest)

/-- A loader without an id is named by its index. -/
theorem ids_of_declareAll (h : declareAll style first seen entries = .ok loaders) :
    loaders.map (·.id) = entries.mapIdx fun index entry => entry.idAt (first + index) := by
  induction entries generalizing first seen loaders with
  | nil => cases h; rfl
  | cons entry entries ih =>
    obtain ⟨loader, rest, rfl, -, hdeclare, hrest⟩ := exists_cons_of_declareAll h
    have hshift : ∀ index, first + 1 + index = first + (index + 1) := fun index => by omega
    rw [List.map_cons, (becomes_of_declare hdeclare).id_eq, ih hrest, List.mapIdx_cons]
    simp only [hshift, Nat.add_zero]

/-- No two loaders have one id, and none has one that was seen before. -/
theorem nodup_of_declareAll (h : declareAll style first seen entries = .ok loaders) :
    (loaders.map (·.id)).Nodup ∧ ∀ id ∈ loaders.map (·.id), id ∉ seen := by
  induction entries generalizing first seen loaders with
  | nil => cases h; simp
  | cons entry entries ih =>
    obtain ⟨loader, rest, rfl, hnew, hdeclare, hrest⟩ := exists_cons_of_declareAll h
    obtain ⟨hnodup, hunseen⟩ := ih hrest
    rw [List.map_cons, (becomes_of_declare hdeclare).id_eq, List.nodup_cons, List.forall_mem_cons]
    refine ⟨⟨fun hmem => hunseen _ hmem List.mem_cons_self, hnodup⟩, hnew, fun id hid => ?_⟩
    exact fun hseen => hunseen id hid (List.mem_cons_of_mem _ hseen)

end LoaderEntry

namespace Manifest

variable {σ : Type} {manifest : Manifest} {registry : RegistryId}

/-- A manifest that compiles does so because its loaders do, whatever registry they write. -/
theorem exists_declared_of_compile {loaders : List (Loader σ)}
    (h : manifest.compile registry = .ok loaders) :
    ∃ declared, manifest.declared = .ok declared ∧
      loaders = declared.map (·.toLoader registry) := by
  rw [compile_eq] at h
  cases hdeclared : manifest.declared with
  | error error => rw [hdeclared] at h; cases h
  | ok declared => rw [hdeclared] at h; cases h; exact ⟨declared, rfl, rfl⟩

theorem compile_of_declared {declared : List CompiledLoader}
    (h : manifest.declared = .ok declared) (registry : RegistryId) :
    manifest.compile (σ := σ) registry = .ok (declared.map (·.toLoader registry)) := by
  rw [compile_eq, h]; rfl

theorem ids_of_declared {declared : List CompiledLoader} (h : manifest.declared = .ok declared) :
    declared.map (·.id) = manifest.loaderIds := by
  rw [LoaderEntry.ids_of_declareAll h, loaderIds]
  simp only [Nat.zero_add]

end Manifest

end ModuleSynthesis
