import Mathlib.Data.List.Nodup
import ModuleSynthesis.Proofs.Loader.Build
import ModuleSynthesis.Proofs.Manifest.Declared

/-!
# Faults of a manifest

What can be wrong with a manifest is said place by place, without regard to what is wrong elsewhere.
The places are in the order in which they are looked at, and compiling a manifest reports the fault
at the first place that has one.

* `RulePlace.Before`, `LoaderPlace.Before`: the order of the places of a rule and of a loader.
* `RuleEntry.FaultAt`, `LoaderEntry.FaultAt`, `Manifest.FaultAt`: what is wrong at a place.
* `Manifest.WellFormed`, `Manifest.wellFormed_iff`: a manifest is well formed if nothing is wrong.
* `Manifest.compile_reports_first`: a manifest compiles exactly if it is well formed, and otherwise
  the error is its first fault.
-/

namespace ModuleSynthesis

/-! ## Templates -/

namespace Glob

variable {glob : Glob} {text : String} {error : TemplateError}

/-- A text is a template that mentions no capture that a glob does not have. -/
def Suits (glob : Glob) (text : String) : Prop :=
  ∃ template, Template.parse text = .ok template ∧ template.maxCapture ≤ glob.wildcards

/-- What is wrong with a text as a template for a glob. Captures count where it is a template. -/
inductive Misfits (glob : Glob) (text : String) : TemplateError → Prop
  /-- It is no template. -/
  | malformed {error : TemplateError} (h : Template.parse text = .error error) :
    Misfits glob text error
  /-- It mentions a capture that the glob does not have. -/
  | outOfRange {template : Template} (h : Template.parse text = .ok template)
    (hlt : glob.wildcards < template.maxCapture) :
    Misfits glob text (.captureOutOfRange template.maxCapture glob.wildcards glob.text)

theorem templateFor_eq_error_iff :
    glob.templateFor text = .error error ↔ glob.Misfits text error := by
  rw [templateFor]
  cases hparse : Template.parse text with
  | error found =>
    constructor
    · rintro ⟨⟩; exact .malformed hparse
    · rintro (h | ⟨h, -⟩)
      · cases hparse.symm.trans h; rfl
      · cases hparse.symm.trans h
  | ok template =>
    dsimp only
    split
    · next hle =>
      constructor
      · rintro ⟨⟩
      · rintro (h | ⟨h, hlt⟩)
        · cases hparse.symm.trans h
        · cases hparse.symm.trans h; exact absurd hle (Nat.not_le.mpr hlt)
    · next hgt =>
      constructor
      · rintro ⟨⟩; exact .outOfRange hparse (Nat.not_le.mp hgt)
      · rintro (h | ⟨h, -⟩)
        · cases hparse.symm.trans h
        · cases hparse.symm.trans h; rfl

theorem suits_iff : glob.Suits text ↔ ∃ template, glob.templateFor text = .ok template := by
  simp only [Suits, templateFor_eq_ok_iff]

theorem suits_iff_not_misfits : glob.Suits text ↔ ∀ error, ¬ glob.Misfits text error := by
  simp only [suits_iff, ← templateFor_eq_error_iff]
  cases glob.templateFor text <;> simp

theorem Misfits.unique {found : TemplateError} (h : glob.Misfits text error)
    (h' : glob.Misfits text found) : error = found := by
  rw [← templateFor_eq_error_iff] at h h'
  exact Except.error.inj (h.symm.trans h')

end Glob

/-! ## Rules -/

/-- A place in a rule of a manifest. -/
inductive RulePlace where
  /-- The glob. -/
  | pattern
  /-- The fragment at an index. -/
  | fragment (index : Nat)
  /-- The message, also where it is missing. -/
  | message
deriving DecidableEq, Repr

/-- Of a rule the glob is looked at first, then the fragments in order, and then the message. -/
inductive RulePlace.Before : RulePlace → RulePlace → Prop
  | pattern_fragment (index : Nat) : Before .pattern (.fragment index)
  | pattern_message : Before .pattern .message
  | fragment {index later : Nat} (h : index < later) : Before (.fragment index) (.fragment later)
  | fragment_message (index : Nat) : Before (.fragment index) .message

theorem RulePlace.Before.asymm {place other : RulePlace} (h : place.Before other) :
    ¬ other.Before place := by
  intro h'
  cases h with
  | pattern_fragment | pattern_message | fragment_message => cases h'
  | fragment hlt =>
    cases h' with
    | fragment hgt => exact Nat.lt_asymm hlt hgt

namespace RuleEntry

variable {entry : RuleEntry} {loader : String} {index : Nat}

/-- What is wrong at a place of a rule of a loader. Fragments and messages are compared with the
glob, where there is one. -/
inductive FaultAt (entry : RuleEntry) (loader : String) (index : Nat) :
    RulePlace → ManifestError → Prop
  /-- The glob does not compile. -/
  | pattern {source : GlobError} (h : Glob.compile entry.pattern = .error source) :
    FaultAt entry loader index .pattern (.pattern loader index source)
  /-- A fragment does not suit the glob. -/
  | fragment {glob : Glob} {position : Nat} {text : String} {source : TemplateError}
    (compiled : Glob.compile entry.pattern = .ok glob)
    (found : entry.fragments[position]? = some text) (h : glob.Misfits text source) :
    FaultAt entry loader index (.fragment position) (.template loader index source)
  /-- The rule fails and has no message. -/
  | missingMessage (fails : entry.action = .fail) (h : entry.message? = none) :
    FaultAt entry loader index .message (.missingFailMessage loader index)
  /-- The rule fails and its message does not suit the glob. -/
  | message {glob : Glob} {text : String} {source : TemplateError}
    (compiled : Glob.compile entry.pattern = .ok glob) (fails : entry.action = .fail)
    (found : entry.message? = some text) (h : glob.Misfits text source) :
    FaultAt entry loader index .message (.template loader index source)
  /-- The rule has a message and does not fail. -/
  | unexpectedMessage {text : String} (silent : entry.action ≠ .fail)
    (h : entry.message? = some text) :
    FaultAt entry loader index .message (.unexpectedMessage loader index entry.action)

/-- A rule is well formed: its glob compiles, its fragments suit the glob, and it has a message,
which suits the glob too, exactly if it fails. -/
def WellFormed (entry : RuleEntry) : Prop :=
  ∃ glob, Glob.compile entry.pattern = .ok glob ∧ (∀ text ∈ entry.fragments, glob.Suits text) ∧
    (entry.action = .fail → ∃ text, entry.message? = some text ∧ glob.Suits text) ∧
    (entry.action ≠ .fail → entry.message? = none)

theorem FaultAt.unique {place : RulePlace} {error found : ManifestError}
    (h : entry.FaultAt loader index place error) (h' : entry.FaultAt loader index place found) :
    error = found := by
  cases h with
  | pattern h =>
    cases h' with
    | pattern h' => cases h.symm.trans h'; rfl
  | fragment compiled found h =>
    cases h' with
    | fragment compiled' found' h' =>
      cases compiled.symm.trans compiled'
      cases found.symm.trans found'
      rw [h.unique h']
  | missingMessage fails h =>
    cases h' with
    | missingMessage => rfl
    | message _ _ found => cases h.symm.trans found
    | unexpectedMessage silent => exact absurd fails silent
  | message compiled fails found h =>
    cases h' with
    | missingMessage _ h' => cases found.symm.trans h'
    | message compiled' _ found' h' =>
      cases compiled.symm.trans compiled'
      cases found.symm.trans found'
      rw [h.unique h']
    | unexpectedMessage silent => exact absurd fails silent
  | unexpectedMessage silent =>
    cases h' with
    | missingMessage fails => exact absurd fails silent
    | message _ fails => exact absurd fails silent
    | unexpectedMessage => rfl

theorem wellFormed_iff :
    entry.WellFormed ↔ ∀ place error, ¬ entry.FaultAt loader index place error := by
  constructor
  · rintro ⟨glob, hglob, hfragments, hfail, hsilent⟩ place error hfault
    cases hfault with
    | pattern h => cases hglob.symm.trans h
    | fragment compiled found h =>
      cases hglob.symm.trans compiled
      exact Glob.suits_iff_not_misfits.mp (hfragments _ (List.mem_of_getElem? found)) _ h
    | missingMessage fails h =>
      obtain ⟨text, hmessage, -⟩ := hfail fails
      cases h.symm.trans hmessage
    | message compiled fails found h =>
      obtain ⟨text, hmessage, hsuits⟩ := hfail fails
      cases hglob.symm.trans compiled
      cases found.symm.trans hmessage
      exact Glob.suits_iff_not_misfits.mp hsuits _ h
    | unexpectedMessage silent h => cases h.symm.trans (hsilent silent)
  · intro hnone
    cases hglob : Glob.compile entry.pattern with
    | error source => exact absurd (.pattern hglob) (hnone _ _)
    | ok glob =>
      refine ⟨glob, hglob, fun text htext => ?_, fun hfail => ?_, fun hsilent => ?_⟩
      · obtain ⟨position, hposition⟩ := List.mem_iff_getElem?.mp htext
        exact Glob.suits_iff_not_misfits.mpr fun source h =>
          hnone _ _ (.fragment hglob hposition h)
      · cases hmessage : entry.message? with
        | none => exact absurd (.missingMessage hfail hmessage) (hnone _ _)
        | some text =>
          exact ⟨text, rfl, Glob.suits_iff_not_misfits.mpr fun source h =>
            hnone _ _ (.message hglob hfail hmessage h)⟩
      · cases hmessage : entry.message? with
        | none => rfl
        | some text => exact absurd (.unexpectedMessage hsilent hmessage) (hnone _ _)

/-- What comes of a message is what is wrong with it, once the glob compiles. -/
theorem compileMessage_eq_error_iff {glob : Glob} {error : ManifestError}
    (hglob : Glob.compile entry.pattern = .ok glob) :
    entry.compileMessage loader index glob = .error error ↔
      entry.FaultAt loader index .message error := by
  rw [compileMessage]
  constructor
  · intro h
    split at h
    · next hfail hnone => cases h; exact .missingMessage hfail hnone
    · next text hfail hsome =>
      split at h
      · next source htemplate =>
        cases h
        exact .message hglob hfail hsome (Glob.templateFor_eq_error_iff.mp htemplate)
      · cases h
    · next text hsome hnot => cases h; exact .unexpectedMessage hnot hsome
    · cases h
  · intro h
    cases h with
    | missingMessage fails h => simp only [fails, h]
    | message compiled fails found h =>
      cases hglob.symm.trans compiled
      simp only [fails, found, Glob.templateFor_eq_error_iff.mpr h]
    | unexpectedMessage silent h =>
      rw [h]
      split
      · next hfail _ => exact absurd hfail silent
      · next hfail _ => exact absurd hfail silent
      · next heq _ => cases heq; rfl
      · next heq _ => cases heq

/-- The fragments of a rule report the first fault of them. -/
theorem templatesFor_reports (glob : Glob) (texts : List String) :
    Reports (Prod.Lex (· < ·) fun _ _ : Unit => False)
      (MemberFault (fun _ text _ source => glob.Misfits text source) 0 texts)
      (glob.templatesFor texts) := by
  rw [Glob.templatesFor_eq_checkAll texts 0]
  refine Reports.checkAll (fun _ text => ?_) 0 texts
  cases htemplate : glob.templateFor text with
  | ok template =>
    exact fun _ => Glob.suits_iff_not_misfits.mp (Glob.suits_iff.mpr ⟨template, htemplate⟩)
  | error source =>
    exact ⟨(), Glob.templateFor_eq_error_iff.mp htemplate, fun _ _ _ => .inl rfl⟩

theorem Becomes.wellFormed {rule : CompiledRule} (h : entry.Becomes rule) : entry.WellFormed := by
  refine ⟨rule.glob, h.glob, fun text htext => ?_, fun hfail => ?_, fun hsilent => ?_⟩
  · obtain ⟨position, hposition⟩ := List.mem_iff_getElem?.mp htext
    obtain ⟨template, -, htemplate⟩ := h.fragments.exists_getElem? hposition
    exact Glob.suits_iff.mpr ⟨template, htemplate⟩
  · obtain ⟨text, hmessage, htemplate⟩ := h.message hfail
    exact ⟨text, hmessage, Glob.suits_iff.mpr ⟨_, htemplate⟩⟩
  · exact (h.silent hsilent).1

/-- A rule reports its first fault. -/
theorem compile_reports (entry : RuleEntry) (loader : String) (index : Nat) :
    Reports RulePlace.Before (entry.FaultAt loader index) (entry.compile loader index) := by
  cases houtcome : entry.compile loader index with
  | ok rule => exact wellFormed_iff.mp (compile_eq_ok_iff.mp houtcome).wellFormed
  | error error =>
    rw [compile] at houtcome
    split at houtcome
    · next source hglob =>
      cases houtcome
      refine ⟨.pattern, .pattern hglob, fun other found hfound => ?_⟩
      cases other with
      | pattern => exact .inl rfl
      | fragment position => exact .inr (.pattern_fragment position)
      | message => exact .inr .pattern_message
    · next glob hglob =>
      have hpattern : ∀ found, ¬ entry.FaultAt loader index .pattern found := by
        rintro found ⟨h⟩
        cases hglob.symm.trans h
      have hfragments := templatesFor_reports glob entry.fragments
      split at houtcome
      · next source htemplates =>
        cases houtcome
        rw [htemplates] at hfragments
        obtain ⟨⟨position, _⟩, ⟨text, htext, hmisfits⟩, hfirst⟩ := hfragments
        refine ⟨.fragment position, .fragment hglob htext hmisfits, fun other found hfound => ?_⟩
        cases hfound with
        | pattern h => exact absurd (.pattern h) (hpattern _)
        | @fragment _ later _ _ compiled hlater h =>
          cases hglob.symm.trans compiled
          rcases hfirst (later, ()) _ ⟨_, hlater, h⟩ with hsame | hbefore
          · cases hsame; exact .inl rfl
          · cases hbefore with
            | left _ _ hlt => exact .inr (.fragment hlt)
            | right _ hnever => exact hnever.elim
        | missingMessage | message | unexpectedMessage =>
          exact .inr (.fragment_message position)
      · next templates htemplates =>
        rw [htemplates] at hfragments
        split at houtcome
        · next source hmessage =>
          cases houtcome
          refine ⟨.message, (compileMessage_eq_error_iff hglob).mp hmessage,
            fun other found hfound => ?_⟩
          cases hfound with
          | pattern h => exact absurd (.pattern h) (hpattern _)
          | fragment compiled hlater h =>
            cases hglob.symm.trans compiled
            exact absurd ⟨_, hlater, h⟩ (hfragments (_, ()) _)
          | missingMessage | message | unexpectedMessage => exact .inl rfl
        · cases houtcome

end RuleEntry

/-! ## Loaders -/

/-- A place in a loader of a manifest. -/
inductive LoaderPlace where
  /-- The id. -/
  | id
  /-- A place in the rule at an index. -/
  | rule (index : Nat) (place : RulePlace)
  /-- The glob of the allow-list at an index. -/
  | allowed (index : Nat)
deriving DecidableEq, Repr

/-- Of a loader the id is looked at first, then the rules in order, and then the allow-list in
order. -/
inductive LoaderPlace.Before : LoaderPlace → LoaderPlace → Prop
  | id_rule (index : Nat) (place : RulePlace) : Before .id (.rule index place)
  | id_allowed (index : Nat) : Before .id (.allowed index)
  | rule {index later : Nat} (h : index < later) (place other : RulePlace) :
    Before (.rule index place) (.rule later other)
  | within (index : Nat) {place other : RulePlace} (h : place.Before other) :
    Before (.rule index place) (.rule index other)
  | rule_allowed (index : Nat) (place : RulePlace) (later : Nat) :
    Before (.rule index place) (.allowed later)
  | allowed {index later : Nat} (h : index < later) : Before (.allowed index) (.allowed later)

theorem LoaderPlace.Before.asymm {place other : LoaderPlace} (h : place.Before other) :
    ¬ other.Before place := by
  intro h'
  cases h with
  | id_rule | id_allowed | rule_allowed => cases h'
  | rule hlt =>
    cases h' with
    | rule hgt => exact Nat.lt_asymm hlt hgt
    | within => exact Nat.lt_irrefl _ hlt
  | within _ hbefore =>
    cases h' with
    | rule hgt => exact Nat.lt_irrefl _ hgt
    | within _ hafter => exact hbefore.asymm hafter
  | allowed hlt =>
    cases h' with
    | allowed hgt => exact Nat.lt_asymm hlt hgt

namespace LoaderEntry

variable {entry : LoaderEntry} {earlier : List String} {index : Nat} {style : Style}

/-- What is wrong at a place of the loader at an index, where the earlier loaders have these ids. -/
inductive FaultAt (entry : LoaderEntry) (earlier : List String) (index : Nat) :
    LoaderPlace → ManifestError → Prop
  /-- An earlier loader has the same id. -/
  | id (h : entry.idAt index ∈ earlier) :
    FaultAt entry earlier index .id (.duplicateLoaderId (entry.idAt index))
  /-- Something is wrong with a rule. -/
  | rule {position : Nat} {rule : RuleEntry} {place : RulePlace} {error : ManifestError}
    (found : entry.rules[position]? = some rule)
    (h : rule.FaultAt (entry.idAt index) position place error) :
    FaultAt entry earlier index (.rule position place) error
  /-- A glob of the allow-list does not compile. -/
  | allowed {position : Nat} {text : String} {source : GlobError}
    (found : entry.matchOnly[position]? = some text) (h : Glob.compile text = .error source) :
    FaultAt entry earlier index (.allowed position)
      (.build (entry.idAt index) (.matchOnly text source))

/-- A loader is well formed apart from its id: its rules are, and every glob of its allow-list
compiles. -/
def WellFormed (entry : LoaderEntry) : Prop :=
  (∀ rule ∈ entry.rules, rule.WellFormed) ∧
    ∀ text ∈ entry.matchOnly, ∃ glob, Glob.compile text = .ok glob

theorem FaultAt.unique {place : LoaderPlace} {error found : ManifestError}
    (h : entry.FaultAt earlier index place error) (h' : entry.FaultAt earlier index place found) :
    error = found := by
  cases h with
  | id => cases h' with | id => rfl
  | rule hrule h =>
    cases h' with
    | rule hrule' h' =>
      cases hrule.symm.trans hrule'
      exact h.unique h'
  | allowed htext h =>
    cases h' with
    | allowed htext' h' =>
      cases htext.symm.trans htext'
      cases h.symm.trans h'
      rfl

theorem wellFormed_iff :
    entry.idAt index ∉ earlier ∧ entry.WellFormed ↔
      ∀ place error, ¬ entry.FaultAt earlier index place error := by
  constructor
  · rintro ⟨hnew, hrules, hallowed⟩ place error hfault
    cases hfault with
    | id h => exact hnew h
    | rule found h =>
      exact RuleEntry.wellFormed_iff.mp (hrules _ (List.mem_of_getElem? found)) _ _ h
    | allowed found h =>
      obtain ⟨glob, hglob⟩ := hallowed _ (List.mem_of_getElem? found)
      cases h.symm.trans hglob
  · intro hnone
    refine ⟨fun h => hnone _ _ (.id h), fun rule hrule => ?_, fun text htext => ?_⟩
    · obtain ⟨position, hposition⟩ := List.mem_iff_getElem?.mp hrule
      exact RuleEntry.wellFormed_iff.mpr fun place error h => hnone _ _ (.rule hposition h)
    · obtain ⟨position, hposition⟩ := List.mem_iff_getElem?.mp htext
      cases hglob : Glob.compile text with
      | ok glob => exact ⟨glob, rfl⟩
      | error source => exact absurd (.allowed hposition hglob) (hnone _ _)

end LoaderEntry

/-- An allow-list reports the first of its globs that does not compile. -/
theorem LoaderSpec.buildAllowList_reports (texts : List String) :
    Reports (Prod.Lex (· < ·) fun _ _ : Unit => False)
      (MemberFault (fun _ text _ error => ∃ source, Glob.compile text = .error source ∧
        error = .matchOnly text source) 0 texts)
      (buildAllowList texts) := by
  rw [buildAllowList]
  split
  · next hempty =>
    rintro place error ⟨text, htext, -⟩
    rw [hempty] at htext
    cases htext
  · rw [AllowList.compile, AllowList.compileGlobs_eq_checkAll texts 0]
    refine .map (.map (Reports.checkAll (fun _ text => ?_) 0 texts) _) _
    rw [AllowList.compileGlob]
    cases Glob.compile text with
    | ok glob => rintro place error ⟨source, ⟨⟩, -⟩
    | error source => exact ⟨(), ⟨source, rfl, rfl⟩, fun _ _ _ => .inl rfl⟩

namespace LoaderEntry

variable {entry : LoaderEntry} {earlier : List String} {index : Nat} {style : Style}

/-- The compiled loader of the entry at an index, if no earlier loader has its id. -/
def declareNew (style : Style) (earlier : List String) (entry : LoaderEntry) (index : Nat) :
    Except ManifestError CompiledLoader :=
  if entry.idAt index ∈ earlier then .error (.duplicateLoaderId (entry.idAt index))
  else entry.declare style (entry.idAt index)

/-- A loader reports its first fault. -/
theorem declareNew_reports (style : Style) (earlier : List String) (entry : LoaderEntry)
    (index : Nat) :
    Reports LoaderPlace.Before (entry.FaultAt earlier index)
      (entry.declareNew style earlier index) := by
  rw [declareNew]
  split
  · next hseen =>
    refine ⟨.id, .id hseen, fun other found _ => ?_⟩
    cases other with
    | id => exact .inl rfl
    | rule position place => exact .inr (.id_rule position place)
    | allowed position => exact .inr (.id_allowed position)
  · next hnew =>
    have hid : ∀ found, ¬ entry.FaultAt earlier index .id found := fun found h => by
      cases h with
      | id h => exact hnew h
    have hrules := Reports.checkAll (fun position rule =>
      rule.compile_reports (entry.idAt index) position) 0 entry.rules
    have hallowed := LoaderSpec.buildAllowList_reports entry.matchOnly
    rw [← RuleEntry.compileAll_eq_checkAll] at hrules
    rw [declare]
    split
    · next error hcompile =>
      rw [hcompile] at hrules
      obtain ⟨⟨position, place⟩, ⟨rule, hrule, hfault⟩, hfirst⟩ := hrules
      rw [Nat.zero_add] at hfault
      refine ⟨.rule position place, .rule hrule hfault, fun other found hfound => ?_⟩
      cases hfound with
      | id h => exact absurd (.id h) (hid _)
      | @rule later _ inner _ hlater h =>
        rw [← Nat.zero_add later] at h
        rcases hfirst (later, inner) found ⟨_, hlater, h⟩ with hsame | hbefore
        · cases hsame; exact .inl rfl
        · cases hbefore with
          | left _ _ hlt => exact .inr (.rule hlt _ _)
          | right _ hbefore => exact .inr (.within _ hbefore)
      | allowed => exact .inr (.rule_allowed _ _ _)
    · next rules hcompile =>
      rw [hcompile] at hrules
      have hnone : ∀ position place found,
          ¬ entry.FaultAt earlier index (.rule position place) found := by
        rintro position place found ⟨⟩
        next rule hrule h =>
          rw [← Nat.zero_add position] at h
          exact hrules (position, place) found ⟨rule, hrule, h⟩
      split
      · next error hbuild =>
        rw [hbuild] at hallowed
        obtain ⟨⟨position, _⟩, ⟨text, htext, source, hglob, rfl⟩, hfirst⟩ := hallowed
        refine ⟨.allowed position, .allowed htext hglob, fun other found hfound => ?_⟩
        cases hfound with
        | id h => exact absurd (.id h) (hid _)
        | rule hrule h => exact absurd (.rule hrule h) (hnone _ _ _)
        | @allowed later _ source hlater h =>
          rcases hfirst (later, ()) _ ⟨_, hlater, source, h, rfl⟩ with hsame | hbefore
          · cases hsame; exact .inl rfl
          · cases hbefore with
            | left _ _ hlt => exact .inr (.allowed hlt)
            | right _ hnever => exact hnever.elim
      · next allowList? hbuild =>
        rw [hbuild] at hallowed
        intro other found hfound
        cases hfound with
        | id h => exact hid _ (.id h)
        | rule hrule h => exact hnone _ _ _ (.rule hrule h)
        | allowed htext h => exact hallowed (_, ()) _ ⟨_, htext, _, h, rfl⟩

/-- The loaders that were seen before an index are those with the first ids. -/
theorem declareAll_eq_checkAll {ids seen : List String} {first : Nat} {entries : List LoaderEntry}
    (hids : ids.drop first = entries.mapIdx fun index entry => entry.idAt (first + index))
    (hseen : ∀ id, id ∈ seen ↔ id ∈ ids.take first) :
    declareAll style first seen entries =
      checkAll (fun index entry => entry.declareNew style (ids.take index) index) first
        entries := by
  induction entries generalizing first seen with
  | nil => rfl
  | cons entry entries ih =>
    rw [List.mapIdx_cons] at hids
    have hid : ids[first]? = some (entry.idAt first) := by
      rw [← List.head?_drop, hids]; rfl
    have hrest : ids.drop (first + 1) =
        entries.mapIdx fun index entry => entry.idAt (first + 1 + index) := by
      rw [← List.tail_drop, hids, List.tail_cons]
      simp only [Nat.add_assoc, Nat.add_comm 1]
    have hnext : ∀ id, id ∈ entry.idAt first :: seen ↔ id ∈ ids.take (first + 1) := fun id => by
      rw [List.take_add_one, hid, List.mem_cons, List.mem_append, hseen]
      simp [or_comm]
    rw [declareAll, checkAll, ih hrest hnext, declareNew]
    simp only [hseen]
    split
    · rfl
    · cases entry.declare style (entry.idAt first) with
      | error => rfl
      | ok loader =>
        cases checkAll (fun index entry => entry.declareNew style (ids.take index) index)
          (first + 1) entries <;> rfl

end LoaderEntry

/-! ## Manifests -/

namespace Manifest

variable {σ : Type} {manifest : Manifest}

/-- What is wrong with a manifest at a place of the loader at an index. -/
def FaultAt (manifest : Manifest) (place : Nat × LoaderPlace) (error : ManifestError) : Prop :=
  ∃ entry, manifest.loaders[place.1]? = some entry ∧
    entry.FaultAt (manifest.loaderIds.take place.1) place.1 place.2 error

/-- Whether a place of a manifest is looked at before another one: loaders are taken in order. -/
def PlaceBefore : Nat × LoaderPlace → Nat × LoaderPlace → Prop :=
  Prod.Lex (· < ·) LoaderPlace.Before

/-- A manifest is well formed: its loaders have different ids, and each of them is well formed. -/
structure WellFormed (manifest : Manifest) : Prop where
  ids : manifest.loaderIds.Nodup
  loaders : ∀ entry ∈ manifest.loaders, entry.WellFormed

theorem PlaceBefore.asymm {place other : Nat × LoaderPlace} (h : PlaceBefore place other) :
    ¬ PlaceBefore other place := by
  intro h'
  cases h with
  | left _ _ hlt =>
    cases h' with
    | left _ _ hgt => exact Nat.lt_asymm hlt hgt
    | right => exact Nat.lt_irrefl _ hlt
  | right _ hbefore =>
    cases h' with
    | left _ _ hgt => exact Nat.lt_irrefl _ hgt
    | right _ hafter => exact hbefore.asymm hafter

theorem FaultAt.unique {place : Nat × LoaderPlace} {error found : ManifestError}
    (h : manifest.FaultAt place error) (h' : manifest.FaultAt place found) : error = found := by
  obtain ⟨entry, hentry, h⟩ := h
  obtain ⟨entry', hentry', h'⟩ := h'
  cases hentry.symm.trans hentry'
  exact h.unique h'

theorem getElem?_loaderIds (index : Nat) :
    manifest.loaderIds[index]? = manifest.loaders[index]?.map (·.idAt index) := by
  rw [loaderIds, List.getElem?_mapIdx]

/-- Ids are different exactly if none of them stands before its own place. -/
theorem nodup_iff_not_mem_take {ids : List String} :
    ids.Nodup ↔ ∀ (index : Nat) (id : String), ids[index]? = some id → id ∉ ids.take index := by
  rw [List.nodup_iff_getElem?_ne_getElem?]
  constructor
  · intro hne later id hid hmem
    obtain ⟨index, hindex⟩ := List.mem_iff_getElem?.mp hmem
    rw [List.getElem?_take] at hindex
    obtain ⟨hlt, hindex⟩ := Option.ite_none_right_eq_some.mp hindex
    have hlater : later < ids.length := (List.getElem?_eq_some_iff.mp hid).1
    exact hne index later hlt hlater (hindex.trans hid.symm)
  · intro hnew index later hlt hlater hsame
    refine hnew later ids[later] (List.getElem?_eq_getElem hlater) ?_
    rw [List.getElem?_eq_getElem hlater] at hsame
    exact List.mem_of_getElem? ((List.getElem?_take_of_lt hlt).trans hsame)

/-- A manifest is well formed exactly if nothing is wrong at any place. -/
theorem wellFormed_iff :
    manifest.WellFormed ↔ ∀ place error, ¬ manifest.FaultAt place error := by
  constructor
  · rintro ⟨hids, hloaders⟩ place error ⟨entry, hentry, hfault⟩
    have hnew : entry.idAt place.1 ∉ manifest.loaderIds.take place.1 :=
      nodup_iff_not_mem_take.mp hids place.1 _ (by rw [getElem?_loaderIds, hentry]; rfl)
    exact LoaderEntry.wellFormed_iff.mp ⟨hnew, hloaders entry (List.mem_of_getElem? hentry)⟩ _ _
      hfault
  · intro hnone
    have hentries (index : Nat) (entry : LoaderEntry)
        (hentry : manifest.loaders[index]? = some entry) :
        entry.idAt index ∉ manifest.loaderIds.take index ∧ entry.WellFormed :=
      LoaderEntry.wellFormed_iff.mpr fun place error h =>
        hnone (index, place) error ⟨entry, hentry, h⟩
    refine ⟨nodup_iff_not_mem_take.mpr fun index id hid => ?_, fun entry hentry => ?_⟩
    · rw [getElem?_loaderIds] at hid
      obtain ⟨entry, hentry, rfl⟩ := Option.map_eq_some_iff.mp hid
      exact (hentries index entry hentry).1
    · obtain ⟨index, hindex⟩ := List.mem_iff_getElem?.mp hentry
      exact (hentries index entry hindex).2

/-- A manifest reports its first fault. -/
theorem declared_reports (manifest : Manifest) :
    Reports PlaceBefore manifest.FaultAt manifest.declared := by
  have hids : manifest.loaderIds.drop 0 =
      manifest.loaders.mapIdx fun index entry => entry.idAt (0 + index) := by
    simp only [List.drop_zero, loaderIds, Nat.zero_add]
  have hfault : manifest.FaultAt = MemberFault (fun index entry =>
      entry.FaultAt (manifest.loaderIds.take index) index) 0 manifest.loaders := by
    funext place error
    simp only [FaultAt, MemberFault, Nat.zero_add]
  rw [declared, LoaderEntry.declareAll_eq_checkAll hids (by simp), hfault]
  exact Reports.checkAll (fun index entry => entry.declareNew_reports _ _ index) 0 manifest.loaders

/-- A manifest compiles exactly if it is well formed: its loaders have different ids, all globs of
its rules and allow-lists compile, all fragments suit the glob of their rule, and there is a
message, which suits it too, exactly where a rule fails. Otherwise the error is the first fault:
loaders are taken in order, and of each of them its id, its rules in order and its allow-list; of a
rule its glob, its fragments in order and its message are taken. -/
theorem compile_reports_first (manifest : Manifest) (registry : RegistryId) :
    ((∃ loaders : List (Loader σ), manifest.compile registry = .ok loaders) ↔
      manifest.WellFormed) ∧
    ∀ error, manifest.compile (σ := σ) registry = .error error ↔
      FirstFault PlaceBefore manifest.FaultAt error := by
  have hreports : Reports PlaceBefore manifest.FaultAt (manifest.compile (σ := σ) registry) := by
    rw [compile_eq]
    exact (declared_reports manifest).map _
  exact ⟨hreports.exists_ok_iff.trans wellFormed_iff.symm,
    hreports.eq_error_iff (fun _ _ => PlaceBefore.asymm) fun _ _ _ => FaultAt.unique⟩

end Manifest

end ModuleSynthesis
