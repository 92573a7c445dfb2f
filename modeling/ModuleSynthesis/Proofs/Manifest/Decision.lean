import ModuleSynthesis.Proofs.Loader
import ModuleSynthesis.Proofs.Manifest.Failure

/-!
# The rule that decides

A name is decided at one place of a manifest: by the first rule that settles it, in the first loader
that has such a rule and considers the name. What is declared behind that place is not looked at.

* `CompiledLoader.conclude_append`: rules that do not settle a name leave their fragments to the
  next one.
* `CompiledLoader.answer_of_first`: the answer of a loader is the verdict of the first rule that
  settles the name.
* `Manifest.Decides`: the place where a name is decided, as it is declared.
* `Manifest.answer_depends_on_prefix`: manifests that agree up to that place give one answer.
-/

namespace ModuleSynthesis

variable {σ : Type} {name : String}

/-! ## Rules -/

namespace CompiledRule

/-- A rule matches a name and does not pass it on. -/
def Settles (rule : CompiledRule) (name : String) : Prop :=
  rule.glob.isMatch name ∧ rule.action ≠ .next

instance (rule : CompiledRule) (name : String) : Decidable (rule.Settles name) :=
  inferInstanceAs (Decidable (_ ∧ _))

/-- The fragments of a rule for a name, filled in with what its glob captures; none where the rule
does not match. -/
def leaves (rule : CompiledRule) (name : String) : List String :=
  match rule.glob.captures? name with
  | some captures => rule.fragments.map (·.render name captures)
  | none => []

theorem leaves_of_captures? {rule : CompiledRule} {captures : List String}
    (h : rule.glob.captures? name = some captures) :
    rule.leaves name = rule.fragments.map (·.render name captures) := by
  rw [leaves, h]

end CompiledRule

namespace CompiledLoader

variable {loader : CompiledLoader} {rule : CompiledRule} {captures : List String}

/-- What a rule makes of a name that it does not pass on, where it finds some fragments. -/
def verdict (loader : CompiledLoader) (name : String) (rule : CompiledRule)
    (captures carried : List String) : Answer :=
  if rule.action = .fail then
    .error (.generator name rule.glob.text (.message (rule.message.render name captures)))
  else
    .ok (some (.assemble loader.style name loader.id rule.glob.text
      (carried ++ rule.fragments.map (·.render name captures))))

theorem verdict_ne_none (loader : CompiledLoader) (rule : CompiledRule)
    (captures carried : List String) : loader.verdict name rule captures carried ≠ .ok none := by
  rw [verdict]
  split <;> exact nofun

theorem carry_nil (loader : CompiledLoader) : loader.carry [] = [] := by
  rw [carry]
  split <;> rfl

theorem carry_carry_append (loader : CompiledLoader) (earlier later : List String) :
    loader.carry (loader.carry earlier ++ later) = loader.carry (earlier ++ later) := by
  simp only [carry]
  cases loader.fragmentPolicy <;> rfl

theorem conclude_cons_of_next (h : rule.action = .next) (captures : List String)
    (rules : List (CompiledRule × List String)) (carried : List String) :
    loader.conclude name ((rule, captures) :: rules) carried =
      loader.conclude name rules
        (loader.carry (carried ++ rule.fragments.map (·.render name captures))) := by
  have houtcome (context : Context) : rule.outcome context = ⟨rule.render context, .next⟩ := by
    rw [CompiledRule.outcome, h]
  rw [conclude]
  simp only [houtcome]
  rfl

/-- Behind a rule that does not pass a name on no rule is looked at. -/
theorem conclude_cons_of_ne_next (h : rule.action ≠ .next) (captures : List String)
    (rules : List (CompiledRule × List String)) (carried : List String) :
    loader.conclude name ((rule, captures) :: rules) carried =
      loader.verdict name rule captures carried := by
  rw [conclude, verdict, CompiledRule.outcome]
  cases haction : rule.action with
  | next => exact absurd haction h
  | emit => rfl
  | stop => rfl
  | fail => rfl

theorem matching_cons_of_captures? (h : rule.glob.captures? name = some captures)
    (rules : List CompiledRule) :
    matching (rule :: rules) name = (rule, captures) :: matching rules name := by
  simp [matching, h]

theorem matching_cons_of_not_match (h : rule.glob.captures? name = none)
    (rules : List CompiledRule) : matching (rule :: rules) name = matching rules name := by
  simp [matching, h]

/-- Rules that do not settle a name leave their fragments to the next one. -/
theorem conclude_append (loader : CompiledLoader) {front : List CompiledRule}
    (hfront : ∀ rule ∈ front, ¬ rule.Settles name) (rest : List CompiledRule)
    (carried : List String) :
    loader.conclude name (matching (front ++ rest) name) (loader.carry carried) =
      loader.conclude name (matching rest name)
        (loader.carry (carried ++ front.flatMap (·.leaves name))) := by
  induction front generalizing carried with
  | nil => rw [List.nil_append, List.flatMap_nil, List.append_nil]
  | cons rule front ih =>
    obtain ⟨hrule, hothers⟩ := List.forall_mem_cons.mp hfront
    rw [List.cons_append, List.flatMap_cons]
    cases hcaptures : rule.glob.captures? name with
    | none =>
      rw [matching_cons_of_not_match hcaptures, ih hothers, CompiledRule.leaves, hcaptures,
        List.nil_append]
    | some captures =>
      have hmatch : rule.glob.isMatch name := by rw [Glob.isMatch_eq, hcaptures]; rfl
      have hnext : rule.action = .next := Decidable.not_not.mp fun h => hrule ⟨hmatch, h⟩
      rw [matching_cons_of_captures? hcaptures, conclude_cons_of_next hnext, carry_carry_append,
        ih hothers, CompiledRule.leaves_of_captures? hcaptures, List.append_assoc]

/-! ## Loaders -/

/-- The answer of a loader is the verdict of the first rule that settles the name; it finds what the
loader carries of the fragments of those before it. -/
theorem answer_of_first {index : Nat} (hc : loader.considers name)
    (hrule : loader.rules[index]? = some rule) (haction : rule.action ≠ .next)
    (hcaptures : rule.glob.captures? name = some captures)
    (hfirst : ∀ earlier ∈ loader.rules.take index, ¬ earlier.Settles name) :
    loader.answer name = loader.verdict name rule captures
      (loader.carry ((loader.rules.take index).flatMap (·.leaves name))) := by
  obtain ⟨hlt, rfl⟩ := List.getElem?_eq_some_iff.mp hrule
  have hsplit : loader.rules.take index ++ loader.rules[index] :: loader.rules.drop (index + 1) =
      loader.rules := by
    rw [← List.drop_eq_getElem_cons hlt, List.take_append_drop]
  rw [answer, if_pos hc]
  have hrun := loader.conclude_append hfirst
    (loader.rules[index] :: loader.rules.drop (index + 1)) []
  rw [hsplit, carry_nil, List.nil_append] at hrun
  rw [hrun, matching_cons_of_captures? hcaptures, conclude_cons_of_ne_next haction]

/-- A loader without a rule that settles a name declines it. -/
theorem answer_eq_none (h : ∀ rule ∈ loader.rules, ¬ rule.Settles name) :
    loader.answer name = .ok none := by
  have hrun := loader.conclude_append h [] []
  rw [List.append_nil, carry_nil] at hrun
  rw [answer, hrun]
  split <;> rfl

/-- Loaders that decline a name leave it to the next ones. -/
theorem firstAnswer_append {front : List CompiledLoader}
    (hfront : ∀ loader ∈ front, loader.answer name = .ok none) (rest : List CompiledLoader) :
    firstAnswer (front ++ rest) name = firstAnswer rest name := by
  induction front with
  | nil => rfl
  | cons loader front ih =>
    obtain ⟨hloader, hothers⟩ := List.forall_mem_cons.mp hfront
    rw [List.cons_append, firstAnswer, hloader]
    exact ih hothers

/-- The first loader that does not decline a name answers for all. -/
theorem firstAnswer_of_first {loaders : List CompiledLoader} {index : Nat}
    (hloader : loaders[index]? = some loader) (hanswer : loader.answer name ≠ .ok none)
    (hfirst : ∀ earlier ∈ loaders.take index, earlier.answer name = .ok none) :
    firstAnswer loaders name = loader.answer name := by
  obtain ⟨hlt, rfl⟩ := List.getElem?_eq_some_iff.mp hloader
  have hrun := firstAnswer_append hfirst (loaders.drop index)
  rw [List.take_append_drop, List.drop_eq_getElem_cons hlt, firstAnswer] at hrun
  rw [hrun]
  split
  · next hnone => exact absurd hnone hanswer
  · rfl

theorem exists_first_of_firstAnswer {loaders : List CompiledLoader}
    (h : firstAnswer loaders name ≠ .ok none) :
    ∃ index loader, loaders[index]? = some loader ∧ loader.answer name ≠ .ok none ∧
      ∀ earlier ∈ loaders.take index, earlier.answer name = .ok none := by
  induction loaders with
  | nil => exact absurd rfl h
  | cons loader loaders ih =>
    by_cases hanswer : loader.answer name = .ok none
    · rw [firstAnswer, hanswer] at h
      obtain ⟨index, later, hlater, hdecides, hfirst⟩ := ih h
      exact ⟨index + 1, later, hlater, hdecides, List.forall_mem_cons.mpr ⟨hanswer, hfirst⟩⟩
    · exact ⟨0, loader, rfl, hanswer, by simp⟩

end CompiledLoader

/-! ## Places of a manifest -/

/-- A declared rule matches a name and does not pass it on. -/
def RuleEntry.Settles (rule : RuleEntry) (name : String) : Prop :=
  Glob.SomeMatch [rule.pattern] name ∧ rule.action ≠ .next

/-- A declared loader looks at its rules for a name: the name is well formed, and the allow-list,
where one with globs is declared, has one that it matches. -/
def LoaderEntry.Considers (entry : LoaderEntry) (name : String) : Prop :=
  Name.isWellFormed name ∧ (entry.matchOnly = [] ∨ Glob.SomeMatch entry.matchOnly name)

/-- The rule at an index of a declared loader is the first that settles a name. -/
structure LoaderEntry.Decides (entry : LoaderEntry) (name : String) (index : Nat) : Prop where
  considers : entry.Considers name
  settles : ∃ rule, entry.rules[index]? = some rule ∧ rule.Settles name
  first : ∀ rule ∈ entry.rules.take index, ¬ rule.Settles name

/-- A name is decided by a rule of a loader, both given by their indices; no rule of an earlier
loader decides it. -/
structure Manifest.Decides (manifest : Manifest) (name : String) (loader rule : Nat) : Prop where
  decides : ∃ entry, manifest.loaders[loader]? = some entry ∧ entry.Decides name rule
  first : ∀ entry ∈ manifest.loaders.take loader, ∀ index, ¬ entry.Decides name index

/-- An answer is that of a declared rule of the loader with an id: the unit that it has finished, or
its failure. -/
inductive RuleEntry.Gives (rule : RuleEntry) (id name : String) : Answer → Prop
  /-- The rule has finished a unit. -/
  | made {unit : SourceUnit} (final : rule.action ≠ .fail) (named : unit.name = name)
    (loader_eq : unit.loader = id) (pattern_eq : unit.pattern = rule.pattern) :
    Gives rule id name (.ok (some unit))
  /-- The rule has failed. -/
  | failed {text : String} (fails : rule.action = .fail) :
    Gives rule id name (.error (.generator name rule.pattern (.message text)))

/-- An answer is that of the rule at an index of the loader at an index. -/
def Manifest.Gives (manifest : Manifest) (loader rule : Nat) (name : String) (answer : Answer) :
    Prop :=
  ∃ entry declared, manifest.loaders[loader]? = some entry ∧
    entry.rules[rule]? = some declared ∧ declared.Gives (entry.idAt loader) name answer

theorem RuleEntry.Becomes.settles_iff {entry : RuleEntry} {rule : CompiledRule}
    (h : entry.Becomes rule) : entry.Settles name ↔ rule.Settles name := by
  rw [RuleEntry.Settles, CompiledRule.Settles, h.action, Glob.SomeMatch]
  simp [h.glob]

/-- What a rule becomes is determined. -/
theorem RuleEntry.becomes_unique : Relator.RightUnique RuleEntry.Becomes := by
  intro entry rule other hrule hother
  have hcompile : entry.compile "" 0 = .ok rule := compile_eq_ok_iff.mpr hrule
  rw [compile_eq_ok_iff.mpr hother] at hcompile
  exact (Except.ok.inj hcompile).symm

namespace LoaderEntry.Becomes

variable {entry : LoaderEntry} {style : Style} {id : String} {loader : CompiledLoader}

theorem considers_iff (h : entry.Becomes style id loader) :
    entry.Considers name ↔ loader.considers name := by
  have hadmits : (loader.toLoader .shared : Loader Unit).admits name ↔
      entry.matchOnly = [] ∨ Glob.SomeMatch entry.matchOnly name :=
    LoaderSpec.admits_iff h.allowList
  rw [Considers, ← hadmits, ← CompiledLoader.toLoader_considers (σ := Unit) loader .shared,
    Loader.considers, Bool.and_eq_true]

/-- No rule before an index settles a name, whether declared or compiled rules are looked at. -/
theorem forall_take_iff (h : entry.Becomes style id loader) (index : Nat) :
    (∀ rule ∈ entry.rules.take index, ¬ rule.Settles name) ↔
      ∀ rule ∈ loader.rules.take index, ¬ rule.Settles name := by
  have hbecome := List.forall₂_take index h.rules
  constructor
  · intro hnone rule hrule
    obtain ⟨declared, hdeclared, hbecomes⟩ := hbecome.exists_of_mem_right hrule
    exact fun hsettles => hnone declared hdeclared (hbecomes.settles_iff.mpr hsettles)
  · intro hnone declared hdeclared
    obtain ⟨rule, hrule, hbecomes⟩ := hbecome.exists_of_mem_left hdeclared
    exact fun hsettles => hnone rule hrule (hbecomes.settles_iff.mp hsettles)

/-- A loader answers with the verdict of the rule that decides. -/
theorem answer_of_decides (h : entry.Becomes style id loader) {index : Nat}
    (hd : entry.Decides name index) :
    ∃ declared rule captures, entry.rules[index]? = some declared ∧
      loader.rules[index]? = some rule ∧ declared.Becomes rule ∧
      rule.glob.captures? name = some captures ∧ rule.action ≠ .next ∧
      loader.answer name = loader.verdict name rule captures
        (loader.carry ((loader.rules.take index).flatMap (·.leaves name))) := by
  obtain ⟨declared, hdeclared, hsettles⟩ := hd.settles
  obtain ⟨rule, hrule, hbecomes⟩ := h.rules.exists_getElem? hdeclared
  obtain ⟨hmatch, haction⟩ := hbecomes.settles_iff.mp hsettles
  rw [Glob.isMatch_eq] at hmatch
  obtain ⟨captures, hcaptures⟩ := Option.isSome_iff_exists.mp hmatch
  exact ⟨declared, rule, captures, hdeclared, hrule, hbecomes, hcaptures, haction,
    CompiledLoader.answer_of_first (h.considers_iff.mp hd.considers) hrule haction hcaptures
      ((h.forall_take_iff index).mp hd.first)⟩

/-- A loader does not decline a name exactly if one of its rules decides it. -/
theorem answer_ne_none_iff (h : entry.Becomes style id loader) :
    loader.answer name ≠ .ok none ↔ ∃ index, entry.Decides name index := by
  constructor
  · intro hanswer
    have hconsiders : loader.considers name := by
      refine Decidable.not_not.mp fun hnot => hanswer ?_
      rw [CompiledLoader.answer, if_neg hnot]
    cases hfind : loader.rules.find? (fun rule => decide (rule.Settles name)) with
    | none =>
      refine absurd (CompiledLoader.answer_eq_none fun rule hrule => ?_) hanswer
      simpa using List.find?_eq_none.mp hfind rule hrule
    | some rule =>
      obtain ⟨hsettles, front, rest, hsplit, hfront⟩ := List.find?_eq_some_iff_append.mp hfind
      have hrule : loader.rules[front.length]? = some rule := by rw [hsplit]; simp
      obtain ⟨declared, hdeclared, hbecomes⟩ := h.rules.exists_getElem?_right hrule
      refine ⟨front.length, h.considers_iff.mpr hconsiders, ⟨declared, hdeclared, ?_⟩, ?_⟩
      · exact hbecomes.settles_iff.mpr (of_decide_eq_true hsettles)
      · rw [h.forall_take_iff, hsplit, List.take_left]
        exact fun earlier hearlier => by simpa using hfront earlier hearlier
  · rintro ⟨index, hd⟩
    obtain ⟨_, rule, captures, -, -, -, -, -, hanswer⟩ := h.answer_of_decides hd
    rw [hanswer]
    exact loader.verdict_ne_none _ _ _

theorem answer_eq_none_iff (h : entry.Becomes style id loader) :
    loader.answer name = .ok none ↔ ∀ index, ¬ entry.Decides name index := by
  rw [← not_iff_not, not_forall_not]
  exact h.answer_ne_none_iff

end LoaderEntry.Becomes

namespace Manifest

/-- A manifest is declared as another one is, up to the rule at an index of the loader at an index:
what stands behind that rule and that loader may differ, and so may the policy of the registry. -/
structure AgreesThrough (other manifest : Manifest) (loader rule : Nat) : Prop where
  style_eq : other.style = manifest.style
  earlier : other.loaders.take loader = manifest.loaders.take loader
  deciding : ∃ entry entry', manifest.loaders[loader]? = some entry ∧
    other.loaders[loader]? = some entry' ∧ entry'.id? = entry.id? ∧
    entry'.matchOnly? = entry.matchOnly? ∧ entry'.fragmentPolicy = entry.fragmentPolicy ∧
    entry'.rules.take (rule + 1) = entry.rules.take (rule + 1)

/-- A manifest gives an answer to a request when it is installed in a chain of its own, with a fresh
registry of its policy, and nothing has been requested before. -/
def Answers (manifest : Manifest) (request : String) (answer : Answer) : Prop :=
  ∀ {σ : Type} (memory : σ) (keeps : Bool) (extension now : String) (level : Nat),
    ∃ (loaders : List (Loader σ)) (world after : World σ),
      manifest.world memory (.fresh keeps extension) now = .ok (loaders, world) ∧
      World.resolve (level + 1) request world = some (answer, after)

variable {manifest other : Manifest} {loaders others : List CompiledLoader} {loader rule : Nat}

theorem answers_of_declared (h : manifest.declared = .ok loaders) (request : String) :
    manifest.Answers request (CompiledLoader.firstAnswer loaders (Name.ofRequest request)) := by
  intro σ memory keeps extension now level
  obtain ⟨world, hworld, hagrees⟩ := world_agreesWith h memory keeps extension now
  obtain ⟨after, hresolve, -⟩ := hagrees.resolve level request
  exact ⟨_, world, after, hworld, hresolve⟩

/-- The loader at an index is compiled under the id that it has there. -/
theorem becomes_of_declared (h : manifest.declared = .ok loaders) {entry : LoaderEntry}
    (he : manifest.loaders[loader]? = some entry) :
    ∃ compiled, loaders[loader]? = some compiled ∧
      entry.Becomes manifest.style (entry.idAt loader) compiled := by
  obtain ⟨compiled, hcompiled, hdeclare⟩ :=
    (LoaderEntry.declares_of_declareAll h).exists_getElem? he
  refine ⟨compiled, hcompiled, ?_⟩
  have hid := congrArg (·[loader]?) (ids_of_declared h)
  simp only [List.getElem?_map, hcompiled, loaderIds, List.getElem?_mapIdx, he, Option.map_some,
    Option.some.injEq] at hid
  rw [← hid]
  exact LoaderEntry.becomes_of_declare hdeclare

/-- The loaders before the one that decides decline the name. -/
theorem answer_eq_none_of_decides (h : manifest.declared = .ok loaders)
    (hd : manifest.Decides name loader rule) :
    ∀ earlier ∈ loaders.take loader, earlier.answer name = .ok none := by
  intro earlier hearlier
  have hdeclares := List.forall₂_take loader (LoaderEntry.declares_of_declareAll h)
  obtain ⟨entry, hentry, hdeclare⟩ := hdeclares.exists_of_mem_right hearlier
  exact (LoaderEntry.becomes_of_declare hdeclare).answer_eq_none_iff.mpr (hd.first entry hentry)

/-- The answer for a name is the verdict of the rule that decides it. -/
theorem firstAnswer_of_decides (h : manifest.declared = .ok loaders)
    (hd : manifest.Decides name loader rule) :
    ∃ entry declared compiled settling captures, manifest.loaders[loader]? = some entry ∧
      entry.rules[rule]? = some declared ∧
      entry.Becomes manifest.style (entry.idAt loader) compiled ∧
      compiled.rules[rule]? = some settling ∧ declared.Becomes settling ∧
      settling.glob.captures? name = some captures ∧
      CompiledLoader.firstAnswer loaders name = compiled.verdict name settling captures
        (compiled.carry ((compiled.rules.take rule).flatMap (·.leaves name))) := by
  obtain ⟨entry, hentry, hrule⟩ := hd.decides
  obtain ⟨compiled, hcompiled, hbecomes⟩ := becomes_of_declared h hentry
  obtain ⟨declared, settling, captures, hdeclared, hsettling, hrule_becomes, hcaptures, -,
    hanswer⟩ := hbecomes.answer_of_decides hrule
  refine ⟨entry, declared, compiled, settling, captures, hentry, hdeclared, hbecomes, hsettling,
    hrule_becomes, hcaptures, ?_⟩
  rw [← hanswer]
  exact CompiledLoader.firstAnswer_of_first hcompiled
    (hbecomes.answer_ne_none_iff.mpr ⟨rule, hrule⟩) (answer_eq_none_of_decides h hd)

/-- Some rule decides a name exactly if the loaders do not decline it. -/
theorem firstAnswer_ne_none_iff (h : manifest.declared = .ok loaders) :
    CompiledLoader.firstAnswer loaders name ≠ .ok none ↔
      ∃ loader rule, manifest.Decides name loader rule := by
  constructor
  · intro hanswer
    obtain ⟨index, compiled, hcompiled, hdecides, hfirst⟩ :=
      CompiledLoader.exists_first_of_firstAnswer hanswer
    have hdeclares := LoaderEntry.declares_of_declareAll h
    obtain ⟨entry, hentry, hdeclare⟩ := hdeclares.exists_getElem?_right hcompiled
    obtain ⟨rule, hrule⟩ :=
      (LoaderEntry.becomes_of_declare hdeclare).answer_ne_none_iff.mp hdecides
    refine ⟨index, rule, ⟨entry, hentry, hrule⟩, fun earlier hearlier => ?_⟩
    obtain ⟨other, hother, hdeclare⟩ :=
      (List.forall₂_take index hdeclares).exists_of_mem_left hearlier
    exact (LoaderEntry.becomes_of_declare hdeclare).answer_eq_none_iff.mp (hfirst other hother)
  · rintro ⟨loader, rule, hd⟩
    obtain ⟨_, _, compiled, _, _, -, -, -, -, -, -, hanswer⟩ := firstAnswer_of_decides h hd
    rw [hanswer]
    exact compiled.verdict_ne_none _ _ _

/-- The answer for a name is that of the rule that decides it. -/
theorem gives_of_decides (h : manifest.declared = .ok loaders)
    (hd : manifest.Decides name loader rule) :
    manifest.Gives loader rule name (CompiledLoader.firstAnswer loaders name) := by
  obtain ⟨entry, declared, compiled, settling, captures, hentry, hdeclared, hbecomes, -,
    hsettling, -, hanswer⟩ := firstAnswer_of_decides h hd
  refine ⟨entry, declared, hentry, hdeclared, ?_⟩
  rw [hanswer, CompiledLoader.verdict, hsettling.text_glob, hsettling.action]
  split
  · next hfail => exact .failed hfail
  · next hfinal => exact .made hfinal rfl hbecomes.id_eq rfl

/-- A place that decides a name does so in every manifest that agrees up to there. -/
theorem Decides.of_agreesThrough (hd : manifest.Decides name loader rule)
    (ha : other.AgreesThrough manifest loader rule) : other.Decides name loader rule := by
  obtain ⟨entry, entry', hentry, hentry', -, hmatchOnly, -, hrules⟩ := ha.deciding
  obtain ⟨deciding, hdeciding, hconsiders, ⟨declared, hdeclared, hsettles⟩, hfirst⟩ := hd.decides
  cases hentry.symm.trans hdeciding
  refine ⟨⟨entry', hentry', ?_, ⟨declared, ?_, hsettles⟩, ?_⟩, ?_⟩
  · rw [LoaderEntry.Considers, LoaderEntry.matchOnly, hmatchOnly]
    exact hconsiders
  · have hsame := congrArg (·[rule]?) hrules
    simpa [List.getElem?_take, hdeclared] using hsame
  · have hsame := congrArg (List.take rule) hrules
    simp only [List.take_take, Nat.min_eq_left (Nat.le_succ rule)] at hsame
    rw [hsame]
    exact hfirst
  · rw [ha.earlier]
    exact hd.first

/-- Manifests that agree up to the rule that decides a name give one answer for it. -/
theorem firstAnswer_eq_of_agreesThrough (h : manifest.declared = .ok loaders)
    (h' : other.declared = .ok others) (hd : manifest.Decides name loader rule)
    (ha : other.AgreesThrough manifest loader rule) :
    CompiledLoader.firstAnswer others name = CompiledLoader.firstAnswer loaders name := by
  obtain ⟨entry, _, compiled, settling, captures, hentry, -, hbecomes, hsettling, -, hcaptures,
    hanswer⟩ := firstAnswer_of_decides h hd
  obtain ⟨entry', _, compiled', settling', captures', hentry', -, hbecomes', hsettling', -,
    hcaptures', hanswer'⟩ := firstAnswer_of_decides h' (hd.of_agreesThrough ha)
  obtain ⟨first, second, hfirst, hsecond, hid, -, hpolicy, hrules⟩ := ha.deciding
  cases hentry.symm.trans hfirst
  cases hentry'.symm.trans hsecond
  -- What an entry becomes depends on its place only by the id, which both have in the same way.
  have hid' : compiled'.id = compiled.id := by
    rw [hbecomes'.id_eq, hbecomes.id_eq, LoaderEntry.idAt, LoaderEntry.idAt, hid]
  have hstyle' : compiled'.style = compiled.style := by
    rw [hbecomes'.style_eq, hbecomes.style_eq, ha.style_eq]
  have hpolicy' : compiled'.fragmentPolicy = compiled.fragmentPolicy := by
    rw [hbecomes'.fragmentPolicy_eq, hbecomes.fragmentPolicy_eq, hpolicy]
  have hrules' : compiled'.rules.take (rule + 1) = compiled.rules.take (rule + 1) := by
    have hbecome := List.forall₂_take (rule + 1) hbecomes'.rules
    rw [hrules] at hbecome
    exact List.right_unique_forall₂' RuleEntry.becomes_unique hbecome
      (List.forall₂_take (rule + 1) hbecomes.rules)
  have hbefore : compiled'.rules.take rule = compiled.rules.take rule := by
    simpa only [List.take_take, Nat.min_eq_left (Nat.le_succ rule)] using
      congrArg (List.take rule) hrules'
  have hsame : settling' = settling := by
    simpa [List.getElem?_take, hsettling, hsettling'] using congrArg (·[rule]?) hrules'
  subst hsame
  cases hcaptures.symm.trans hcaptures'
  rw [hanswer, hanswer', hbefore, CompiledLoader.verdict, CompiledLoader.verdict, hid', hstyle',
    CompiledLoader.carry, CompiledLoader.carry, hpolicy']

/-- Loaders that are declared behind all others do not change what is declared before. -/
theorem agreesThrough_append (hd : manifest.Decides name loader rule) (more : List LoaderEntry) :
    { manifest with loaders := manifest.loaders ++ more }.AgreesThrough manifest loader rule := by
  obtain ⟨entry, hentry, -⟩ := hd.decides
  obtain ⟨hlt, -⟩ := List.getElem?_eq_some_iff.mp hentry
  refine ⟨rfl, ?_, entry, entry, hentry, ?_, rfl, rfl, rfl, rfl⟩
  · exact List.take_append_of_le_length (Nat.le_of_lt hlt)
  · rw [← hentry]
    exact List.getElem?_append_left hlt

/-- What a manifest answers to a request, when it is freshly installed, depends on nothing that is
declared behind the rule that decides. Where a request comes to a unit or a failure, one rule of one
loader decides its name, and the answer is that of this rule. Every manifest that agrees with this
one up to there gives the same answer. So does, in particular, one that has more loaders behind
all others. -/
theorem answer_depends_on_prefix {registry : RegistryId} {once : List (Loader σ)}
    (h : manifest.compile registry = .ok once) (request : String) :
    ∃ answer, manifest.Answers request answer ∧
      (answer ≠ .ok none ↔ ∃ loader rule, manifest.Decides (Name.ofRequest request) loader rule) ∧
      (∀ loader rule, manifest.Decides (Name.ofRequest request) loader rule →
        manifest.Gives loader rule (Name.ofRequest request) answer ∧
        ∀ (other : Manifest) (compiled : List (Loader σ)), other.compile registry = .ok compiled →
          other.AgreesThrough manifest loader rule → other.Answers request answer) ∧
      ∀ (more : List LoaderEntry) (compiled : List (Loader σ)),
        { manifest with loaders := manifest.loaders ++ more }.compile registry = .ok compiled →
          answer ≠ .ok none →
          { manifest with loaders := manifest.loaders ++ more }.Answers request answer := by
  obtain ⟨loaders, hdeclared, -⟩ := exists_declared_of_compile h
  have hdecided : CompiledLoader.firstAnswer loaders (Name.ofRequest request) ≠ .ok none ↔
      ∃ loader rule, manifest.Decides (Name.ofRequest request) loader rule :=
    firstAnswer_ne_none_iff hdeclared
  have hagrees (loader rule : Nat) (hd : manifest.Decides (Name.ofRequest request) loader rule)
      (other : Manifest) (compiled : List (Loader σ)) (hc : other.compile registry = .ok compiled)
      (ha : other.AgreesThrough manifest loader rule) : other.Answers request
        (CompiledLoader.firstAnswer loaders (Name.ofRequest request)) := by
    obtain ⟨others, hothers, -⟩ := exists_declared_of_compile hc
    rw [← firstAnswer_eq_of_agreesThrough hdeclared hothers hd ha]
    exact answers_of_declared hothers request
  refine ⟨CompiledLoader.firstAnswer loaders (Name.ofRequest request),
    answers_of_declared hdeclared request, hdecided,
    fun loader rule hd => ⟨gives_of_decides hdeclared hd, hagrees loader rule hd⟩, ?_⟩
  intro more compiled hc hanswer
  obtain ⟨loader, rule, hd⟩ := hdecided.mp hanswer
  exact hagrees loader rule hd _ compiled hc (agreesThrough_append hd more)

end Manifest

/-- A manifest that is declared as `layered` is up to the rule for the view, and differs behind. -/
def relayered : Manifest where
  loaders := [
    { id? := some "views"
      rules := [{ pattern := "App::*", action := .next, fragments := ["use {1};"] },
        { pattern := "App::View", fragments := ["our $view;"] },
        { pattern := "App::View", action := .fail, message? := some "{name} is gone" }] },
    { id? := some "site", rules := [{ pattern := "**", action := .stop }] }]

theorem relayered_declared : ∃ loaders, relayered.declared = .ok loaders := by
  have hdeclared : relayered.declared.toOption.isSome := by decide +kernel
  cases h : relayered.declared with
  | error error => rw [h] at hdeclared; cases hdeclared
  | ok loaders => exact ⟨loaders, rfl⟩

theorem layered_decides : layered.Decides "App::View" 0 1 where
  decides := by
    refine ⟨_, rfl, ⟨by decide, .inl rfl⟩, ⟨_, rfl, ?_, nofun⟩, ?_⟩
    · exact ⟨"App::View", List.mem_singleton.mpr rfl, _,
        Glob.compile_text ⟨"App::View", [.literal "App", .literal "View"], by decide, by decide⟩,
        by decide⟩
    · intro rule hrule
      rw [List.mem_singleton.mp hrule]
      exact fun hsettles => hsettles.2 rfl
  first := nofun

theorem layered_answer_depends_on_prefix :
    (∃ once : List (Loader Unit), layered.compile (.own 0) = .ok once) ∧
      layered.Decides (Name.ofRequest "App/View.pm") 0 1 ∧
      (∃ compiled : List (Loader Unit), relayered.compile (.own 0) = .ok compiled) ∧
      relayered.AgreesThrough layered 0 1 ∧
      ∃ answer, layered.Answers "App/View.pm" answer ∧ relayered.Answers "App/View.pm" answer ∧
        layered.Gives 0 1 (Name.ofRequest "App/View.pm") answer := by
  have hname : Name.ofRequest "App/View.pm" = "App::View" := by decide
  have hdecides : layered.Decides (Name.ofRequest "App/View.pm") 0 1 := hname ▸ layered_decides
  have hcompiles : (layered.compile (.own 0) : Except ManifestError (List (Loader Unit))) =
      .ok (layeredLoaders.map (·.toLoader (.own 0))) :=
    Manifest.compile_of_declared (by decide +kernel) _
  obtain ⟨others, hothers⟩ := relayered_declared
  have hrecompiles := Manifest.compile_of_declared (σ := Unit) hothers (.own 0)
  have hagrees : relayered.AgreesThrough layered 0 1 :=
    ⟨rfl, rfl, _, _, rfl, rfl, rfl, rfl, rfl, rfl⟩
  obtain ⟨answer, hanswers, -, hdecided, -⟩ :=
    Manifest.answer_depends_on_prefix hcompiles "App/View.pm"
  obtain ⟨hgives, hothers⟩ := hdecided 0 1 hdecides
  exact ⟨⟨_, hcompiles⟩, hdecides, ⟨_, hrecompiles⟩, hagrees, answer, hanswers,
    hothers relayered _ hrecompiles hagrees, hgives⟩

end ModuleSynthesis
