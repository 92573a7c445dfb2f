import ModuleSynthesis.Proofs.Glob.Captures
import ModuleSynthesis.Proofs.Loader
import ModuleSynthesis.Proofs.Manifest.Declared
import ModuleSynthesis.Proofs.Template.Grammar

/-!
# Placeholders of a manifest are filled in

A capture that does not exist is rendered as no text. No rule of a manifest comes to that: its
templates are checked against the wildcards of its glob, and a match has one capture for each of
them.

* `Lexeme.value?`: what a lexeme stands for in a context, with nothing in the place of a capture
  that does not exist.
* `Template.Fills`: a text with everything in it filled in.
* `CompiledLoader.dispatch_calls`: the generators that a loader calls for a request.
* `Manifest.dispatch_fills`: whatever a loader of a manifest calls, the texts of its rule are
  filled in.
-/

namespace ModuleSynthesis

variable {σ : Type}

/-! ## Filling in a text -/

/-- What a lexeme stands for in a context; there is nothing where there is no such capture. -/
def Lexeme.value? (context : Context) : Lexeme → Option String
  | .plain c _ => some (String.singleton c)
  | .opening => some (String.singleton '{')
  | .closing => some (String.singleton '}')
  | .braced .name => some context.name
  | .braced (.capture numeral) => context.capture? numeral.value

/-- A text is filled in: every lexeme of it stands for something in the context, and what they
stand for, one after the other, is the result. -/
def Template.Fills (context : Context) (text filled : String) : Prop :=
  ∃ lexemes values, Lexeme.textOf lexemes = text ∧
    List.Forall₂ (fun lexeme value => lexeme.value? context = some value) lexemes values ∧
    filled = String.join values

variable {context : Context}

/-- Where no capture is missing, a lexeme stands for what is rendered. -/
theorem Lexeme.value?_eq_some_value {lexeme : Lexeme}
    (h : ∀ index, lexeme.index? = some index → index ≤ context.captures.length) :
    lexeme.value? context = some (lexeme.value context.name context.captures) := by
  cases lexeme with
  | plain | opening | closing => rfl
  | braced body =>
    cases body with
    | name => rfl
    | capture numeral =>
      obtain ⟨index, hvalue⟩ : ∃ index, numeral.value = index + 1 :=
        Nat.exists_eq_add_one.mpr numeral.value_pos
      have hbound : numeral.value ≤ context.captures.length := h _ rfl
      have hlt : index < context.captures.length := by omega
      rw [value?, value, Context.capture?, hvalue, captureAt?, Nat.add_sub_cancel,
        List.getD_eq_getElem?_getD, List.getElem?_eq_getElem hlt, Option.getD_some]

/-- A template that mentions no more captures than there are is filled in. -/
theorem Template.fills_of_parse {text : String} {template : Template}
    (h : parse text = .ok template) (hle : template.maxCapture ≤ context.captures.length) :
    Fills context text (template.render context.name context.captures) := by
  obtain ⟨lexemes, rfl⟩ := exists_textOf_of_parse h
  refine ⟨lexemes, lexemes.map (·.value context.name context.captures), rfl, ?_,
    render_of_parse_textOf _ _ h⟩
  rw [List.forall₂_map_right_iff, List.forall₂_same]
  refine fun lexeme hlexeme => Lexeme.value?_eq_some_value fun index hindex => ?_
  have hmem : index ∈ lexemes.filterMap Lexeme.index? :=
    List.mem_filterMap.mpr ⟨lexeme, hlexeme, hindex⟩
  rw [maxCapture_of_parse_textOf h] at hle
  exact (List.le_max?_getD_of_mem hmem).trans hle

/-! ## The rules of a loader -/

/-- A rule of a manifest is filled in by the rule that it was compiled to, for a context: the
context holds what the glob has captured in the name, one capture for each wildcard, every fragment
is filled in, and so is the message of a failing rule. What is filled in is what the generator
leaves. -/
structure RuleEntry.Filled (entry : RuleEntry) (rule : Rule σ) (context : Context) : Prop where
  glob : Glob.compile entry.pattern = .ok rule.glob
  captured : rule.glob.captures? context.name = some context.captures
  counted : context.captures.length = rule.glob.wildcards
  fragments : ∃ filled, List.Forall₂ (Template.Fills context) entry.fragments filled ∧
    (entry.action ≠ .fail → ∃ exit, rule.generator context = .done ⟨filled, exit⟩)
  message : entry.action = .fail → ∃ text filled, entry.message? = some text ∧
    Template.Fills context text filled ∧
    rule.generator context = .done ⟨[], .fail (.message filled)⟩

theorem Glob.fills_of_templateFor {glob : Glob} {text : String} {template : Template}
    (h : glob.templateFor text = .ok template)
    (hlength : context.captures.length = glob.wildcards) :
    Template.Fills context text (template.render context.name context.captures) := by
  obtain ⟨hparse, hle⟩ := Glob.templateFor_eq_ok_iff.mp h
  exact Template.fills_of_parse hparse (by omega)

theorem RuleEntry.Becomes.filled {entry : RuleEntry} {rule : CompiledRule}
    (h : entry.Becomes rule) (hc : rule.glob.captures? context.name = some context.captures) :
    entry.Filled (rule.toRule : Rule σ) context := by
  have hlength : context.captures.length = rule.glob.wildcards := Glob.length_of_captures? hc
  refine ⟨h.glob, hc, hlength, ⟨rule.render context, ?_, fun haction => ?_⟩, fun hfail => ?_⟩
  · rw [CompiledRule.render, List.forall₂_map_right_iff]
    exact h.fragments.imp fun text template htemplate =>
      Glob.fills_of_templateFor htemplate hlength
  · rw [← h.action] at haction
    obtain ⟨exit, houtcome, -⟩ := CompiledRule.outcome_of_ne_fail haction context
    exact ⟨exit, congrArg Program.done houtcome⟩
  · obtain ⟨text, hmessage, htemplate⟩ := h.message hfail
    rw [← h.action] at hfail
    exact ⟨text, _, hmessage, Glob.fills_of_templateFor htemplate hlength,
      congrArg Program.done (CompiledRule.outcome_of_fail hfail context)⟩

/-! ## The calls of a request -/

namespace CompiledLoader

variable {loader : CompiledLoader} {name : String}

/-- A loader calls the generator of one of some rules that match a name. -/
structure Calls (loader : CompiledLoader) (name : String)
    (rules : List (CompiledRule × List String)) (call : Call) : Prop where
  loader_eq : call.loader = loader.id
  name_eq : call.context.name = name
  rule : ∃ rule, (rule, call.context.captures) ∈ rules ∧ rule.glob.text = call.pattern

theorem Calls.cons {rules : List (CompiledRule × List String)} {call : Call}
    (h : loader.Calls name rules call) (first : CompiledRule × List String) :
    loader.Calls name (first :: rules) call := by
  obtain ⟨rule, hmem, hpattern⟩ := h.rule
  exact ⟨h.loader_eq, h.name_eq, rule, List.mem_cons_of_mem _ hmem, hpattern⟩

/-- Rules that match a name are called in order; the first is called for sure. -/
theorem tryRules_calls (loader : CompiledLoader) (registry : RegistryId) (level : Nat)
    (requests : Requests σ) (name : String) (rules : List (CompiledRule × List String))
    (carried : List String) (world : World σ) :
    ∃ answer after calls, (loader.toLoader registry).tryRules level requests name
        (rules.map fun (rule, captures) => (rule.toRule, captures)) carried world =
      some (answer, after) ∧
      after.calls = world.calls ++ calls ∧ (calls = [] ↔ rules = []) ∧
      ∀ call ∈ calls, loader.Calls name rules call := by
  induction rules generalizing carried world with
  | nil =>
    have hafter : (world.log (.exhausted loader.id name)).calls = world.calls :=
      World.calls_log (fun _ h => by cases h) world
    exact ⟨_, _, [], rfl, by rw [List.append_nil]; exact hafter, by simp, by simp⟩
  | cons first rules ih =>
    obtain ⟨rule, captures⟩ := first
    let call : Call := ⟨level, loader.id, rule.glob.text, ⟨name, captures, carried⟩⟩
    have hcall : loader.Calls name ((rule, captures) :: rules) call :=
      ⟨rfl, rfl, rule, List.mem_cons_self, rfl⟩
    -- Nothing that happens after the call, up to the next rule, is a call.
    have hlogged : (world.log (.called call)).calls = world.calls ++ [call] :=
      World.calls_log_called world call
    have hnoted : ∀ event, (∀ other, event ≠ .called other) →
        ((world.log (.called call)).log event).calls = world.calls ++ [call] :=
      fun event hevent => (World.calls_log hevent _).trans hlogged
    rw [List.map_cons, Loader.tryRules]
    dsimp only [CompiledRule.toRule, Program.run, Context.emitAll]
    cases (rule.outcome ⟨name, captures, carried⟩).exit with
    | done =>
      exact ⟨_, _, [call], rfl, (Loader.calls_finish _ _ _ _ _).trans hlogged, by simp,
        by simpa using hcall⟩
    | stop =>
      exact ⟨_, _, [call], rfl,
        (Loader.calls_finish _ _ _ _ _).trans (hnoted (.stopped _ _ _) (by simp)), by simp,
        by simpa using hcall⟩
    | next =>
      obtain ⟨answer, after, calls, hrun, hafter, -, hcalls⟩ := ih
        (loader.carry (carried ++ (rule.outcome ⟨name, captures, carried⟩).emitted))
        ((world.log (.called call)).log (.skipped loader.id name rule.glob.text))
      refine ⟨answer, after, call :: calls, hrun, ?_, by simp, ?_⟩
      · have hskipped := hnoted (.skipped loader.id name rule.glob.text) (by simp)
        rw [hafter, hskipped, List.append_assoc, List.singleton_append]
      · rw [List.forall_mem_cons]
        exact ⟨hcall, fun later hlater => (hcalls later hlater).cons _⟩
    | fail cause =>
      exact ⟨_, _, [call], rfl, hnoted (.failed _ _ _ _) (by simp), by simp,
        by simpa using hcall⟩

end CompiledLoader

/-! ## Requests to a loader of a manifest -/

namespace CompiledLoader

/-- A loader calls generators for a request exactly if it would handle it, and only those of its
rules that match the name. -/
theorem dispatch_calls (loader : CompiledLoader) (registry : RegistryId) (level : Nat)
    (requests : Requests σ) (request : String) (world : World σ) :
    ∃ answer after calls, (loader.toLoader registry).dispatch level requests request world =
      some (answer, after) ∧
      after.calls = world.calls ++ calls ∧
      (calls ≠ [] ↔ (loader.toLoader registry : Loader σ).wouldHandle request) ∧
      ∀ call ∈ calls, loader.Calls (Name.ofRequest request)
        (matching loader.rules (Name.ofRequest request)) call := by
  cases hhandles : (loader.toLoader registry : Loader σ).wouldHandle request with
  | false =>
    obtain ⟨event, hevent, hdispatch⟩ :=
      Loader.dispatch_of_not_wouldHandle hhandles level requests world
    exact ⟨_, _, [], hdispatch, by rw [World.calls_log hevent, List.append_nil], by simp, by simp⟩
  | true =>
    obtain ⟨answer, after, calls, hrun, hafter, hempty, hcalls⟩ :=
      loader.tryRules_calls registry level requests (Name.ofRequest request)
        (matching loader.rules (Name.ofRequest request)) [] world
    rw [Loader.wouldHandle, Bool.and_eq_true] at hhandles
    obtain ⟨hconsiders, hmatch⟩ := hhandles
    have hsome : matching loader.rules (Name.ofRequest request) ≠ [] := fun hnone => by
      have hnil : Rule.matching (loader.toLoader registry : Loader σ).rules
          (Name.ofRequest request) = [] := by
        rw [toLoader, matching_toRule, hnone]; rfl
      rw [Rule.matching_eq_nil_iff.mp hnil] at hmatch
      cases hmatch
    refine ⟨answer, after, calls, ?_, hafter, by simpa [hempty] using hsome, hcalls⟩
    rw [Loader.dispatch, if_pos hconsiders, toLoader, matching_toRule]
    exact hrun

end CompiledLoader

namespace Manifest

variable {manifest : Manifest} {registry : RegistryId} {loaders : List (Loader σ)}
  {index : Nat} {entry : LoaderEntry} {loader : Loader σ}

/-- A loader of a manifest serves every request, and calls generators for it exactly if it would
handle it. Each call is of a declared rule, for the name of the request, with one capture for each
wildcard of the glob, and every fragment of the rule and its message are filled in: no placeholder
stands for a capture that does not exist. -/
theorem dispatch_fills (hc : manifest.compile registry = .ok loaders)
    (he : manifest.loaders[index]? = some entry) (hl : loaders[index]? = some loader)
    (level : Nat) (requests : Requests σ) (request : String) (world : World σ) :
    ∃ answer after calls, loader.dispatch level requests request world = some (answer, after) ∧
      after.calls = world.calls ++ calls ∧ (calls ≠ [] ↔ loader.wouldHandle request) ∧
      ∀ call ∈ calls, call.loader = loader.id ∧ call.context.name = Name.ofRequest request ∧
        (∃ rule ∈ entry.rules, rule.pattern = call.pattern) ∧
        ∀ (position : Nat) (rule : RuleEntry), entry.rules[position]? = some rule →
          rule.pattern = call.pattern → ∃ compiled, loader.rules[position]? = some compiled ∧
            rule.Filled compiled call.context := by
  obtain ⟨declared, hdeclared, rfl⟩ := exists_declared_of_compile hc
  rw [List.getElem?_map] at hl
  obtain ⟨compiled, hcompiled, rfl⟩ := Option.map_eq_some_iff.mp hl
  have hdeclare := (LoaderEntry.declares_of_declareAll hdeclared).of_getElem? he hcompiled
  have hbecomes := (LoaderEntry.becomes_of_declare hdeclare).rules
  obtain ⟨answer, after, calls, hdispatch, hafter, hhandles, hcalls⟩ :=
    compiled.dispatch_calls registry level requests request world
  refine ⟨answer, after, calls, hdispatch, hafter, hhandles, fun call hcall => ?_⟩
  obtain ⟨hloader, hname, called, hmem, hpattern⟩ := hcalls call hcall
  obtain ⟨hcalled, hcaptures⟩ := CompiledLoader.mem_matching_iff.mp hmem
  refine ⟨hloader, hname, ?_, fun position rule hrule hsame => ?_⟩
  · obtain ⟨rule, hrule, hrule_becomes⟩ := hbecomes.exists_of_mem_right hcalled
    exact ⟨rule, hrule, hrule_becomes.text_glob.symm.trans hpattern⟩
  · obtain ⟨other, hother, hother_becomes⟩ := hbecomes.exists_getElem? hrule
    -- A glob is determined by its text, so rules with one text capture the same.
    have hglob : other.glob = called.glob :=
      Glob.ext_text ((hother_becomes.text_glob.trans hsame).trans hpattern.symm)
    refine ⟨other.toRule, ?_, hother_becomes.filled ?_⟩
    · rw [CompiledLoader.toLoader, List.getElem?_map, hother]; rfl
    · rw [hglob, hname]; exact hcaptures

end Manifest

/-- A rule whose glob has three wildcards, two of them in one segment, before one that fails. -/
def patchedEntry : LoaderEntry where
  id? := some "views"
  fragmentPolicy := .accumulate
  rules := [
    { pattern := "App::V*w*::**", action := .next, fragments := ["# {1}, {2}, {3}", "{{name}}"] },
    { pattern := "App::**", action := .fail, message? := some "{name}: {1} is not there" }]

def patched : Manifest where
  loaders := [patchedEntry]

def patchedLoader : CompiledLoader where
  id := "views"
  rules := [
    { glob := ⟨"App::V*w*::**", [.literal "App", .pieced ["V", "w", ""], .many], by decide,
        by decide⟩
      action := .next
      fragments := [⟨[.text "# ", .capture 1, .text ", ", .capture 2, .text ", ", .capture 3]⟩,
        ⟨[.text "\x7bname\x7d"]⟩]
      message := ⟨[]⟩ },
    { glob := .appTree
      action := .fail
      fragments := []
      message := ⟨[.name, .text ": ", .capture 1, .text " is not there"]⟩ }]
  allowList? := none
  fragmentPolicy := .accumulate
  style := {}

/-- A world in which nothing has happened. -/
def untouched : World Unit where
  memory := ()
  now := ""

theorem patched_dispatch_fills :
    (patched.compile (.own 0) : Except ManifestError (List (Loader Unit))) =
        .ok [patchedLoader.toLoader (.own 0)] ∧
      patched.loaders[0]? = some patchedEntry ∧
      ∃ answer after calls,
        (patchedLoader.toLoader (.own 0)).dispatch 1 (World.resolve 1) "App/View.pm" untouched =
          some (answer, after) ∧
        after.calls = untouched.calls ++ calls ∧
        (calls ≠ [] ↔ (patchedLoader.toLoader (.own 0) : Loader Unit).wouldHandle "App/View.pm") ∧
        ∀ call ∈ calls, call.loader = "views" ∧ call.context.name = Name.ofRequest "App/View.pm" ∧
          (∃ rule ∈ patchedEntry.rules, rule.pattern = call.pattern) ∧
          ∀ (position : Nat) (rule : RuleEntry), patchedEntry.rules[position]? = some rule →
            rule.pattern = call.pattern → ∃ compiled,
              (patchedLoader.toLoader (.own 0) : Loader Unit).rules[position]? = some compiled ∧
                rule.Filled compiled call.context :=
  have declared : patched.declared = .ok [patchedLoader] := by decide +kernel
  have compiled : (patched.compile (.own 0) : Except ManifestError (List (Loader Unit))) =
      .ok [patchedLoader.toLoader (.own 0)] := Manifest.compile_of_declared declared _
  have entry : patched.loaders[0]? = some patchedEntry := rfl
  ⟨compiled, entry, Manifest.dispatch_fills compiled entry rfl 1 (World.resolve 1) "App/View.pm"
    untouched⟩

/-- Both rules are called, the first with captures that are empty but there. -/
example : ((patchedLoader.toLoader (.own 0)).dispatch 1 (World.resolve 1) "App/View.pm"
    untouched).map (·.2.calls) = some [
      ⟨1, "views", "App::V*w*::**", ⟨"App::View", ["ie", "", ""], []⟩⟩,
      ⟨1, "views", "App::**", ⟨"App::View", ["View"], ["# ie, , ", "\x7bname\x7d"]⟩⟩] := by
  decide +kernel

end ModuleSynthesis
