import ModuleSynthesis.Generator
import ModuleSynthesis.Glob
import ModuleSynthesis.Text.Quoted

/-!
# Rules

A rule binds a generator to a glob. Rules stand in a list and are tried in its order.

* `Rule.compile`: a rule from the text of its glob.
* `Rule.matching`: the rules of a list that match a name, with their captures.
* `Rule.anyMatch`: whether some rule of a list matches a name.
-/

namespace ModuleSynthesis

/-- A generator for the names that a glob matches. -/
structure Rule (σ : Type) where
  /-- The names. -/
  glob : Glob
  /-- The generator. -/
  generator : Generator σ

namespace Rule

variable {σ : Type}

/-- A rule from the text of its glob. -/
def compile (glob : String) (generator : Generator σ) : Except GlobError (Rule σ) :=
  (Glob.compile glob).map (⟨·, generator⟩)

/-- The rules of a list that match a name, in order, with their captures. -/
def matching (rules : List (Rule σ)) (name : String) : List (Rule σ × List String) :=
  rules.filterMap fun rule => (rule.glob.captures? name).map (rule, ·)

/-- Whether some rule of a list matches a name. -/
def anyMatch (rules : List (Rule σ)) (name : String) : Bool :=
  rules.any (·.glob.isMatch name)

/-- A one-line description of a rule. -/
def describe (rule : Rule σ) : String :=
  "Rule \x7b pattern: " ++ Text.quoted rule.glob.text ++ ", .. \x7d"

end Rule

end ModuleSynthesis
