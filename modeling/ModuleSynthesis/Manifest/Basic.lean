import ModuleSynthesis.Loader.Basic

/-!
# Manifests

A manifest declares loaders without generators of their own: each rule says what to do with the
name and which fragments to emit, as templates.

* `Manifest`: the style of the units, the policy of the registry, and the loaders.
* `Manifest.loaderIds`: the ids of the loaders; one without an id is named by its index.
-/

namespace ModuleSynthesis

/-- What a declared rule does. -/
inductive RuleAction where
  /-- Emits its fragments, which are final. -/
  | emit
  /-- Emits its fragments and passes the name on. -/
  | next
  /-- Emits its fragments, which are final, and says that no further rule is to be tried. -/
  | stop
  /-- Fails with its message. -/
  | fail
deriving DecidableEq, Repr, Inhabited

namespace RuleAction

/-- All actions, in the order in which messages list them. -/
def all : List RuleAction := [.emit, .next, .stop, .fail]

/-- The name of an action in a manifest. -/
def name : RuleAction → String
  | .emit => "emit"
  | .next => "next"
  | .stop => "stop"
  | .fail => "fail"

/-- The title of an action in a listing. -/
def title : RuleAction → String
  | .emit => "Emit"
  | .next => "Next"
  | .stop => "Stop"
  | .fail => "Fail"

end RuleAction

namespace RegistryPolicy

/-- All policies, in the order in which messages list them. -/
def all : List RegistryPolicy := [.firstWriterWins, .rejectDuplicates]

/-- The name of a policy in a manifest. -/
def name : RegistryPolicy → String
  | .firstWriterWins => "first_writer_wins"
  | .rejectDuplicates => "reject_duplicates"

/-- The title of a policy in a listing. -/
def title : RegistryPolicy → String
  | .firstWriterWins => "FirstWriterWins"
  | .rejectDuplicates => "RejectDuplicates"

end RegistryPolicy

namespace FragmentPolicy

/-- All policies, in the order in which messages list them. -/
def all : List FragmentPolicy := [.discard, .accumulate]

/-- The name of a policy in a manifest. -/
def name : FragmentPolicy → String
  | .discard => "discard"
  | .accumulate => "accumulate"

end FragmentPolicy

/-- One glob, or a list of them. -/
inductive GlobChoice where
  /-- One glob. -/
  | one (glob : String)
  /-- A list of globs, possibly empty. -/
  | many (globs : List String)
deriving DecidableEq, Repr

/-- The globs, as a list. -/
def GlobChoice.globs : GlobChoice → List String
  | .one glob => [glob]
  | .many globs => globs

/-- A rule of a manifest. -/
structure RuleEntry where
  /-- The glob. -/
  pattern : String
  /-- What the rule does. -/
  action : RuleAction := .emit
  /-- The fragments, as templates. -/
  fragments : List String := []
  /-- The message of a failing rule, as a template. -/
  message? : Option String := none
deriving DecidableEq, Repr

/-- A loader of a manifest. -/
structure LoaderEntry where
  /-- The id, where there is one. -/
  id? : Option String := none
  /-- The allow-list, where there is one. -/
  matchOnly? : Option GlobChoice := none
  /-- What becomes of the fragments of a rule that passes a name on. -/
  fragmentPolicy : FragmentPolicy := .discard
  /-- The rules, in order. -/
  rules : List RuleEntry := []
deriving DecidableEq, Repr

/-- The id of the loader at an index. -/
def LoaderEntry.idAt (entry : LoaderEntry) (index : Nat) : String :=
  entry.id?.getD ("loader." ++ toString index)

/-- A declaration of loaders. -/
structure Manifest where
  /-- The lines around the fragments of every unit. -/
  style : Style := {}
  /-- What the registry does with a second record for a name. -/
  policy : RegistryPolicy := .firstWriterWins
  /-- The loaders, in the order in which they are asked. -/
  loaders : List LoaderEntry := []
deriving DecidableEq, Repr

namespace Manifest

/-- The ids of the loaders, in order. -/
def loaderIds (manifest : Manifest) : List String :=
  manifest.loaders.mapIdx fun index entry => entry.idAt index

/-- A registry with the policy of a manifest. -/
def newRegistry (manifest : Manifest) : Registry :=
  { policy := manifest.policy }

end Manifest

end ModuleSynthesis
