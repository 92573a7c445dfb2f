import ModuleSynthesis.Failure
import ModuleSynthesis.Name
import ModuleSynthesis.Source

/-!
# Generators

A generator is asked for the fragments of a module. It sees the name, the captures of the glob
that matched it, and the fragments that earlier rules have left. While it runs it may consult a
memory that all generators share and may request other modules; in the end it says which fragments
it adds and how it leaves. Fragments can only be added.

* `Context`: what a generator sees.
* `Exit`: how a generator leaves.
* `Program`: a computation that may use the memory and request modules.
* `Generator`: a program for each context.
-/

namespace ModuleSynthesis

/-- What a generator sees. -/
structure Context where
  /-- The name of the module. -/
  name : String
  /-- What the wildcards of the glob stand for. -/
  captures : List String
  /-- The fragments so far. -/
  fragments : List String := []
deriving DecidableEq, Repr

namespace Context

/-- The segments of the name. -/
def segments (context : Context) : List String :=
  Name.segments context.name

/-- The last segment of the name. -/
def leaf (context : Context) : String :=
  Name.leaf context.name

/-- A capture by its number, counted from 1. -/
def capture? (context : Context) (index : Nat) : Option String :=
  captureAt? context.captures index

/-- The context with more fragments. -/
def emitAll (context : Context) (fragments : List String) : Context :=
  { context with fragments := context.fragments ++ fragments }

/-- The context with one more fragment. -/
def emit (context : Context) (fragment : String) : Context :=
  context.emitAll [fragment]

end Context

/-- How a generator leaves. -/
inductive Exit where
  /-- The fragments are final. -/
  | done
  /-- Another rule is to be tried. -/
  | next
  /-- No further rule is to be tried, and the fragments are final. -/
  | stop
  /-- The request fails. -/
  | fail (cause : Cause)

/-- What a generator has done. -/
structure Outcome where
  /-- The fragments that it added. -/
  emitted : List String
  /-- How it left. -/
  exit : Exit

/-- What becomes of a request: a unit, nothing when nobody takes it up, or a failure. -/
abbrev Answer := Except DispatchError (Option SourceUnit)

/-- A computation over a memory `σ` that may request modules. -/
inductive Program (σ α : Type) where
  /-- The computation is over. -/
  | done (result : α)
  /-- The memory is changed, and the computation goes on with what it was before. -/
  | update (change : σ → σ) (next : σ → Program σ α)
  /-- A module is requested, and the computation goes on with the answer. -/
  | resolve (request : String) (next : Answer → Program σ α)

/-- One computation after another. -/
def Program.bind {σ α β : Type} : Program σ α → (α → Program σ β) → Program σ β
  | .done result, rest => rest result
  | .update change next, rest => .update change fun memory => (next memory).bind rest
  | .resolve request next, rest => .resolve request fun answer => (next answer).bind rest

instance {σ : Type} : Monad (Program σ) where
  pure := .done
  bind := .bind

/-- A program for each context. -/
abbrev Generator (σ : Type) := Context → Program σ Outcome

end ModuleSynthesis
